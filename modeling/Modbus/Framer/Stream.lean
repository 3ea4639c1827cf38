import Modbus.Framer.Interface

/-! # Modbus.Framer.Stream — framing a stream cut into chunks

A framer reads a stream made of leading noise `G` and whole packets
`p₁ ++ ... ++ pₖ`. What it must do is stated once, over its own methods
(`Reads`): on a buffer holding noise and a whole packet it extracts that packet
(`Reads.extract`), and on noise followed by an unfinished packet it waits
(`Reads.wait`). From these two facts alone:

* `frameLoop_reads` — one pass over `noise ++ q₁ ++ ... ++ qⱼ ++ r` hands
  the `qᵢ` to the decoder in order and keeps `r`;
* `frameLoop_append` — one pass over `q₁ ++ ... ++ qⱼ ++ r`, for any `r`, hands
  the `qᵢ` to the decoder and goes on as a pass over `r` alone;
* `feed_reads` — however the stream is cut into chunks, feeding them one call
  of `process_incoming_packet` each hands every packet to the decoder once, in
  order, calls back on each result, raises nothing, and ends with an empty
  buffer once a packet was seen.

The per-framer modules prove `Reads` for their wire formats. `feed_stuck` is the
other side: a framer whose every pass keeps its buffer never gets past it.
-/

namespace Modbus

open Bytes

/-- `r` is a proper beginning of the packet that heads `ps`. -/
def Unfinished (ps : List Bytes) (r : Bytes) : Prop :=
  ∃ q qs, ps = q :: qs ∧ r <+: q ∧ r.length < q.length

/-- What a framer does on its own wire format, with noise it tolerates (`Junk`)
in front: the framing facts every stream theorem rests on. -/
structure Reads {σ : Type} (F : Framer σ) (Junk Good : Bytes → Prop)
    (frame : Bytes → Bytes) (fill : Bytes → Pdu → Pdu) : Prop where
  junk_nil : Junk []
  junk_append : ∀ a b, Junk a → Junk b → Junk (a ++ b)
  junk_left : ∀ a b, Junk (a ++ b) → Junk a
  junk_right : ∀ a b, Junk (a ++ b) → Junk b
  good_ne_nil : ∀ p, Good p → p ≠ []
  buffer_add : ∀ s c, F.buffer (F.addToFrame s c) = F.buffer s ++ c
  /-- Noise then a whole packet: the packet checks out, its frame is extracted,
  and advancing leaves what followed it. -/
  extract : ∀ s g p rest, Junk g → Good p → F.buffer s = g ++ p ++ rest →
    F.isFrameReady s = true ∧ ∃ s₁, F.checkFrame s = .ok true s₁ ∧
      F.getFrame s₁ = .ok (frame p) ∧ F.populateResult s₁ = fill p ∧
      F.buffer (F.advanceFrame s₁) = rest
  /-- Noise then the beginning of a packet: nothing checks out, and at most the
  noise is dropped. -/
  wait : ∀ s g r, Junk g → (r = [] ∨ ∃ p, Good p ∧ r <+: p ∧ r.length < p.length) →
    F.buffer s = g ++ r → F.isFrameReady s = true →
      ∃ s₁, F.checkFrame s = .ok false s₁ ∧ (F.buffer s₁ = g ++ r ∨ F.buffer s₁ = r)

/-! ## Built packets -/

/-- The message a serial framer, RTU or ASCII, hands the callback for a built
packet of `P`: what the decoder made of its frame, with `P`'s unit id copied
in by `populate_result`. -/
def serialHanded (D : Bytes → Pdu) (P : Pdu) : Pdu :=
  { D (UInt8.ofNat P.functionCode :: P.encode) with unitId := P.unitId }

section Built

variable {β : Type} {build : Pdu → Except Exc Bytes} {Ps : List Pdu} {pkts : List Bytes}

/-- Every packet of a built list was built from one of the messages. -/
theorem exists_of_map_ok (h : Ps.map build = pkts.map .ok) {q : Bytes} (hq : q ∈ pkts) :
    ∃ P ∈ Ps, build P = .ok q := by
  induction Ps generalizing pkts with
  | nil => cases pkts <;> simp_all
  | cons P Ps ih =>
    cases pkts with
    | nil => simp at h
    | cons p ps =>
      simp only [List.map_cons, List.cons.injEq] at h
      rcases List.mem_cons.mp hq with rfl | hq
      · exact ⟨P, List.mem_cons_self P Ps, h.1⟩
      · obtain ⟨P', hP', hb⟩ := ih h.2 hq
        exact ⟨P', List.mem_cons_of_mem P hP', hb⟩

/-- What is read off each built packet is read off its message. -/
theorem map_eq_of_map_ok (h : Ps.map build = pkts.map .ok) {f : Bytes → β} {g : Pdu → β}
    (hfg : ∀ P p, build P = .ok p → f p = g P) : pkts.map f = Ps.map g := by
  induction Ps generalizing pkts with
  | nil => cases pkts <;> simp_all
  | cons P Ps ih =>
    cases pkts with
    | nil => simp at h
    | cons p ps =>
      simp only [List.map_cons, List.cons.injEq] at h ⊢
      exact ⟨hfg P p h.1, ih h.2⟩

end Built

/-! ## Cutting a stream -/

/-- A beginning of a concatenation of packets is some whole packets and a
proper beginning of the next one. -/
theorem append_eq_flatten {c z : Bytes} : ∀ {ps : List Bytes}, c ++ z = ps.flatten →
    ∃ i r, c = (ps.take i).flatten ++ r ∧ r ++ z = (ps.drop i).flatten ∧
      (r = [] ∨ Unfinished (ps.drop i) r)
  | [], h => by
    obtain ⟨rfl, rfl⟩ := List.append_eq_nil.mp h
    exact ⟨0, [], by simp, by simp, .inl rfl⟩
  | q :: qs, h => by
    rw [List.flatten_cons, List.append_eq_append_iff] at h
    rcases h with ⟨a, hq, hz⟩ | ⟨d, hc, hd⟩
    · rcases a with _ | ⟨x, b⟩
      · exact ⟨1, [], by simp [hq], by simpa using hz, .inl rfl⟩
      · refine ⟨0, c, by simp, by simp [hq, hz], .inr ⟨q, qs, rfl, ⟨x :: b, hq.symm⟩, ?_⟩⟩
        simp [hq]
    · obtain ⟨i, r, rfl, hr, hu⟩ := append_eq_flatten hd.symm
      exact ⟨i + 1, r, by simp [hc], by simpa using hr, by simpa using hu⟩

variable {σ γ : Type} {F : Framer σ} {decode : Bytes → Except Exc (Option Pdu)}
  {callback : Pdu → γ → γ × Option Exc} {Junk Good : Bytes → Prop}
  {frame : Bytes → Bytes} {fill : Bytes → Pdu → Pdu} {D : Bytes → Pdu}

/-- The callback's state after it was handed `xs`, in order. -/
def afterCallbacks (callback : Pdu → γ → γ × Option Exc) (xs : List Pdu) (e : γ) : γ :=
  xs.foldl (fun e x => (callback x e).1) e

/-- The callback's state after it was handed the results of the packets `qs`. -/
def envAfter (callback : Pdu → γ → γ × Option Exc) (fill : Bytes → Pdu → Pdu)
    (D : Bytes → Pdu) (qs : List Bytes) (e : γ) : γ :=
  afterCallbacks callback (qs.map fun q => fill q (D q)) e

theorem envAfter_append (qs qs' : List Bytes) (e : γ) :
    envAfter callback fill D (qs ++ qs') e =
      envAfter callback fill D qs' (envAfter callback fill D qs e) := by
  simp [envAfter, afterCallbacks, List.foldl_append]

/-- The callback, handed `xs` in turn from the state `e`, raises on none of
them. -/
def Quiet (callback : Pdu → γ → γ × Option Exc) : List Pdu → γ → Prop
  | [], _ => True
  | x :: xs, e => (callback x e).2 = none ∧ Quiet callback xs (callback x e).1

theorem quiet_append {xs ys : List Pdu} {e : γ} :
    Quiet callback (xs ++ ys) e ↔ Quiet callback xs e ∧ Quiet callback ys (afterCallbacks callback xs e) := by
  induction xs generalizing e with
  | nil => simp [Quiet, afterCallbacks]
  | cons x xs ih => simp [Quiet, afterCallbacks, ih, and_assoc]

/-- A callback that raises from no state is quiet on every list. -/
theorem quiet_of_forall {xs : List Pdu} (h : ∀ x ∈ xs, ∀ e, (callback x e).2 = none) (e : γ) :
    Quiet callback xs e := by
  induction xs generalizing e with
  | nil => trivial
  | cons x xs ih =>
    exact ⟨h x (List.mem_cons_self x xs) e, ih (fun y hy => h y (List.mem_cons_of_mem x hy)) _⟩

theorem feed_cons (s : σ) (e : γ) (c : Bytes) (cs : List Bytes) :
    feed F decode callback s e (c :: cs) =
      let p := processIncomingPacket F decode callback c s e
      let q := feed F decode callback p.framer p.env cs
      ⟨q.framer, q.env, p.decoded ++ q.decoded, p.raised ++ q.raised⟩ := rfl

theorem Unfinished.good {ps : List Bytes} {r : Bytes}
    (hps : ∀ q ∈ ps, Good q ∧ decode (frame q) = .ok (some (D q))) (hu : Unfinished ps r) :
    ∃ p, Good p ∧ r <+: p ∧ r.length < p.length := by
  obtain ⟨q, qs, rfl, hq, hl⟩ := hu
  exact ⟨q, (hps q (List.mem_cons_self q qs)).1, hq, hl⟩

/-- A stream that ends in its noise or inside its first packet holds no whole
packet. -/
theorem eq_nil_of_stream_end (hR : Reads F Junk Good frame fill) {ps : List Bytes} {r J' : Bytes}
    (hps : ∀ q ∈ ps, Good q) (hflat : r = J' ++ ps.flatten) (hr : r = [] ∨ (J' = [] ∧ Unfinished ps r)) :
    ps = [] := by
  rcases hr with rfl | ⟨rfl, q, qs, rfl, -, hl⟩
  · rcases ps with _ | ⟨q, qs⟩
    · rfl
    · have h0 : q = [] := by simp at hflat; exact hflat.2.1
      exact absurd h0 (hR.good_ne_nil q (hps q (List.mem_cons_self q qs)))
  · have := congrArg List.length hflat
    simp at this
    omega

/-! ## One pass -/

/-- One pass over noise, whole packets `qs` and an unfinished packet `r` hands
the packets to the decoder in order and keeps `r`, with the noise gone once a
packet was seen. -/
theorem frameLoop_reads (hR : Reads F Junk Good frame fill) (r : Bytes)
    (hr : r = [] ∨ ∃ p, Good p ∧ r <+: p ∧ r.length < p.length) :
    ∀ (qs : List Bytes), (∀ q ∈ qs, Good q ∧ decode (frame q) = .ok (some (D q))) →
    ∀ (g : Bytes) (s : σ) (e : γ), Quiet callback (qs.map fun q => fill q (D q)) e →
    Junk g → F.buffer s = g ++ qs.flatten ++ r →
    (frameLoop F decode callback s e).decoded = qs.map frame ∧
    (frameLoop F decode callback s e).env = envAfter callback fill D qs e ∧
    (frameLoop F decode callback s e).raised = [] ∧
    (F.buffer (frameLoop F decode callback s e).framer = r ∨
      (qs = [] ∧ F.buffer (frameLoop F decode callback s e).framer = g ++ r))
  | [], _, g, s, e, _, hg, hs => by
    cases hready : F.isFrameReady s
    · rw [frameLoop_not_ready hready]
      exact ⟨rfl, rfl, rfl, .inr ⟨rfl, by simpa using hs⟩⟩
    · obtain ⟨s₁, hc, hb⟩ := hR.wait s g r hg hr (by simpa using hs) hready
      rw [frameLoop_check_false hready hc]
      exact ⟨rfl, rfl, rfl, hb.elim (fun h => .inr ⟨rfl, h⟩) .inl⟩
  | q :: qs, hq, g, s, e, ⟨hcb, hquiet⟩, hg, hs => by
    have ⟨hgood, hdec⟩ := hq q (List.mem_cons_self q qs)
    obtain ⟨hready, s₁, hc, hf, hpop, hadv⟩ :=
      hR.extract s g q (qs.flatten ++ r) hg hgood (by simpa [List.append_assoc] using hs)
    have hcb' : callback (F.populateResult s₁ (D q)) e = ((callback (fill q (D q)) e).1, none) := by
      rw [hpop, ← hcb]
    rw [frameLoop_frame hready hc hf hdec hcb']
    obtain ⟨h1, h2, h3, h4⟩ := frameLoop_reads hR r hr qs
      (fun q' hq' => hq q' (List.mem_cons_of_mem q hq')) [] _ _ hquiet hR.junk_nil (by simpa using hadv)
    refine ⟨by simp [h1], by simpa [envAfter, afterCallbacks] using h2, h3, .inl ?_⟩
    rcases h4 with h | ⟨-, h⟩ <;> simpa using h

/-- One pass over whole packets `qs` then anything `r` hands the packets to the
decoder in order, and goes on from a state whose buffer is `r`. -/
theorem frameLoop_append (hR : Reads F Junk Good frame fill) (r : Bytes) :
    ∀ (qs : List Bytes), (∀ q ∈ qs, Good q ∧ decode (frame q) = .ok (some (D q))) →
    (∀ q ∈ qs, ∀ e, (callback (fill q (D q)) e).2 = none) →
    ∀ (s : σ) (e : γ), F.buffer s = qs.flatten ++ r →
    ∃ s', F.buffer s' = r ∧ frameLoop F decode callback s e =
      let p := frameLoop F decode callback s' (envAfter callback fill D qs e)
      { p with decoded := qs.map frame ++ p.decoded }
  | [], _, _, s, e, hs => ⟨s, by simpa using hs, rfl⟩
  | q :: qs, hq, hcb, s, e, hs => by
    have ⟨hgood, hdec⟩ := hq q (List.mem_cons_self q qs)
    obtain ⟨hready, s₁, hc, hf, hpop, hadv⟩ :=
      hR.extract s [] q (qs.flatten ++ r) hR.junk_nil hgood (by simpa using hs)
    have hcb' : callback (F.populateResult s₁ (D q)) e = ((callback (fill q (D q)) e).1, none) := by
      rw [hpop, ← hcb q (List.mem_cons_self q qs) e]
    obtain ⟨s', hs', h⟩ := frameLoop_append hR r qs (fun q' hq' => hq q' (List.mem_cons_of_mem q hq'))
      (fun q' hq' => hcb q' (List.mem_cons_of_mem q hq')) _ (callback (fill q (D q)) e).1 hadv
    refine ⟨s', hs', ?_⟩
    rw [frameLoop_frame hready hc hf hdec hcb', h]
    rfl

/-! ## Chunks -/

/-- The invariant of a chunked run: the buffer holds noise `J` and the
beginning `r` of what is still to come, and the chunks still to be fed complete
`r` to more noise `J'` (none once a packet began) and the remaining packets. -/
theorem feed_reads_aux (hR : Reads F Junk Good frame fill) :
    ∀ (cs ps : List Bytes) (s : σ) (e : γ) (J r J' : Bytes),
    (∀ q ∈ ps, Good q ∧ decode (frame q) = .ok (some (D q))) →
    Quiet callback (ps.map fun q => fill q (D q)) e →
    Junk J → Junk J' → F.buffer s = J ++ r → r ++ cs.flatten = J' ++ ps.flatten →
    (r = [] ∨ (J' = [] ∧ Unfinished ps r)) →
    (feed F decode callback s e cs).decoded = ps.map frame ∧
    (feed F decode callback s e cs).env = envAfter callback fill D ps e ∧
    (feed F decode callback s e cs).raised = [] ∧
    Junk (F.buffer (feed F decode callback s e cs).framer) ∧
    (ps ≠ [] ∨ (J = [] ∧ J' = []) → F.buffer (feed F decode callback s e cs).framer = [])
  | [], ps, s, e, J, r, J', hps, _, hJ, hJ', hs, hflat, hr => by
    obtain rfl := eq_nil_of_stream_end hR (fun q hq => (hps q hq).1) (by simpa using hflat) hr
    rcases hr with rfl | ⟨-, q, qs, h, -⟩
    · refine ⟨rfl, rfl, rfl, by simpa [feed, hs] using hJ, fun h => ?_⟩
      simp only [ne_eq, not_true_eq_false, false_or] at h
      simp [feed, hs, h.1]
    · exact absurd h (List.cons_ne_nil q qs).symm
  | c :: cs, ps, s, e, J, r, J', hps, hcb, hJ, hJ', hs, hflat, hr => by
    set s' := if c = [] then s else F.addToFrame s c with hs'
    have hbuf : F.buffer s' = J ++ (r ++ c) := by
      by_cases hc : c = [] <;> simp [hs', hc, hR.buffer_add, hs]
    have hstream : (r ++ c) ++ cs.flatten = J' ++ ps.flatten := by simpa using hflat
    rw [feed_cons]
    simp only [processIncomingPacket, ← hs']
    rw [List.append_eq_append_iff] at hstream
    rcases hstream with ⟨J₂, hJ'eq, hcs⟩ | ⟨c', hX, hc'⟩
    · -- everything fed so far is noise
      subst hJ'eq
      have hX : Junk (r ++ c) := hR.junk_left _ _ hJ'
      obtain ⟨h1, h2, h3, h4⟩ := frameLoop_reads (D := D) hR [] (.inl rfl) []
        (fun _ h => absurd h (List.not_mem_nil _)) (J ++ (r ++ c)) s' e trivial
        (hR.junk_append _ _ hJ hX) (by simp [hbuf])
      set p := frameLoop F decode callback s' e
      obtain ⟨Jn, hJn, hbn, hcl⟩ : ∃ Jn, Junk Jn ∧ F.buffer p.framer = Jn ++ [] ∧
          (J = [] ∧ r ++ c ++ J₂ = [] → Jn = []) := by
        rcases h4 with h | ⟨-, h⟩
        · exact ⟨[], hR.junk_nil, by simpa using h, fun _ => rfl⟩
        · refine ⟨J ++ (r ++ c), hR.junk_append _ _ hJ hX, by simpa using h, fun ⟨h1, h2⟩ => ?_⟩
          simp only [List.append_eq_nil] at h2
          simp [h1, h2]
      obtain ⟨i1, i2, i3, i4, i5⟩ := feed_reads_aux hR cs ps p.framer p.env Jn [] J₂ hps
        (by rw [h2]; exact hcb) hJn
        (hR.junk_right _ _ hJ') hbn (by simpa using hcs) (.inl rfl)
      refine ⟨by simp [h1, i1], by rw [i2, h2]; rfl, by simp [h3, i3], i4, fun h => i5 ?_⟩
      rcases h with h | ⟨h1, h2⟩
      · exact .inl h
      · simp only [List.append_eq_nil] at h2
        exact .inr ⟨hcl ⟨h1, by simp [h2]⟩, h2.2⟩
    · -- the noise is over: whole packets and the beginning of the next one
      obtain ⟨i, r', rfl, hr', hu⟩ := append_eq_flatten hc'.symm
      have hps' : ∀ q ∈ ps.take i, Good q ∧ decode (frame q) = .ok (some (D q)) :=
        fun q hq => hps q (List.mem_of_mem_take hq)
      have hdrop : ∀ q ∈ ps.drop i, Good q ∧ decode (frame q) = .ok (some (D q)) :=
        fun q hq => hps q (List.mem_of_mem_drop hq)
      have hgood : r' = [] ∨ ∃ p, Good p ∧ r' <+: p ∧ r'.length < p.length :=
        hu.imp_right (Unfinished.good hdrop)
      rw [← List.take_append_drop i ps, List.map_append, quiet_append] at hcb
      obtain ⟨h1, h2, h3, h4⟩ := frameLoop_reads hR r' hgood (ps.take i) hps' (J ++ J') s' e hcb.1
        (hR.junk_append _ _ hJ hJ') (by simp [hbuf, hX])
      set p := frameLoop F decode callback s' e
      obtain ⟨Jn, hJn, hbn, hcl⟩ : ∃ Jn, Junk Jn ∧ F.buffer p.framer = Jn ++ r' ∧
          (Jn = [] ∨ (Jn = J ++ J' ∧ ps.take i = [])) := by
        rcases h4 with h | ⟨ht, h⟩
        · exact ⟨[], hR.junk_nil, by simpa using h, .inl rfl⟩
        · exact ⟨J ++ J', hR.junk_append _ _ hJ hJ', h, .inr ⟨rfl, ht⟩⟩
      obtain ⟨i1, i2, i3, i4, i5⟩ := feed_reads_aux hR cs (ps.drop i) p.framer p.env Jn r' []
        hdrop (by rw [h2]; exact hcb.2) hJn hR.junk_nil hbn (by simpa using hr') (hu.imp_right (⟨rfl, ·⟩))
      refine ⟨?_, ?_, by simp [h3, i3], i4, fun h => i5 ?_⟩
      · rw [h1, i1, ← List.map_append, List.take_append_drop]
      · rw [i2, h2, ← envAfter_append, List.take_append_drop]
      · rcases hcl with rfl | ⟨rfl, ht⟩
        · exact .inr ⟨rfl, rfl⟩
        · rcases List.take_eq_nil_iff.mp ht with rfl | rfl
          · rcases h with h | ⟨rfl, rfl⟩
            · exact .inl (by simpa using h)
            · exact .inr ⟨rfl, rfl⟩
          · simp at h
            exact .inr ⟨by simp [h.1, h.2], rfl⟩

/-- **However a stream of noise `G` and packets `ps` is cut into chunks, feeding
them to a fresh framer hands every packet's frame to the decoder once, in order,
calls back on each populated result, raises nothing when the callback raises
on none of them, and ends with an empty buffer once a packet was seen.** -/
theorem feed_reads (hR : Reads F Junk Good frame fill) (ps : List Bytes)
    (hps : ∀ q ∈ ps, Good q ∧ decode (frame q) = .ok (some (D q)))
    (G : Bytes) (hG : Junk G) (cs : List Bytes) (hcs : cs.flatten = G ++ ps.flatten)
    (s : σ) (hs : F.buffer s = []) (e : γ) (hcb : Quiet callback (ps.map fun q => fill q (D q)) e) :
    (feed F decode callback s e cs).decoded = ps.map frame ∧
    (feed F decode callback s e cs).env = envAfter callback fill D ps e ∧
    (feed F decode callback s e cs).raised = [] ∧
    Junk (F.buffer (feed F decode callback s e cs).framer) ∧
    (ps ≠ [] → F.buffer (feed F decode callback s e cs).framer = []) := by
  obtain ⟨h1, h2, h3, h4, h5⟩ := feed_reads_aux hR cs ps s e [] [] G hps hcb hR.junk_nil hG
    (by simpa using hs) (by simpa using hcs) (.inl rfl)
  exact ⟨h1, h2, h3, h4, fun h => h5 (.inl h)⟩

/-! ## Stuck framers

The loop breaks at the first frame that does not check out, and raises at a
frame the decoder rejects before `advance_frame`: either way the frame stays in
the buffer. Where that cannot change as bytes arrive, the framer never gets
past it again, and no later packet reaches the callback. -/

/-- **A framer that cannot get past its buffer stays there.** If one pass, on
every buffer with the property `Q`, keeps the buffer and the callback's state,
and hands the decoder and raises only what `PD` and `PX` allow, then chunks
that keep the buffer in `Q` all the way are only appended: the callback is
never called, and all that is decoded or raised is allowed. -/
theorem feed_stuck (hadd : ∀ s c, F.buffer (F.addToFrame s c) = F.buffer s ++ c)
    (Q : Bytes → Prop) (PD : Bytes → Prop) (PX : Exc → Prop)
    (hloop : ∀ s e, Q (F.buffer s) →
      (frameLoop F decode callback s e).env = e ∧
      F.buffer (frameLoop F decode callback s e).framer = F.buffer s ∧
      (∀ d ∈ (frameLoop F decode callback s e).decoded, PD d) ∧
      ∀ x ∈ (frameLoop F decode callback s e).raised, PX x) :
    ∀ (cs : List Bytes) (s : σ) (e : γ), (∀ m, m <+: cs.flatten → Q (F.buffer s ++ m)) →
      (feed F decode callback s e cs).env = e ∧
      F.buffer (feed F decode callback s e cs).framer = F.buffer s ++ cs.flatten ∧
      (∀ d ∈ (feed F decode callback s e cs).decoded, PD d) ∧
      ∀ x ∈ (feed F decode callback s e cs).raised, PX x
  | [], s, e, _ => ⟨rfl, by simp [feed], by simp [feed], by simp [feed]⟩
  | c :: cs, s, e, hQ => by
    set s' := if c = [] then s else F.addToFrame s c with hs'
    have hbuf : F.buffer s' = F.buffer s ++ c := buffer_added hadd s c
    obtain ⟨h1, h2, h3, h4⟩ := hloop s' e (hbuf ▸ hQ c (List.prefix_append c cs.flatten))
    have hrest : ∀ m, m <+: cs.flatten →
        Q (F.buffer (frameLoop F decode callback s' e).framer ++ m) := fun m hm => by
      rw [h2, hbuf, List.append_assoc]
      exact hQ (c ++ m) (List.prefix_append_right_inj c |>.mpr hm)
    obtain ⟨i1, i2, i3, i4⟩ := feed_stuck hadd Q PD PX hloop cs _ _ hrest
    rw [feed_cons]
    simp only [processIncomingPacket, ← hs', List.mem_append, List.flatten_cons]
    refine ⟨by rw [i1, h1], by rw [i2, h2, hbuf, List.append_assoc], ?_, ?_⟩
    · rintro d (hd | hd)
      exacts [h3 d hd, i3 d hd]
    · rintro x (hx | hx)
      exacts [h4 x hx, i4 x hx]

end Modbus
