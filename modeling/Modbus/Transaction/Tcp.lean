import Modbus.Framer.Socket
import Modbus.Transaction.Transport

/-! # Modbus.Transaction.Tcp — `execute` over TCP

A `DictTransactionManager` whose client owns a `ModbusSocketFramer`
(`tcpSetup`). While it reads a reply `q`, where it is depends only on the bytes
`b` of `q` it has read (`midway`): the header state until seven bytes are in,
then the content state with `q`'s header, and the complete frame once all of
`q` is in.

* `framingStep_midway` — one turn on data still to come reads a non-empty
  beginning of it and moves the manager on to where the longer read puts it;
* `handleMessageFraming_deliver`, `handleMessageFraming_failReceive` — by
  induction over the data, a reply delivered whole is committed to the table
  under its own transaction id, and a read that fails midway leaves a framer
  that the next attempt's `advance_frame()` clears (`advanceFrame_midway`);
* `executeLoop_tcp` — by induction over the failed attempts, the attempt that
  gets through commits the reply;
* `execute_tcp` — `execute` returns the reply and leaves the buffer empty; the
  table is the one before without the request's entry, so what earlier calls
  left there stays (`execute_tcp_stale_entry`);
* `execute_tcp_foreign` — a reply under another transaction id is filed and
  kept, and `execute` returns `None`.
-/

namespace Modbus

open Bytes SocketFramer

/-- A `DictTransactionManager` whose client owns a `ModbusSocketFramer` with
decoder `decode` and follows a script. -/
def tcpSetup (decode : Bytes → Except Exc (Option Pdu)) (retries : Nat) (retryOnEmpty : Bool) :
    ManagerSetup SocketFramer (TidDict Pdu) Scripted :=
  { framer := socketFramer, decode := decode, table := dictPolicy, client := scripted,
    retries := retries, retryOnEmpty := retryOnEmpty }

namespace SocketFramer

/-- A built packet's header announces `len ≥ 2`, and the packet is `len + 6`
bytes long. -/
theorem Built.header {q : Bytes} (h : Built q) :
    2 ≤ (unpackHeader q).len ∧ q.length = (unpackHeader q).len + 6 := by
  obtain ⟨m, hm⟩ := h
  obtain ⟨u, -, hu, ht, hp, -, hl, rfl⟩ := buildPacket_eq_ok hm
  rw [unpackHeader_headerOf hu ht hp hl]
  simp only [List.length_append, length_headerOf, List.length_cons]
  omega

theorem unpackHeader_of_prefix {b q : Bytes} (hb : b <+: q) (h7 : 7 ≤ b.length) :
    unpackHeader b = unpackHeader q := by
  obtain ⟨t, rfl⟩ := hb
  exact (unpackHeader_append h7 t).symm

/-- Where the manager is once it has read `b` of the reply `q`: reading the
header until seven bytes are in, then reading the frame `q`'s header announces,
and holding a complete frame once all of `q` is in. -/
def midway (q b : Bytes) : FramerState × SocketFramer :=
  if b.length < 7 then (.readingHeader, ⟨b, {}⟩)
  else (if b.length < q.length then .readingContent else .completeFrame, ⟨b, unpackHeader q⟩)

@[simp] theorem midway_nil (q : Bytes) : midway q [] = (.readingHeader, {}) := rfl

theorem midway_self {q : Bytes} (hq : Built q) :
    midway q q = (.completeFrame, ⟨q, unpackHeader q⟩) := by
  have := hq.header
  simp [midway]
  omega

/-- Whatever a read that stopped midway through a reply left, the next
attempt's `advance_frame()` clears. -/
theorem advanceFrame_midway {q b : Bytes} (hq : Built q) (hb : b.length < q.length) :
    advanceFrame (midway q b).2 = {} := by
  have := hq.header
  unfold midway
  split_ifs <;> simp [advanceFrame, getFrameSize] <;> omega

end SocketFramer

/-! ## One turn -/

section Turn

variable {decode : Bytes → Except Exc (Option Pdu)} {N : Nat} {o : Bool}
  {q : Bytes} {m : Manager SocketFramer (TidDict Pdu) Scripted}

theorem midway_of_lt {b : Bytes} (h : b.length < 7) :
    (midway q b).1 = .readingHeader ∧ (midway q b).2 = ⟨b, {}⟩ := by
  simp [midway, h]

theorem midway_of_le {b : Bytes} (h : 7 ≤ b.length) (hb : b.length < q.length) :
    (midway q b).1 = .readingContent ∧ (midway q b).2 = ⟨b, unpackHeader q⟩ := by
  simp [midway, hb, not_lt.mpr h]

/-- One turn on data still to come: the manager reads a non-empty beginning `c`
of it, and is then where having read `b ++ c` of `q` puts it. -/
theorem framingStep_midway (hq : Built q) {b data : Bytes} (hbd : b ++ data <+: q) (hd : data ≠ [])
    {mk : Bytes → Plan} (hmk : mk = .deliver ∨ mk = .failReceive)
    (hs : m.state = some (midway q b).1) (hf : m.framer = (midway q b).2)
    (hw : m.client.plan = mk data) (hc : Splitting m.client.cuts) (r : Nat) :
    ∃ c rest m', c ≠ [] ∧ data = c ++ rest ∧
      framingStep (tcpSetup decode N o) r m = .ok (none, r) m' ∧
      m'.state = some (midway q (b ++ c)).1 ∧ m'.framer = (midway q (b ++ c)).2 ∧
      m'.client = { m.client with plan := mk rest, cuts := m.client.cuts.tail } ∧
      m'.transactions = m.transactions := by
  have ⟨h2, hl⟩ := hq.header
  have hlen := hbd.length_le
  have hd' := List.length_pos.mpr hd
  simp only [List.length_append] at hlen
  by_cases h7 : b.length < 7
  · rw [(midway_of_lt h7).1] at hs
    rw [(midway_of_lt h7).2] at hf
    obtain ⟨c, rest, hc0, rfl, hcl, hread⟩ := readInto_data (C := tcpSetup decode N o) rfl hmk hw hd
      hc (show (0 : Int) < 7 - b.length by omega) r
    have hc' := List.length_pos.mpr hc0
    have hsize : ((tcpSetup decode N o).framer.headerSize : Int) -
        ((tcpSetup decode N o).framer.buffer m.framer).length = 7 - b.length := by
      simp [tcpSetup, socketFramer, hf]
    simp only [framingStep, hs, hsize, hread]
    by_cases h7' : (b ++ c).length < 7
    · have hm := midway_of_lt (q := q) h7'
      simp only [List.length_append] at h7'
      rw [if_neg (show ¬ (7 : Int) - b.length - c.length ≤ 0 by omega)]
      exact ⟨c, rest, _, hc0, rfl, rfl, by simp [hm.1, hs], by rw [hm.2, hf]; rfl, rfl, rfl⟩
    · simp only [List.length_append] at h7'
      have hbc : b ++ c <+: q := (List.prefix_append _ _).trans (by simpa using hbd)
      have hh := unpackHeader_of_prefix hbc (by simp; omega)
      have hcheck : SocketFramer.checkFrame ⟨b ++ c, {}⟩ = .ok false ⟨b ++ c, unpackHeader q⟩ := by
        rw [checkFrame_of_short (by simp; omega) (by rw [hh]; exact h2) (by rw [hh]; simp; omega)]
        simp [withHeader, hh]
      have hm := midway_of_le (q := q) (b := b ++ c) (by simp; omega) (by simp; omega)
      rw [if_pos (show (7 : Int) - b.length - c.length ≤ 0 by omega)]
      simp only [tcpSetup, socketFramer, hf]
      rw [hcheck]
      exact ⟨c, rest, _, hc0, rfl, rfl, by rw [hm.1], by rw [hm.2], rfl, rfl⟩
  · have hm₀ := midway_of_le (not_lt.mp h7) (show b.length < q.length by omega)
    rw [hm₀.1] at hs
    rw [hm₀.2] at hf
    obtain ⟨c, rest, hc0, rfl, hcl, hread⟩ := readInto_data (C := tcpSetup decode N o) rfl hmk hw hd
      hc (show (0 : Int) < q.length - b.length by omega) r
    have hc' := List.length_pos.mpr hc0
    have hsize : ((tcpSetup decode N o).framer.getFrameSize m.framer : Int) -
        ((tcpSetup decode N o).framer.buffer m.framer).length = q.length - b.length := by
      simp only [tcpSetup, socketFramer, getFrameSize, hf]; omega
    simp only [framingStep, hs, hsize, hread]
    by_cases hq' : (b ++ c).length < q.length
    · have hm := midway_of_le (q := q) (b := b ++ c) (by simp; omega) hq'
      simp only [List.length_append] at hq'
      rw [if_neg (show ¬ (q.length : Int) - b.length - c.length ≤ 0 by omega)]
      exact ⟨c, rest, _, hc0, rfl, rfl, by simp [hm.1, hs], by rw [hm.2, hf]; rfl, rfl, rfl⟩
    · simp only [List.length_append] at hq'
      have hm : midway q (b ++ c) = (.completeFrame, ⟨b ++ c, unpackHeader q⟩) := by
        simp only [midway, List.length_append, if_neg (show ¬ b.length + c.length < 7 by omega),
          if_neg hq']
      rw [if_pos (show (q.length : Int) - b.length - c.length ≤ 0 by omega)]
      exact ⟨c, rest, _, hc0, rfl, rfl, by rw [hm], by rw [hm, hf]; rfl, rfl, rfl⟩

/-- A turn in a reading state after a `failReceive` plan's data ran out raises
`socket.error` and changes nothing. -/
theorem framingStep_dry (hq : Built q) {b : Bytes} (hb : b.length < q.length)
    (hs : m.state = some (midway q b).1) (hf : m.framer = (midway q b).2)
    (hw : m.client.plan = .failReceive []) (r : Nat) :
    framingStep (tcpSetup decode N o) r m = .error .socketError m := by
  have ⟨h2, hl⟩ := hq.header
  by_cases h7 : b.length < 7
  · rw [(midway_of_lt h7).1] at hs
    rw [(midway_of_lt h7).2] at hf
    have hsize : ((tcpSetup decode N o).framer.headerSize : Int) -
        ((tcpSetup decode N o).framer.buffer m.framer).length = 7 - b.length := by
      simp [tcpSetup, socketFramer, hf]
    simp only [framingStep, hs, hsize,
      readInto_dry (C := tcpSetup decode N o) rfl hw (show (0 : Int) < 7 - b.length by omega)]
  · have hm₀ := midway_of_le (not_lt.mp h7) hb
    rw [hm₀.1] at hs
    rw [hm₀.2] at hf
    have hsize : ((tcpSetup decode N o).framer.getFrameSize m.framer : Int) -
        ((tcpSetup decode N o).framer.buffer m.framer).length = q.length - b.length := by
      simp only [tcpSetup, socketFramer, getFrameSize, hf]; omega
    simp only [framingStep, hs, hsize,
      readInto_dry (C := tcpSetup decode N o) rfl hw (show (0 : Int) < q.length - b.length by omega)]

/-- The turn on a complete frame commits the decoded reply under the
transaction id its header carries, and empties the buffer. -/
theorem framingStep_complete (hq : Built q) {d : Pdu} (hdec : decode (q.drop 7) = .ok (some d))
    (hs : m.state = some .completeFrame) (hf : m.framer = ⟨q, unpackHeader q⟩) (r : Nat) :
    ∃ m', framingStep (tcpSetup decode N o) r m = .ok (some true, r) m' ∧
      m'.transactions = m.transactions.set (fillOf q d).transactionId (fillOf q d) ∧
      m'.framer.buffer = [] := by
  have hps : ∀ p ∈ [q], Built p ∧
      (tcpSetup decode N o).decode (p.drop 7) = .ok (some ((fun _ => d) p)) := by
    simpa using ⟨hq, hdec⟩
  have hcb : ∀ x t, (addTransactionCallback (tcpSetup decode N o) x t).2 = none := fun _ _ => rfl
  obtain ⟨-, h2, h3, h4⟩ := frameLoop_reads (F := (tcpSetup decode N o).framer) socket_reads []
    (.inl rfl) [q] hps [] m.framer m.transactions
    (show Quiet (addTransactionCallback (tcpSetup decode N o)) _ _ from quiet_of_forall (fun _ _ e => hcb _ e) _) rfl
    (by simp [hf, tcpSetup, socketFramer])
  simp only [framingStep, hs, processIncomingPacket, if_true, h3]
  exact ⟨_, rfl, by rw [h2]; rfl, h4.resolve_right (by simp)⟩

end Turn

/-! ## Whole runs of `handle_message_framing` -/

section Run

variable {decode : Bytes → Except Exc (Option Pdu)} {N : Nat} {o : Bool} {q : Bytes}

/-- **A reply delivered whole is committed.** From wherever reading `b` of the
reply `q` put the manager, with the rest of `q` still to come in any splitting,
enough turns read it all and commit the decoded reply under the transaction id
of `q`'s header. -/
theorem handleMessageFraming_deliver (hq : Built q) {d : Pdu}
    (hdec : decode (q.drop 7) = .ok (some d)) {r : Nat} (hr : 0 < r) :
    ∀ (fuel : Nat) (b data : Bytes) (m : Manager SocketFramer (TidDict Pdu) Scripted),
      b ++ data = q → data.length < fuel →
      m.state = some (midway q b).1 → m.framer = (midway q b).2 →
      m.client.plan = .deliver data → Splitting m.client.cuts →
      ∃ m', handleMessageFraming (tcpSetup decode N o) fuel r m = some (.ok true m') ∧
        m'.transactions = m.transactions.set (fillOf q d).transactionId (fillOf q d) ∧
        m'.framer.buffer = []
  | 0, _, _, _, _, hfuel, _, _, _, _ => absurd hfuel (Nat.not_lt_zero _)
  | fuel + 1, b, data, m, hbd, hfuel, hs, hf, hw, hc => by
    rw [handleMessageFraming, if_pos hr]
    rcases eq_or_ne data [] with rfl | hd
    · rw [List.append_nil] at hbd
      subst hbd
      rw [midway_self hq] at hs hf
      obtain ⟨m', hstep, ht, hbuf⟩ := framingStep_complete (N := N) (o := o) hq hdec hs hf r
      rw [hstep]
      exact ⟨m', rfl, ht, hbuf⟩
    · obtain ⟨c, rest, m₁, hc0, rfl, hstep, hs₁, hf₁, hw₁, ht₁⟩ :=
        framingStep_midway (N := N) (o := o) hq (hbd ▸ List.prefix_refl _) hd (.inl rfl) hs hf hw hc r
      rw [hstep]
      have hfuel' : rest.length < fuel := by
        have := List.length_pos.mpr hc0
        simp at hfuel; omega
      obtain ⟨m', hrun, ht, hbuf⟩ := handleMessageFraming_deliver hq hdec hr fuel (b ++ c) rest m₁
        (by rw [← hbd, List.append_assoc]) hfuel' hs₁ hf₁ (by rw [hw₁]) (by rw [hw₁]; exact hc.tail)
      exact ⟨m', hrun, by rw [ht, ht₁], hbuf⟩

/-- **A read that fails midway leaves a framer the next attempt clears.** From
wherever reading `b` of the reply `q` put the manager, if only `data` more of
`q` comes before `socket.error`, enough turns end in that error with the table
as it was and a framer that `advance_frame()` clears. -/
theorem handleMessageFraming_failReceive (decode : Bytes → Except Exc (Option Pdu)) (hq : Built q)
    {r : Nat} (hr : 0 < r) :
    ∀ (fuel : Nat) (b data : Bytes) (m : Manager SocketFramer (TidDict Pdu) Scripted),
      b ++ data <+: q → (b ++ data).length < q.length → data.length < fuel →
      m.state = some (midway q b).1 → m.framer = (midway q b).2 →
      m.client.plan = .failReceive data → Splitting m.client.cuts →
      ∃ m', handleMessageFraming (tcpSetup decode N o) fuel r m = some (.error .socketError m') ∧
        m'.transactions = m.transactions ∧ m'.client.later = m.client.later ∧
        Splitting m'.client.cuts ∧ advanceFrame m'.framer = {}
  | 0, _, _, _, _, _, hfuel, _, _, _, _ => absurd hfuel (Nat.not_lt_zero _)
  | fuel + 1, b, data, m, hbd, hlt, hfuel, hs, hf, hw, hc => by
    rw [handleMessageFraming, if_pos hr]
    rcases eq_or_ne data [] with rfl | hd
    · rw [List.append_nil] at hlt
      rw [framingStep_dry hq hlt hs hf hw r]
      exact ⟨m, rfl, rfl, rfl, hc, by rw [hf]; exact advanceFrame_midway hq hlt⟩
    · obtain ⟨c, rest, m₁, hc0, rfl, hstep, hs₁, hf₁, hw₁, ht₁⟩ :=
        framingStep_midway (N := N) (o := o) hq hbd hd (.inr rfl) hs hf hw hc r
      rw [hstep]
      have hfuel' : rest.length < fuel := by
        have := List.length_pos.mpr hc0
        simp at hfuel; omega
      obtain ⟨m', hrun, ht, hl, hc', hadv⟩ := handleMessageFraming_failReceive decode hq hr fuel (b ++ c) rest
        m₁ (by simpa using hbd) (by simpa using hlt) hfuel' hs₁ hf₁ (by rw [hw₁]) (by rw [hw₁]; exact hc.tail)
      exact ⟨m', hrun, ht.trans ht₁, by rw [hl, hw₁], hc', hadv⟩

end Run

/-! ## Attempts -/

namespace SocketFramer

/-- An attempt on which the link fails: in `connect()`, in `send()`, or in a
read, once a proper beginning of some reply packet came through. -/
def Transient : Plan → Prop
  | .failConnect | .failSend => True
  | .failReceive data => ∃ q, Built q ∧ data <+: q ∧ data.length < q.length
  | .deliver _ => False

end SocketFramer

section Attempt

variable {decode : Bytes → Except Exc (Option Pdu)} {N : Nat} {o : Bool}
  {m : Manager SocketFramer (TidDict Pdu) Scripted} {request : Pdu}

/-- An attempt that gets past `send` frames from the start of a reply: its first
turn, `advance_frame()`, clears what the last attempt left. -/
theorem attempt_reads {data : Bytes} (hw : m.client.plan = .deliver data ∨ m.client.plan = .failReceive data)
    (hreq : ∃ p, buildPacket request = .ok p) (hf : advanceFrame m.framer = {}) (hN : 0 < N)
    (fuel : Nat) :
    attempt (tcpSetup decode N o) (fuel + 1) request m =
      (handleMessageFraming (tcpSetup decode N o) fuel N
        { m with state := some .readingHeader, framer := {} }).map afterFraming := by
  obtain ⟨p, hp⟩ := hreq
  have h₁ : m.client.plan ≠ .failConnect := by rcases hw with h | h <;> simp [h]
  have h₂ : m.client.plan ≠ .failSend := by rcases hw with h | h <;> simp [h]
  simp [attempt, tcpSetup, scripted, Scripted.connect, Scripted.send, h₁, h₂, socketFramer, hp,
    handleMessageFraming, hN, framingStep, hf]

/-- An attempt on which the link fails raises `socket.error`, keeps the table,
and leaves a framer the next attempt clears. -/
theorem attempt_transient {P : Plan} (hP : Transient P) {fuel : Nat} (hfuel : P.data.length + 2 ≤ fuel)
    (hN : 0 < N) (hreq : ∃ p, buildPacket request = .ok p) (hw : m.client.plan = P)
    (hc : Splitting m.client.cuts) (hf : advanceFrame m.framer = {}) :
    ∃ m', attempt (tcpSetup decode N o) fuel request m = some (.error .socketError m') ∧
      m'.transactions = m.transactions ∧ m'.client.later = m.client.later ∧
      Splitting m'.client.cuts ∧ advanceFrame m'.framer = {} := by
  match P, hP with
  | .failConnect, _ =>
    have h : attempt (tcpSetup decode N o) fuel request m =
        some (.error .socketError { m with state := some .initializing }) := by
      simp [attempt, tcpSetup, scripted, Scripted.connect, hw]
    exact ⟨_, h, rfl, rfl, hc, hf⟩
  | .failSend, _ =>
    obtain ⟨p, hp⟩ := hreq
    have h : attempt (tcpSetup decode N o) fuel request m =
        some (.error .socketError { m with state := some .initializing }) := by
      simp [attempt, tcpSetup, scripted, Scripted.connect, Scripted.send, hw, socketFramer, hp]
    exact ⟨_, h, rfl, rfl, hc, hf⟩
  | .failReceive data, ⟨q, hq, hdq, hlt⟩ =>
    obtain ⟨fuel, rfl⟩ : ∃ k, fuel = k + 1 := ⟨fuel - 1, by simp [Plan.data] at hfuel; omega⟩
    rw [attempt_reads (.inr hw) hreq hf hN]
    obtain ⟨m', hrun, ht, hl, hc', hadv⟩ := handleMessageFraming_failReceive (N := N) (o := o) decode
      hq hN fuel [] data { m with state := some .readingHeader, framer := {} } (by simpa using hdq) (by simpa using hlt)
      (by simp [Plan.data] at hfuel; omega) rfl rfl hw hc
    exact ⟨m', by rw [hrun]; rfl, ht, hl, hc', hadv⟩

/-- The attempt on which the reply comes whole commits it. -/
theorem attempt_deliver {q : Bytes} (hq : Built q) {d : Pdu} (hdec : decode (q.drop 7) = .ok (some d))
    {fuel : Nat} (hfuel : q.length + 2 ≤ fuel) (hN : 0 < N) (hreq : ∃ p, buildPacket request = .ok p)
    (hw : m.client.plan = .deliver q) (hc : Splitting m.client.cuts) (hf : advanceFrame m.framer = {}) :
    ∃ m', attempt (tcpSetup decode N o) fuel request m = some (.ok () m') ∧
      m'.transactions = m.transactions.set (fillOf q d).transactionId (fillOf q d) ∧
      m'.framer.buffer = [] := by
  obtain ⟨fuel, rfl⟩ : ∃ k, fuel = k + 1 := ⟨fuel - 1, by omega⟩
  rw [attempt_reads (.inl hw) hreq hf hN]
  obtain ⟨m', hrun, ht, hbuf⟩ := handleMessageFraming_deliver (N := N) (o := o) hq hdec hN fuel [] q
    { m with state := some .readingHeader, framer := {} } rfl (by omega) rfl rfl hw hc
  exact ⟨m', by rw [hrun]; rfl, ht, hbuf⟩

end Attempt

/-! ## `execute` -/

section Execute

variable {decode : Bytes → Except Exc (Option Pdu)} {N : Nat} {o : Bool} {request : Pdu}

/-- `close()` moves the client on to the plans still to come. -/
theorem close_later (w : Scripted) {ps : List Plan} (h : w.later = ps) (hps : ps ≠ []) :
    w.close.plan :: w.close.later = ps ∧ w.close.cuts = w.cuts := by
  cases ps with
  | nil => exact absurd rfl hps
  | cons P ps => simp [Scripted.close, Scripted.ofPlans, h]

/-- **The attempt that gets through commits the reply.** Each of fewer failed
attempts than the loop has retries raises `socket.error`, closes the client and
leaves a framer the next attempt clears; the attempt after them gets the reply
whole and commits it. -/
theorem executeLoop_tcp {q : Bytes} (hq : Built q) {d : Pdu} (hdec : decode (q.drop 7) = .ok (some d))
    (hN : 0 < N) (hreq : ∃ p, buildPacket request = .ok p) (later : List Plan) {fuel : Nat} :
    ∀ (fails : List Plan) (n : Nat) (m : Manager SocketFramer (TidDict Pdu) Scripted),
      (∀ P ∈ fails, Transient P) → fails.length < n →
      (∀ P ∈ fails ++ [.deliver q], P.data.length + 2 ≤ fuel) →
      m.client.plan :: m.client.later = fails ++ .deliver q :: later →
      Splitting m.client.cuts → advanceFrame m.framer = {} →
      ∃ m', executeLoop (tcpSetup decode N o) fuel request n m = some (.ok () m') ∧
        m'.transactions = m.transactions.set (fillOf q d).transactionId (fillOf q d) ∧
        m'.framer.buffer = []
  | [], n + 1, m, _, _, hfuel, hw, hc, hf => by
    obtain ⟨m', hatt, ht, hbuf⟩ := attempt_deliver hq hdec (hfuel (.deliver q) (by simp)) hN hreq
      (by simp at hw; exact hw.1) hc hf
    exact ⟨m', by rw [executeLoop, hatt], ht, hbuf⟩
  | P :: fails, n + 1, m, hfails, hlen, hfuel, hw, hc, hf => by
    obtain ⟨hP, hw'⟩ := List.cons.inj hw
    obtain ⟨m₁, hatt, ht₁, hl₁, hc₁, hf₁⟩ := attempt_transient (hfails P (List.mem_cons_self _ _))
      (hfuel P (by simp)) hN hreq hP hc hf
    have ⟨hw₂, hc₂⟩ := close_later m₁.client (hl₁.trans hw') (by simp)
    obtain ⟨m', hrun, ht, hbuf⟩ := executeLoop_tcp hq hdec hN hreq later fails n
      { m₁ with client := m₁.client.close } (fun P' h => hfails P' (List.mem_cons_of_mem _ h))
      (by simpa using hlen) (fun P' h => hfuel P' (List.mem_cons_of_mem _ h)) hw₂ (hc₂ ▸ hc₁) hf₁
    refine ⟨m', ?_, by rw [ht, ht₁], hbuf⟩
    rw [executeLoop, hatt]
    exact hrun

/-- The loop of `execute` from a fresh framer: after transient failures on
fewer attempts than the retries, the reply `build_packet(R)` is read in any
splitting and committed under `R`'s transaction id, and the buffer ends empty. -/
theorem executeLoop_tcp_reply (decode : Bytes → Except Exc (Option Pdu)) (D : Bytes → Pdu)
    (N : Nat) (o : Bool) (request R : Pdu) (p : Bytes) (hp : buildPacket R = .ok p)
    (hdec : decode (UInt8.ofNat R.functionCode :: R.encode) =
      .ok (some (D (UInt8.ofNat R.functionCode :: R.encode))))
    (fails later : List Plan) (hfails : ∀ P ∈ fails, Transient P) (hN : fails.length < N)
    (cuts : List Nat) (hcuts : Splitting cuts) (m : Manager SocketFramer (TidDict Pdu) Scripted)
    (hf : m.framer = {}) (hw : m.client = Scripted.ofPlans (fails ++ .deliver p :: later) cuts)
    (hreq : ∃ q, buildPacket { request with transactionId := getNextTid m.tid } = .ok q) :
    ∃ n, ∀ fuel, n ≤ fuel → ∃ m',
      executeLoop (tcpSetup decode N o) fuel { request with transactionId := getNextTid m.tid } N
        { m with tid := getNextTid m.tid } = some (.ok () m') ∧
      m'.transactions = m.transactions.set R.transactionId (handed D R) ∧ m'.framer.buffer = [] := by
  refine ⟨((fails ++ [Plan.deliver p]).map fun P : Plan => P.data.length + 2).sum,
    fun fuel hfuel => ?_⟩
  have hfuel' : ∀ P ∈ fails ++ [Plan.deliver p], P.data.length + 2 ≤ fuel := fun P hP =>
    (List.le_sum_of_mem (List.mem_map_of_mem _ hP)).trans hfuel
  have hd : decode (p.drop 7) = .ok (some (D (p.drop 7))) := by rw [drop_built hp]; exact hdec
  obtain ⟨m', hrun, ht', hbuf⟩ := executeLoop_tcp (N := N) (o := o) ⟨R, hp⟩ hd (by omega) hreq later
    fails N { m with tid := getNextTid m.tid } hfails hN hfuel'
    (by rw [hw]; cases fails <;> rfl) (by rw [hw]; exact hcuts) (by rw [hf]; rfl)
  exact ⟨m', hrun, by rw [ht', fillOf_handed D hp]; rfl, hbuf⟩

/-- **`execute` returns the reply over TCP, after transient failures and in
any read splitting.** A `DictTransactionManager` with `retries = N`, any table
and a fresh socket framer, whose link fails on `m < N` attempts (in `connect`,
`send`, or a read after a proper beginning of some reply came through) and then
delivers `build_packet(R)` for a reply `R` that carries the transaction id
`execute` gives the request, returns the decoded reply with `R`'s transaction
id, protocol id and unit id, given room for enough turns. The buffer ends
empty, and the table is the one before without any entry under the request's
transaction id: empty when it was, and otherwise still holding what earlier
calls left (`execute_tcp_stale_entry`). -/
theorem execute_tcp (decode : Bytes → Except Exc (Option Pdu)) (D : Bytes → Pdu) (N : Nat)
    (o : Bool) (request R : Pdu) (p : Bytes) (hp : buildPacket R = .ok p)
    (hdec : decode (UInt8.ofNat R.functionCode :: R.encode) =
      .ok (some (D (UInt8.ofNat R.functionCode :: R.encode))))
    (fails later : List Plan) (hfails : ∀ P ∈ fails, Transient P) (hN : fails.length < N)
    (cuts : List Nat) (hcuts : Splitting cuts) (m : Manager SocketFramer (TidDict Pdu) Scripted)
    (hf : m.framer = {}) (hw : m.client = Scripted.ofPlans (fails ++ .deliver p :: later) cuts)
    (hR : R.transactionId = getNextTid m.tid)
    (hreq : ∃ q, buildPacket { request with transactionId := getNextTid m.tid } = .ok q) :
    ∃ n, ∀ fuel, n ≤ fuel → ∃ m',
      execute (tcpSetup decode N o) fuel request m = some (.ok (some (handed D R)) m') ∧
      m'.transactions = (m.transactions.pop (getNextTid m.tid)).2 ∧ m'.framer.buffer = [] := by
  obtain ⟨n, hn⟩ := executeLoop_tcp_reply decode D N o request R p hp hdec fails later hfails hN cuts
    hcuts m hf hw hreq
  refine ⟨n, fun fuel hfuel => ?_⟩
  obtain ⟨m', hrun, ht', hbuf⟩ := hn fuel hfuel
  have hexec : execute (tcpSetup decode N o) fuel request m = some (.ok (some (handed D R))
      { m' with transactions := (m.transactions.pop (getNextTid m.tid)).2 }) := by
    simp only [execute]
    rw [show (tcpSetup decode N o).retries = N from rfl, hrun]
    simp only [Option.map_some', popReply, tcpSetup, dictPolicy, ht', hR, TidDict.pop_set]
  exact ⟨_, hexec, rfl, hbuf⟩

/-- The link fails in `connect`, then after three bytes of the reply; the third
attempt reads the reply two and three bytes at a time. -/
theorem execute_tcp_after_failures :
    ∃ n, ∀ fuel, n ≤ fuel → ∃ m',
      execute (tcpSetup (fun _ => .ok (some { functionCode := 1 })) 3 false) fuel
        { functionCode := 1, encode := [0, 0, 0, 1] }
        ⟨TidDict.empty, none, 0, {}, Scripted.ofPlans [.failConnect, .failReceive [0, 1, 0],
          .deliver [0, 1, 0, 0, 0, 4, 0xFF, 1, 1, 1]] [2, 3]⟩ =
        some (.ok (some { functionCode := 1, transactionId := 1, unitId := .int 0xFF }) m') ∧
      m'.transactions = TidDict.empty ∧ m'.framer.buffer = [] :=
  execute_tcp (fun _ => .ok (some { functionCode := 1 })) (fun _ => { functionCode := 1 }) 3 false
    { functionCode := 1, encode := [0, 0, 0, 1] }
    { functionCode := 1, transactionId := 1, unitId := .int 0xFF, encode := [1, 1] }
    [0, 1, 0, 0, 0, 4, 0xFF, 1, 1, 1] rfl rfl [.failConnect, .failReceive [0, 1, 0]] []
    (by
      intro P hP
      simp only [List.mem_cons, List.mem_singleton, List.not_mem_nil, or_false] at hP
      rcases hP with rfl | rfl
      · trivial
      · exact ⟨_, ⟨{ functionCode := 1, transactionId := 1, unitId := .int 0xFF, encode := [1, 1] }, rfl⟩,
          ⟨[0, 0, 4, 0xFF, 1, 1, 1], rfl⟩, by decide⟩)
    (by decide) [2, 3] (by intro c hc; simp at hc; omega) _ rfl rfl rfl ⟨_, rfl⟩

/-- The table need not end empty. A first call gives its request id 1 and gets
the late reply `00 05 00 00 00 05 00 03 02 00 07`, which stays filed under 5;
the framer is as fresh as before. A second call gives its request id 2, gets
its reply and returns it, and the table still holds the entry under 5. -/
theorem execute_tcp_stale_entry :
    ∃ m₁ m₂, execute (tcpSetup (fun _ => .ok (some { functionCode := 3 })) 3 false) 20
        { functionCode := 3, encode := [0, 0, 0, 1] }
        ⟨TidDict.empty, none, 0, {}, Scripted.ofPlans [.deliver [0, 5, 0, 0, 0, 5, 0, 3, 2, 0, 7]] []⟩ =
      some (.ok none m₁) ∧ m₁.framer = {} ∧
      execute (tcpSetup (fun _ => .ok (some { functionCode := 3 })) 3 false) 20
        { functionCode := 3, encode := [0, 0, 0, 1] }
        { m₁ with client := Scripted.ofPlans [.deliver [0, 2, 0, 0, 0, 5, 0, 3, 2, 0, 7]] [] } =
      some (.ok (some { functionCode := 3, transactionId := 2, unitId := .int 0 }) m₂) ∧
      m₂.transactions.keys = [5] :=
  ⟨_, _, rfl, rfl, rfl, rfl⟩

/-- **A reply under another transaction id stays in the table.** When the
reply that comes carries a transaction id other than the one `execute` gave the
request (a late reply to an earlier request, say), it is committed under its
own id and never popped: `execute` returns `None`, and the table keeps the
reply. -/
theorem execute_tcp_foreign (decode : Bytes → Except Exc (Option Pdu)) (D : Bytes → Pdu) (N : Nat)
    (o : Bool) (request R : Pdu) (p : Bytes) (hp : buildPacket R = .ok p)
    (hdec : decode (UInt8.ofNat R.functionCode :: R.encode) =
      .ok (some (D (UInt8.ofNat R.functionCode :: R.encode))))
    (fails later : List Plan) (hfails : ∀ P ∈ fails, Transient P) (hN : fails.length < N)
    (cuts : List Nat) (hcuts : Splitting cuts) (m : Manager SocketFramer (TidDict Pdu) Scripted)
    (ht : m.transactions = TidDict.empty) (hf : m.framer = {})
    (hw : m.client = Scripted.ofPlans (fails ++ .deliver p :: later) cuts)
    (hR : R.transactionId ≠ getNextTid m.tid)
    (hreq : ∃ q, buildPacket { request with transactionId := getNextTid m.tid } = .ok q) :
    ∃ n, ∀ fuel, n ≤ fuel → ∃ m',
      execute (tcpSetup decode N o) fuel request m = some (.ok none m') ∧
      m'.transactions = TidDict.empty.set R.transactionId (handed D R) := by
  obtain ⟨n, hn⟩ := executeLoop_tcp_reply decode D N o request R p hp hdec fails later hfails hN cuts
    hcuts m hf hw hreq
  refine ⟨n, fun fuel hfuel => ?_⟩
  obtain ⟨m', hrun, ht', -⟩ := hn fuel hfuel
  have hexec : execute (tcpSetup decode N o) fuel request m = some (.ok none
      { m' with transactions := TidDict.empty.set R.transactionId (handed D R) }) := by
    simp only [execute]
    rw [show (tcpSetup decode N o).retries = N from rfl, hrun]
    simp only [Option.map_some', popReply, tcpSetup, dictPolicy, ht', ht,
      TidDict.pop_empty_set_of_ne hR]
  exact ⟨_, hexec, rfl⟩

/-- A first attempt whose `send` fails, then the reply `00 05 00 00 00 05 00 03
02 00 07` (transaction 5) read four bytes at a time: the request has id 1, so
`execute` returns `None` and the reply stays filed under 5. -/
theorem execute_tcp_foreign_after_failure :
    ∃ n, ∀ fuel, n ≤ fuel → ∃ m',
      execute (tcpSetup (fun _ => .ok (some { functionCode := 3 })) 3 false) fuel
          { functionCode := 3, encode := [0, 0, 0, 1] }
          ⟨TidDict.empty, none, 0, {},
            Scripted.ofPlans [.failSend, .deliver [0, 5, 0, 0, 0, 5, 0, 3, 2, 0, 7]] [4, 4, 4]⟩ =
        some (.ok none m') ∧
      m'.transactions = TidDict.empty.set 5
        (handed (fun _ => { functionCode := 3 }) { functionCode := 3, transactionId := 5, encode := [2, 0, 7] }) :=
  execute_tcp_foreign (fun _ => .ok (some { functionCode := 3 })) (fun _ => { functionCode := 3 }) 3 false
    { functionCode := 3, encode := [0, 0, 0, 1] } { functionCode := 3, transactionId := 5, encode := [2, 0, 7] }
    [0, 5, 0, 0, 0, 5, 0, 3, 2, 0, 7] (by decide) rfl [.failSend] [] (by simp [Transient]) (by decide)
    [4, 4, 4] (by simp [Splitting]) _ rfl rfl rfl (by decide) ⟨_, rfl⟩

/-- A fresh manager gives its request transaction id 1, and the reply that
comes carries id 5: `execute` returns `None` and leaves the reply in the table. -/
theorem execute_tcp_late_reply :
    ∃ m', execute (tcpSetup (fun _ => .ok (some { functionCode := 3 })) 3 false) 20
        { functionCode := 3, encode := [0, 0, 0, 1] }
        ⟨TidDict.empty, none, 0, {}, Scripted.ofPlans [.deliver [0, 5, 0, 0, 0, 5, 0, 3, 2, 0, 7]] []⟩ =
      some (.ok none m') ∧ m'.transactions.keys = [5] :=
  ⟨_, rfl, rfl⟩

end Execute

end Modbus
