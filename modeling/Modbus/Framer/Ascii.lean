import Modbus.Framer.Stream

/-! # Modbus.Framer.Ascii — `ModbusAsciiFramer`

An ASCII frame is `':'`, then the unit id, the function code, the data and the
LRC in uppercase hex, then `'\r\n'`. The framer

* drops what precedes the first `':'`, looks for `'\r\n'`, reads the unit id
  and the LRC with `int(..., 16)`, and accepts when the LRC of the hex-decoded
  unit id, function code and data matches (`checkFrame`);
* hands the hex-decoded function code and data to the decoder (`getFrame`),
  copies the unit id into the result (`populateResult`), and drops the frame
  with its `'\r\n'` (`advanceFrame`);
* writes `b2a_hex` and `'%02x'` digits, uppercased (`buildPacket`), with the LRC
  taken over the data, then the unit id and function code.

`ascii_reads` proves the framing facts of `Modbus.Framer.Stream` for built
packets behind any noise free of `':'`. From it:

* `feed_ascii` — any chunking of such noise and built packets is framed back
  into exactly those messages, and the buffer ends empty once a packet was
  sent; the LRC the encoder writes is the one the decoder recomputes, since the
  LRC ignores byte order (`computeLrc_append_comm`);
* `feed_ascii_noise_kept` — noise that no packet follows stays buffered;
* `feed_ascii_stuck` — noise that holds a `':'` stops framing for good: no
  later packet is ever decoded, and every call from the first packet's
  `'\r\n'` on raises.
-/

namespace Modbus

open Bytes

/-- The header dictionary of `ModbusAsciiFramer`; `lrc` and `uid` hold what
`int(..., 16)` read. -/
structure AsciiHeader where
  lrc : Int := 0
  len : Nat := 0
  uid : Int := 0
  deriving DecidableEq, Repr

/-- The state of a `ModbusAsciiFramer`. -/
structure AsciiFramer where
  buffer : Bytes := []
  header : AsciiHeader := {}
  deriving DecidableEq, Repr

namespace AsciiFramer

/-- `header_size`. -/
def headerSize : Nat := 2

/-- `__start`, `b':'`. -/
def startByte : UInt8 := 58

/-- `__end`, `b'\r\n'`. -/
def endBytes : Bytes := [13, 10]

/-- `check_frame()` once the buffer starts at `':'` and `'\r\n'` was found at
`frameEnd`: record `len`, read `uid` and `lrc`, and check the LRC of
`a2b_hex(buffer[start + 1:end - 2])`, where `start` is now 0. -/
def checkBody (s : AsciiFramer) (frameEnd : Nat) : EStateM.Result Exc AsciiFramer Bool :=
  let s₁ := { s with header.len := frameEnd }
  match int16 (slice s₁.buffer 1 3) with
  | .error e => .error e s₁
  | .ok uid =>
    let s₂ := { s₁ with header.uid := uid }
    match int16 (slice s₂.buffer ((frameEnd : Int) - 2) frameEnd) with
    | .error e => .error e s₂
    | .ok lrc =>
      let s₃ := { s₂ with header.lrc := lrc }
      match a2bHex (slice s₃.buffer 1 ((frameEnd : Int) - 2)) with
      | .error e => .error e s₃
      | .ok data => .ok (checkLrc data s₃.header.lrc) s₃

/-- `check_frame()`: find `':'` and skip the old bad data before it, then find
`'\r\n'`. -/
def checkFrame (s : AsciiFramer) : EStateM.Result Exc AsciiFramer Bool :=
  match find [startByte] s.buffer with
  | none => .ok false s
  | some start =>
    let s₁ := if start > 0 then { s with buffer := sliceFrom s.buffer start } else s
    match find endBytes s₁.buffer with
    | none => .ok false s₁
    | some frameEnd => checkBody s₁ frameEnd

/-- `advance_frame()`: drop the frame and its `'\r\n'`, and reset the header. -/
def advanceFrame (s : AsciiFramer) : AsciiFramer :=
  { buffer := sliceFrom s.buffer (s.header.len + 2 : Nat), header := {} }

/-- `get_frame_size()`: `len`, or one more than is buffered while `len` is unknown. -/
def getFrameSize (s : AsciiFramer) : Nat :=
  if s.header.len ≠ 0 then s.header.len else s.buffer.length + 1

/-- `get_frame()`: `a2b_hex(buffer[header_size + 1 : len - 2])`, or `b''` when
`len - 2 ≤ 0`. -/
def getFrame (s : AsciiFramer) : Except Exc Bytes :=
  let start : Int := headerSize + 1
  let frameEnd : Int := (s.header.len : Int) - 2
  let data := slice s.buffer start frameEnd
  if frameEnd > 0 then a2bHex data else .ok []

/-- `populate_result(result)`: copy `uid`. -/
def populateResult (s : AsciiFramer) (result : Pdu) : Pdu :=
  { result with unitId := .int s.header.uid }

/-- `build_packet(message)`: `':'`, `'%02x%02x' % (unit_id, function_code)`,
`b2a_hex(encoded)`, `'%02x' % compute_lrc(encoded + data)` and `'\r\n'`, all
uppercased. The first two digits pairs are `b2a_hex` of the bytes `data` that
`struct.pack('>BB', unit_id, function_code)` just made of the same two values. -/
def buildPacket (m : Pdu) : Except Exc Bytes := do
  let encoded := m.encode
  let data := (← packUnit m.unitId) ++ (← packB m.functionCode)
  let checksum := computeLrc (encoded ++ data)
  let packet := [startByte] ++ b2aHex data ++ b2aHex encoded ++ hex2 checksum ++ endBytes
  return upper packet

/-! ## What `check_frame` can do -/

theorem skip_eq (s : AsciiFramer) (start : Nat) :
    (if start > 0 then { s with buffer := sliceFrom s.buffer start } else s) =
      ⟨s.buffer.drop start, s.header⟩ := by
  split_ifs with h
  · simp
  · simp [Nat.eq_zero_of_not_pos h]

theorem checkFrame_of_no_start {s : AsciiFramer} (h : find [startByte] s.buffer = none) :
    checkFrame s = .ok false s := by
  simp [checkFrame, h]

theorem checkFrame_of_no_end {s : AsciiFramer} {start : Nat}
    (hs : find [startByte] s.buffer = some start) (he : find endBytes (s.buffer.drop start) = none) :
    checkFrame s = .ok false ⟨s.buffer.drop start, s.header⟩ := by
  simp only [checkFrame, hs, skip_eq, he]

theorem checkFrame_of_found {s : AsciiFramer} {start frameEnd : Nat}
    (hs : find [startByte] s.buffer = some start)
    (he : find endBytes (s.buffer.drop start) = some frameEnd) :
    checkFrame s = checkBody ⟨s.buffer.drop start, s.header⟩ frameEnd := by
  simp only [checkFrame, hs, skip_eq, he]

/-- A body that checks out keeps the buffer and records where `'\r\n'` is. -/
theorem checkBody_eq_ok {s s₁ : AsciiFramer} {frameEnd : Nat} {b : Bool}
    (h : checkBody s frameEnd = .ok b s₁) : s₁.buffer = s.buffer ∧ s₁.header.len = frameEnd := by
  simp only [checkBody] at h
  split at h
  · cases h
  · split at h
    · cases h
    · split at h
      · cases h
      · cases h; exact ⟨rfl, rfl⟩

theorem checkBody_of_ok {s : AsciiFramer} {frameEnd : Nat} {uid lrc : Int} {data : Bytes}
    (hu : int16 (slice s.buffer 1 3) = .ok uid)
    (hl : int16 (slice s.buffer ((frameEnd : Int) - 2) frameEnd) = .ok lrc)
    (hd : a2bHex (slice s.buffer 1 ((frameEnd : Int) - 2)) = .ok data) :
    checkBody s frameEnd = .ok (checkLrc data lrc) ⟨s.buffer, ⟨lrc, frameEnd, uid⟩⟩ := by
  simp [checkBody, hu, hl, hd]

theorem advance_shrinks (s s₁ : AsciiFramer) (h : checkFrame s = .ok true s₁) :
    (advanceFrame s₁).buffer.length < s.buffer.length := by
  cases hs : find [startByte] s.buffer with
  | none => simp [checkFrame_of_no_start hs] at h
  | some start =>
    cases he : find endBytes (s.buffer.drop start) with
    | none => simp [checkFrame_of_no_end hs he] at h
    | some frameEnd =>
      rw [checkFrame_of_found hs he] at h
      obtain ⟨hb, hl⟩ := checkBody_eq_ok h
      have := find_eq_some_le he
      simp only [endBytes, List.length_cons, List.length_nil, List.length_drop] at this
      simp only [advanceFrame, hb, hl, sliceFrom_natCast, List.length_drop]
      omega

end AsciiFramer

open AsciiFramer in
/-- `ModbusAsciiFramer`, with `header_size = 2`; `reset_frame()` is
`advance_frame()`. -/
def asciiFramer : Framer AsciiFramer where
  buffer := AsciiFramer.buffer
  headerSize := headerSize
  addToFrame s m := { s with buffer := s.buffer ++ m }
  isFrameReady s := decide (headerSize < s.buffer.length)
  checkFrame := checkFrame
  getFrame := getFrame
  populateResult := populateResult
  advanceFrame := advanceFrame
  resetFrame := advanceFrame
  getFrameSize := getFrameSize
  buildPacket := buildPacket
  advance_shrinks := advance_shrinks

/-- A read into an ASCII framer keeps the header; while `len` is unknown the
frame size is one past the buffer, which any non-empty read reaches. -/
theorem asciiFramer_grows : asciiFramer.Grows where
  buffer_add _ _ := rfl
  frameSize_add s c hc hlt := by
    simp only [asciiFramer, AsciiFramer.getFrameSize] at hlt ⊢
    split_ifs at hlt ⊢
    · rfl
    · have := List.length_pos.mpr hc
      omega

namespace AsciiFramer

/-! ## Built packets -/

/-- The hex digits `build_packet` writes for `m` with unit id `u`, before the LRC. -/
def digitsOf (m : Pdu) (u : Nat) : Bytes :=
  upper (b2aHex (UInt8.ofNat u :: UInt8.ofNat m.functionCode :: m.encode))

/-- The LRC digits `build_packet` writes for `m` with unit id `u`. -/
def lrcDigitsOf (m : Pdu) (u : Nat) : Bytes :=
  upper (b2aHex [UInt8.ofNat (computeLrc (m.encode ++ [UInt8.ofNat u, UInt8.ofNat m.functionCode]))])

theorem upper_cons (b : UInt8) (t : Bytes) : upper (b :: t) = upperByte b :: upper t := rfl

theorem upperByte_startByte : upperByte startByte = startByte := by decide

theorem upper_endBytes : upper endBytes = endBytes := by decide

theorem hex2_eq_b2aHex {n : Nat} (h : n < 256) : hex2 n = b2aHex [UInt8.ofNat n] := by
  simp [b2aHex, toNat_ofNat_byte h]

/-- `build_packet` succeeds exactly on messages whose unit id and function code
fit a byte, and writes `':'`, their digits, the LRC digits and `'\r\n'`. -/
theorem buildPacket_eq_ok {m : Pdu} {p : Bytes} (h : buildPacket m = .ok p) :
    ∃ u : Nat, m.unitId = .int u ∧ u < 256 ∧ m.functionCode < 256 ∧
      p = startByte :: digitsOf m u ++ lrcDigitsOf m u ++ endBytes := by
  simp only [buildPacket, bind_eq_ok, pure, Except.pure, Except.ok.injEq] at h
  obtain ⟨_, hu, _, hf, rfl⟩ := h
  obtain ⟨u, hu₁, hu₂, rfl⟩ := packUnit_eq_ok.mp hu
  obtain ⟨hf₁, rfl⟩ := packB_eq_ok.mp hf
  refine ⟨u, hu₁, hu₂, hf₁, ?_⟩
  rw [hex2_eq_b2aHex (computeLrc_lt _)]
  simp only [digitsOf, lrcDigitsOf, b2aHex, upper_append, upper_cons, upperByte_startByte,
    upper_endBytes, List.append_assoc, List.singleton_append, List.cons_append, List.nil_append,
    List.append_nil]

@[simp] theorem length_digitsOf (m : Pdu) (u : Nat) :
    (digitsOf m u).length = 2 * m.encode.length + 4 := by
  simp [digitsOf]; omega

@[simp] theorem length_lrcDigitsOf (m : Pdu) (u : Nat) : (lrcDigitsOf m u).length = 2 := by
  simp [lrcDigitsOf]

/-- No framing byte is an uppercase hex digit. -/
theorem framing_not_mem_upper (d : Bytes) :
    startByte ∉ upper (b2aHex d) ∧ (13 : UInt8) ∉ upper (b2aHex d) := by
  constructor <;> intro h <;> obtain ⟨k, hk, he⟩ := mem_upper_b2aHex h
  · exact (upper_hexDigit_ne k hk).1 he.symm
  · exact (upper_hexDigit_ne k hk).2.1 he.symm

/-- Before its `'\r\n'`, a built packet holds no `'\r'`. -/
theorem cr_not_mem (m : Pdu) (u : Nat) : (13 : UInt8) ∉ startByte :: digitsOf m u ++ lrcDigitsOf m u := by
  simp only [List.cons_append, List.mem_cons, List.mem_append, not_or]
  exact ⟨by decide, (framing_not_mem_upper _).2, (framing_not_mem_upper _).2⟩

/-- What `check_frame` reads off a buffer that starts with a built packet. -/
theorem slices_of_packet (m : Pdu) {u : Nat} (hu : u < 256) (rest : Bytes) :
    let q := startByte :: digitsOf m u ++ lrcDigitsOf m u ++ endBytes ++ rest
    let e := (digitsOf m u).length + 3
    slice q 1 3 = upper (hex2 u) ∧ slice q ((e : Int) - 2) e = lrcDigitsOf m u ∧
      slice q 1 ((e : Int) - 2) = digitsOf m u ∧
      slice q 3 ((e : Int) - 2) = upper (b2aHex (UInt8.ofNat m.functionCode :: m.encode)) := by
  have hd : digitsOf m u =
      upper (hex2 u) ++ upper (b2aHex (UInt8.ofNat m.functionCode :: m.encode)) := by
    rw [digitsOf, b2aHex, toNat_ofNat_byte hu, upper_append]
  refine ⟨?_, ?_, ?_, ?_⟩
  · rw [show startByte :: digitsOf m u ++ lrcDigitsOf m u ++ endBytes ++ rest =
      [startByte] ++ upper (hex2 u) ++ (upper (b2aHex (UInt8.ofNat m.functionCode :: m.encode)) ++
        lrcDigitsOf m u ++ endBytes ++ rest) by simp [hd]]
    exact slice_middle _ _ _ rfl rfl
  · rw [show startByte :: digitsOf m u ++ lrcDigitsOf m u ++ endBytes ++ rest =
      (startByte :: digitsOf m u) ++ lrcDigitsOf m u ++ (endBytes ++ rest) by simp]
    exact slice_middle _ _ _ (by simp; omega) (by simp; omega)
  · rw [show startByte :: digitsOf m u ++ lrcDigitsOf m u ++ endBytes ++ rest =
      [startByte] ++ digitsOf m u ++ (lrcDigitsOf m u ++ endBytes ++ rest) by simp]
    exact slice_middle _ _ _ rfl (by simp; omega)
  · rw [show startByte :: digitsOf m u ++ lrcDigitsOf m u ++ endBytes ++ rest =
      (startByte :: upper (hex2 u)) ++ upper (b2aHex (UInt8.ofNat m.functionCode :: m.encode)) ++
        (lrcDigitsOf m u ++ endBytes ++ rest) by simp [hd]]
    exact slice_middle _ _ _ rfl (by simp [digitsOf, hex2]; omega)

/-- A packet `build_packet` wrote. -/
def Built (p : Bytes) : Prop := ∃ m, buildPacket m = .ok p

/-- The frame a packet carries: its digits after the unit id and before the
LRC, hex-decoded. -/
def frameOf (p : Bytes) : Bytes :=
  match a2bHex (slice p 3 (p.length - 4 : Nat)) with
  | .ok d => d
  | .error _ => []

/-- The unit id a packet carries, as `int(buffer[1:3], 16)` reads it. -/
def uidOf (p : Bytes) : Int :=
  match int16 (slice p 1 3) with
  | .ok u => u
  | .error _ => 0

/-- What `populate_result` copies into a result once the buffer starts with `p`. -/
def fillOf (p : Bytes) (result : Pdu) : Pdu :=
  populateResult { header := { uid := uidOf p } } result

/-- What a built packet carries: its function code and data, and its unit id. -/
theorem frameOf_uidOf (m : Pdu) {u : Nat} (hu : u < 256) :
    frameOf (startByte :: digitsOf m u ++ lrcDigitsOf m u ++ endBytes) =
      UInt8.ofNat m.functionCode :: m.encode ∧
    uidOf (startByte :: digitsOf m u ++ lrcDigitsOf m u ++ endBytes) = u := by
  obtain ⟨h₁, -, -, h₄⟩ := slices_of_packet m hu []
  simp only [List.append_nil] at h₁ h₄
  have hl : ((startByte :: digitsOf m u ++ lrcDigitsOf m u ++ endBytes).length - 4 : Nat) =
      ((digitsOf m u).length + 3 : Nat) - (2 : Int) := by
    simp [endBytes]; omega
  constructor
  · unfold frameOf; rw [hl, h₄, a2bHex_upper_b2aHex]
  · unfold uidOf; rw [h₁, int16_upper_hex2 hu]

end AsciiFramer

open AsciiFramer in
/-- The framing facts for built ASCII packets, behind noise free of `':'`. -/
theorem ascii_reads : Reads asciiFramer (startByte ∉ ·) Built frameOf fillOf where
  junk_nil := List.not_mem_nil _
  junk_append _ _ ha hb h := (List.mem_append.mp h).elim ha hb
  junk_left _ _ h h' := h (List.mem_append_left _ h')
  junk_right _ _ h h' := h (List.mem_append_right _ h')
  good_ne_nil := by
    rintro p ⟨m, hm⟩ rfl
    obtain ⟨u, -, -, -, hp⟩ := buildPacket_eq_ok hm
    simp at hp
  buffer_add _ _ := rfl
  extract := by
    rintro s g p rest hg ⟨m, hm⟩ hs
    change s.buffer = _ at hs
    obtain ⟨u, -, hu', -, rfl⟩ := buildPacket_eq_ok hm
    obtain ⟨hframe, huid⟩ := frameOf_uidOf m hu'
    obtain ⟨h₁, h₂, h₃, h₄⟩ := slices_of_packet m hu' rest
    set q := startByte :: digitsOf m u ++ lrcDigitsOf m u ++ endBytes ++ rest with hq
    set e := (digitsOf m u).length + 3 with he
    have hstart : find [startByte] s.buffer = some g.length := by
      rw [hs, List.append_assoc, find_append_of_not_mem hg]; simp
    have hskip : s.buffer.drop g.length = q := by rw [hs, List.append_assoc, List.drop_left]
    have hend : find endBytes q = some e := by
      rw [hq, List.append_assoc, endBytes, find_append_of_not_mem (cr_not_mem m u)]
      simp [he, find]
    have hlrc : int16 (lrcDigitsOf m u) = .ok (computeLrc (m.encode ++
        [UInt8.ofNat u, UInt8.ofNat m.functionCode])) := by
      rw [lrcDigitsOf, ← hex2_eq_b2aHex (computeLrc_lt _), int16_upper_hex2 (computeLrc_lt _)]
    have hbody : a2bHex (digitsOf m u) =
        .ok ([UInt8.ofNat u, UInt8.ofNat m.functionCode] ++ m.encode) := a2bHex_upper_b2aHex _
    have hready : headerSize < s.buffer.length := by simp [hs, headerSize]; omega
    set c : Int := Nat.cast (computeLrc (m.encode ++ [UInt8.ofNat u, UInt8.ofNat m.functionCode]))
    refine ⟨by simpa [asciiFramer] using hready, ⟨q, ⟨c, e, u⟩⟩, ?_, ?_, ?_, ?_⟩
    · show checkFrame s = _
      rw [checkFrame_of_found hstart (by rw [hskip]; exact hend)]
      rw [hskip, checkBody_of_ok (by rw [h₁, int16_upper_hex2 hu']) (by rw [h₂, hlrc])
        (by rw [h₃, hbody])]
      simpa [checkLrc, c] using
        congrArg Nat.cast (computeLrc_append_comm [UInt8.ofNat u, UInt8.ofNat m.functionCode] m.encode)
    · show getFrame ⟨q, ⟨c, e, u⟩⟩ = _
      have hpos : ((e : Int) - 2) > 0 := by omega
      simp only [getFrame, headerSize, if_pos hpos]
      rw [show ((2 : Nat) : Int) + 1 = 3 from rfl, h₄, a2bHex_upper_b2aHex, hframe]
    · funext r
      simp only [asciiFramer, populateResult, fillOf, huid]
    · show (advanceFrame ⟨q, ⟨c, e, u⟩⟩).buffer = rest
      rw [advanceFrame, sliceFrom_natCast, hq, List.drop_left' (by simp [he, endBytes])]
  wait := by
    rintro s g r hg hr hs hready
    change s.buffer = _ at hs
    rcases r with _ | ⟨c, r⟩
    · -- nothing but noise: no `':'` to start from
      exact ⟨s, checkFrame_of_no_start (by rw [hs, List.append_nil]; exact find_eq_none_of_not_mem hg),
        .inl hs⟩
    obtain ⟨p, ⟨m, hm⟩, hpre, hlt⟩ := hr.resolve_left (List.cons_ne_nil _ _)
    obtain ⟨u, -, -, -, rfl⟩ := buildPacket_eq_ok hm
    -- a packet has begun: the noise goes, and its `'\r\n'` is not in yet
    have hc : c = startByte := by simpa using hpre.head
    subst hc
    have hstart : find [startByte] s.buffer = some g.length := by
      rw [hs, find_append_of_not_mem hg]; simp
    have hpre' : startByte :: r <+: startByte :: digitsOf m u ++ lrcDigitsOf m u ++ [13] := by
      have h₂ : startByte :: r <+: (startByte :: digitsOf m u ++ lrcDigitsOf m u ++ [13]) ++ [10] := by
        simpa [endBytes] using hpre
      rcases List.prefix_concat_iff.mp h₂ with h | h
      · rw [h] at hlt; simp [endBytes] at hlt
      · exact h
    have hend : find endBytes (s.buffer.drop g.length) = none := by
      rw [hs, List.drop_left]; exact find_pair_eq_none (cr_not_mem m u) hpre'
    exact ⟨_, checkFrame_of_no_end hstart hend, .inr (by simp [asciiFramer, hs])⟩

/-- Noise that no packet follows stays in the buffer: three bytes without a
`':'`, fed in one call, are all still buffered afterwards. -/
theorem feed_ascii_noise_kept :
    (feed asciiFramer (fun _ => .ok none) (fun _ e => (e, none)) {} () [[97, 98, 99]]).framer.buffer =
      [97, 98, 99] := by
  simp only [feed_cons, processIncomingPacket, if_neg (show [97, 98, 99] ≠ ([] : Bytes) by decide)]
  rw [frameLoop_check_false (by decide)
    (@AsciiFramer.checkFrame_of_no_start { buffer := [97, 98, 99] } (by decide))]
  rfl

open AsciiFramer in
/-- **ASCII framing is transparent over any chunking, behind noise free of
`':'`.** Noise `g` then the packets `build_packet` writes for `P₁ … Pₖ`, cut into
chunks in any way and fed to a framer with an empty buffer, one
`process_incoming_packet` call a chunk, give the decoder
`[Pᵢ.function_code] ++ Pᵢ.encode()` once each, in order; the callback is handed
each decoded result with `Pᵢ`'s unit id; nothing is raised; the buffer ends
free of `':'`, and empty once there was a packet. -/
theorem feed_ascii {γ : Type} (decode : Bytes → Except Exc (Option Pdu)) (D : Bytes → Pdu)
    (callback : Pdu → γ → γ × Option Exc) (hcb : ∀ x e, (callback x e).2 = none)
    (g : Bytes) (hg : startByte ∉ g)
    (Ps : List Pdu) (pkts : List Bytes) (hpk : Ps.map buildPacket = pkts.map .ok)
    (hdec : ∀ P ∈ Ps, decode (UInt8.ofNat P.functionCode :: P.encode) =
      .ok (some (D (UInt8.ofNat P.functionCode :: P.encode))))
    (cs : List Bytes) (hcs : cs.flatten = g ++ pkts.flatten) (s : AsciiFramer) (hs : s.buffer = [])
    (e : γ) :
    (feed asciiFramer decode callback s e cs).decoded =
      Ps.map (fun P => UInt8.ofNat P.functionCode :: P.encode) ∧
    (feed asciiFramer decode callback s e cs).env =
      afterCallbacks callback (Ps.map (serialHanded D)) e ∧
    (feed asciiFramer decode callback s e cs).raised = [] ∧
    startByte ∉ (feed asciiFramer decode callback s e cs).framer.buffer ∧
    (Ps ≠ [] → (feed asciiFramer decode callback s e cs).framer.buffer = []) := by
  have hframe : ∀ P p, buildPacket P = .ok p → frameOf p = UInt8.ofNat P.functionCode :: P.encode := by
    intro P p hb
    obtain ⟨u, -, hu, -, rfl⟩ := buildPacket_eq_ok hb
    exact (frameOf_uidOf P hu).1
  have hps : ∀ q ∈ pkts, Built q ∧ decode (frameOf q) = .ok (some (D (frameOf q))) := by
    intro q hq
    obtain ⟨P, hP, hb⟩ := exists_of_map_ok hpk hq
    exact ⟨⟨P, hb⟩, by rw [hframe P q hb]; exact hdec P hP⟩
  obtain ⟨h1, h2, h3, h4, h5⟩ := feed_reads ascii_reads pkts hps g hg cs hcs s hs e
    (quiet_of_forall (fun _ _ e => hcb _ e) e)
  refine ⟨by rw [h1]; exact map_eq_of_map_ok hpk hframe, ?_, h3, h4, fun hP => h5 ?_⟩
  · rw [h2, envAfter, map_eq_of_map_ok hpk (g := serialHanded D)]
    intro P p hb
    obtain ⟨u, hu, hu', -, rfl⟩ := buildPacket_eq_ok hb
    obtain ⟨hf, hid⟩ := frameOf_uidOf P hu'
    simp only [fillOf, populateResult, serialHanded, hid, hu, hf]
  · rintro rfl
    cases Ps
    · exact hP rfl
    · simp at hpk

/-- The frame `:F7031389000A60\r\n`, behind the noise `sss` and cut inside the
unit id: the callback is handed one message, with unit id `0xF7`. -/
theorem feed_ascii_after_noise :
    (feed asciiFramer (fun _ => .ok (some { functionCode := 3 })) (fun x l => (l ++ [x], none)) {} []
      [[115, 115, 115, 58, 70], [55, 48, 51, 49, 51, 56, 57, 48, 48, 48, 65, 54, 48, 13, 10]]).env =
      [{ functionCode := 3, unitId := .int 0xF7 }] :=
  (feed_ascii (fun _ => .ok (some { functionCode := 3 })) (fun _ => { functionCode := 3 })
    (fun x l => (l ++ [x], none)) (fun _ _ => rfl) [115, 115, 115] (by decide)
    [{ functionCode := 3, unitId := .int 0xF7, encode := [0x13, 0x89, 0x00, 0x0A] }]
    [[58, 70, 55, 48, 51, 49, 51, 56, 57, 48, 48, 48, 65, 54, 48, 13, 10]]
    (by decide) (by simp) _ (by decide) {} rfl []).2.1

/-! ## A start marker in the noise

`check_frame` drops only what precedes the first `':'`. When the noise itself
holds a `':'`, the buffer is cut there and the first `'\r\n'` after it is the
next packet's, so the digits handed to `a2b_hex` run over that packet's own
`':'`. Nothing advances past the noise's `':'`, and every later call meets the
same bytes. -/

namespace AsciiFramer

/-- A body whose hex digits run over a `':'` raises, and keeps the buffer. -/
theorem checkBody_raises {s : AsciiFramer} {frameEnd : Nat}
    (hd : startByte ∈ slice s.buffer 1 ((frameEnd : Int) - 2)) :
    ∃ x s₁, checkBody s frameEnd = .error x s₁ ∧ s₁.buffer = s.buffer := by
  simp only [checkBody]
  split
  · exact ⟨_, _, rfl, rfl⟩
  · split
    · exact ⟨_, _, rfl, rfl⟩
    · rw [a2bHex_of_not_hex hexVal_colon hd]
      exact ⟨_, _, rfl, rfl⟩

/-- `check_frame` drops the noise before the first `':'` and goes on as on a
buffer that starts there. -/
theorem checkFrame_skip {s : AsciiFramer} {j w : Bytes} (hj : startByte ∉ j)
    (hs : s.buffer = j ++ startByte :: w) :
    checkFrame s = checkFrame ⟨startByte :: w, s.header⟩ := by
  have hf : find [startByte] s.buffer = some j.length := by
    rw [hs, find_append_of_not_mem hj, find_cons_self]; simp
  rw [checkFrame, checkFrame, hf, find_cons_self]
  dsimp only
  rw [skip_eq, hs, List.drop_left, if_neg (Nat.lt_irrefl 0)]

/-- After a `':'` of the noise, where no `'\r\n'` is, the first `'\r\n'` of
anything that arrived is the next packet's, or none has arrived yet. -/
theorem find_end_of_colon {g₁ p W Y rest : Bytes} {P : Pdu} (hg : ¬ endBytes <:+: startByte :: g₁)
    (hp : buildPacket P = .ok p) (hW : W ++ Y = startByte :: g₁ ++ p ++ rest) :
    find endBytes W = none ∨ ∃ r, W = startByte :: g₁ ++ p ++ r := by
  obtain ⟨u, -, -, -, rfl⟩ := buildPacket_eq_ok hp
  rw [List.append_assoc, List.append_eq_append_iff] at hW
  rcases hW with ⟨a, hg', -⟩ | ⟨c, rfl, hc⟩
  · exact .inl (find_eq_none_of_not_occurs fun h => hg (h.trans ⟨[], a, by simp [hg']⟩))
  rcases List.append_eq_append_iff.mp hc with ⟨d, rfl, -⟩ | ⟨a, hp', -⟩
  · exact .inr ⟨d, by simp⟩
  rcases a with _ | ⟨z, a⟩
  · exact .inr ⟨[], by rw [List.append_nil] at hp'; rw [hp', List.append_nil]⟩
  -- a proper beginning of the packet, which ends before its '\r\n'
  have hpre : c <+: (startByte :: digitsOf P u ++ lrcDigitsOf P u ++ [13]) ++ [10] :=
    ⟨z :: a, by rw [← hp']; simp [endBytes]⟩
  rcases List.prefix_concat_iff.mp hpre with h | h
  · have := congrArg List.length hp'
    simp [h, endBytes] at this
    omega
  have hhead : c.head? ≠ some 10 := by
    rcases c with _ | ⟨b, c⟩
    · simp
    · rw [List.head?_cons, show b = startByte by simpa using h.head]; decide
  left
  rw [endBytes, find_pair_append hhead hg, find_pair_eq_none (cr_not_mem P u) h]
  rfl

/-- A buffer that starts at a `':'` of the noise and holds the next whole
packet raises: the `'\r\n'` found is the packet's, and the digits given to
`a2b_hex` run over the packet's own `':'`. -/
theorem checkFrame_colon_packet {g₁ p r : Bytes} {P : Pdu} (hg : ¬ endBytes <:+: startByte :: g₁)
    (hp : buildPacket P = .ok p) (h : AsciiHeader) :
    ∃ x s₁, checkFrame ⟨startByte :: g₁ ++ p ++ r, h⟩ = .error x s₁ ∧
      s₁.buffer = startByte :: g₁ ++ p ++ r := by
  obtain ⟨u, -, -, -, rfl⟩ := buildPacket_eq_ok hp
  set e := g₁.length + (digitsOf P u).length + 4
  have hW : startByte :: g₁ ++ (startByte :: digitsOf P u ++ lrcDigitsOf P u ++ endBytes) ++ r =
      (startByte :: g₁) ++ ((startByte :: digitsOf P u ++ lrcDigitsOf P u) ++ (endBytes ++ r)) := by
    simp
  have hend : find endBytes ((startByte :: g₁) ++
      ((startByte :: digitsOf P u ++ lrcDigitsOf P u) ++ (endBytes ++ r))) = some e := by
    rw [endBytes, find_pair_append (by simp; decide) hg, find_append_of_not_mem (cr_not_mem P u),
      find_self_append, Option.map_some', Option.map_some']
    simp [e]
    omega
  have hslice : slice ((startByte :: g₁) ++
      ((startByte :: digitsOf P u ++ lrcDigitsOf P u) ++ (endBytes ++ r))) 1 ((e : Int) - 2) =
      g₁ ++ startByte :: digitsOf P u := by
    rw [show (startByte :: g₁) ++ ((startByte :: digitsOf P u ++ lrcDigitsOf P u) ++ (endBytes ++ r)) =
      [startByte] ++ (g₁ ++ startByte :: digitsOf P u) ++ (lrcDigitsOf P u ++ endBytes ++ r) by simp]
    exact slice_middle _ _ _ rfl (by simp [e]; omega)
  have hc := @checkFrame_of_found ⟨(startByte :: g₁) ++
    ((startByte :: digitsOf P u ++ lrcDigitsOf P u) ++ (endBytes ++ r)), h⟩ 0 e (find_cons_self _ _) hend
  rw [hW, hc]
  exact checkBody_raises (by rw [List.drop_zero, hslice]; simp)

/-- `check_frame` on what arrived of noise `g₀ ++ ':' :: g₁` and a packet,
with at most `g₀` dropped: it never checks out, drops at most `g₀`, and raises
once the packet is all in. -/
theorem checkFrame_colon_noise {g₀ g₁ p rest X Y : Bytes} {P : Pdu} {k : Nat}
    (h₀ : startByte ∉ g₀) (hg : ¬ endBytes <:+: startByte :: g₁) (hp : buildPacket P = .ok p)
    (hX : X ++ Y = g₀ ++ (startByte :: g₁ ++ p ++ rest)) (hk : k ≤ g₀.length) (hkX : k ≤ X.length)
    {s : AsciiFramer} (hs : s.buffer = X.drop k) :
    ∃ s₁ k', k' ≤ g₀.length ∧ k' ≤ X.length ∧ s₁.buffer = X.drop k' ∧
      (checkFrame s = .ok false s₁ ∨ ∃ x, checkFrame s = .error x s₁) ∧
      (Y = [] → s₁.buffer = startByte :: g₁ ++ p ++ rest ∧ ∃ x, checkFrame s = .error x s₁) := by
  rcases List.append_eq_append_iff.mp hX with ⟨a, rfl, hY⟩ | ⟨W, rfl, hW⟩
  · -- only noise before the `':'` has arrived
    have hnone : find [startByte] s.buffer = none :=
      find_eq_none_of_not_mem fun h => h₀ (List.mem_append_left a (List.mem_of_mem_drop (hs ▸ h)))
    refine ⟨s, k, hk.trans (by simp), hkX, hs, .inl (checkFrame_of_no_start hnone), fun h => ?_⟩
    simp [h] at hY
  have hsk : startByte ∉ g₀.drop k := fun h => h₀ (List.mem_of_mem_drop h)
  rcases W with _ | ⟨b, w⟩
  · -- the `':'` has not arrived
    refine ⟨s, k, hk, hkX, hs, .inl (checkFrame_of_no_start ?_), fun h => by simp [h] at hW⟩
    rw [hs, List.append_nil]
    exact find_eq_none_of_not_mem hsk
  obtain rfl : b = startByte := by simpa using (List.cons.inj hW).1.symm
  have hskip : checkFrame s = checkFrame ⟨startByte :: w, s.header⟩ :=
    checkFrame_skip hsk (by rw [hs, List.drop_append_of_le_length hk])
  have hdrop : (g₀ ++ startByte :: w).drop g₀.length = startByte :: w := List.drop_left _ _
  have hlen : g₀.length ≤ (g₀ ++ startByte :: w).length := by simp
  rcases find_end_of_colon hg hp hW.symm with hnone | ⟨r, hr⟩
  · have hc : checkFrame s = .ok false ⟨startByte :: w, s.header⟩ :=
      hskip.trans (@checkFrame_of_no_end ⟨startByte :: w, s.header⟩ 0 (find_cons_self _ _) hnone)
    refine ⟨_, g₀.length, le_rfl, hlen, hdrop.symm, .inl hc, fun h => ?_⟩
    subst h
    rw [List.append_nil] at hW
    obtain ⟨x, s₁, hx, -⟩ := checkFrame_colon_packet (r := rest) hg hp s.header
    rw [hW, ← hskip, hc] at hx
    cases hx
  · obtain ⟨x, s₁, hx, hb⟩ := checkFrame_colon_packet (r := r) hg hp s.header
    rw [← hr, ← hskip] at hx
    refine ⟨s₁, g₀.length, le_rfl, hlen, by rw [hb, hdrop, hr], .inr ⟨x, hx⟩, fun h => ⟨?_, x, hx⟩⟩
    rw [hb, ← hr, hW, h, List.append_nil]

section Stuck

variable {γ : Type} (decode : Bytes → Except Exc (Option Pdu)) (callback : Pdu → γ → γ × Option Exc)

/-- One call of `process_incoming_packet` while noise with a `':'` is in front
of a packet: nothing is decoded, at most `g₀` is dropped, and once the packet is
all in the call raises and keeps everything from the `':'` on. -/
theorem processIncomingPacket_colon_noise {g₀ g₁ p rest X c Y : Bytes} {P : Pdu} {k : Nat}
    (h₀ : startByte ∉ g₀) (hg : ¬ endBytes <:+: startByte :: g₁) (hp : buildPacket P = .ok p)
    (hX : X ++ c ++ Y = g₀ ++ (startByte :: g₁ ++ p ++ rest)) (hk : k ≤ g₀.length) (hkX : k ≤ X.length)
    {s : AsciiFramer} (hs : s.buffer = X.drop k) (e : γ) :
    (processIncomingPacket asciiFramer decode callback c s e).decoded = [] ∧
    ∃ k', k' ≤ g₀.length ∧ k' ≤ (X ++ c).length ∧
      (processIncomingPacket asciiFramer decode callback c s e).framer.buffer = (X ++ c).drop k' ∧
      (Y = [] → (processIncomingPacket asciiFramer decode callback c s e).raised ≠ [] ∧
        (processIncomingPacket asciiFramer decode callback c s e).framer.buffer =
          startByte :: g₁ ++ p ++ rest) := by
  have hpl : 2 ≤ p.length := by
    obtain ⟨u, -, -, -, rfl⟩ := buildPacket_eq_ok hp
    simp [endBytes]
  simp only [processIncomingPacket]
  set s' := if c = [] then s else asciiFramer.addToFrame s c
  have hs' : s'.buffer = (X ++ c).drop k := by
    by_cases hc : c = [] <;> simp [s', hc, hs, asciiFramer, List.drop_append_of_le_length hkX]
  obtain ⟨s₁, k', hk', hkX', hb, hc, hlast⟩ :=
    checkFrame_colon_noise (Y := Y) h₀ hg hp hX hk (by simp; omega) hs'
  cases hr : asciiFramer.isFrameReady s'
  · rw [frameLoop_not_ready hr]
    refine ⟨rfl, k, hk, by simp; omega, hs', fun h => ?_⟩
    subst h
    have : 2 < s'.buffer.length := by
      rw [hs', List.append_nil] at *
      rw [hX, List.length_drop]
      simp
      omega
    simp [asciiFramer, headerSize, this] at hr
  rcases hc with hc | ⟨x, hc⟩
  · rw [frameLoop_check_false hr hc]
    refine ⟨rfl, k', hk', hkX', hb, fun h => ?_⟩
    obtain ⟨-, x, hx⟩ := hlast h
    rw [hx] at hc
    cases hc
  · rw [frameLoop_check_error hr hc]
    exact ⟨rfl, k', hk', hkX', hb, fun h => ⟨List.cons_ne_nil _ _, (hlast h).1⟩⟩

/-- The run invariant: the buffer holds what arrived, less at most `g₀`. -/
theorem feed_colon_noise {g₀ g₁ p rest : Bytes} {P : Pdu} (h₀ : startByte ∉ g₀)
    (hg : ¬ endBytes <:+: startByte :: g₁) (hp : buildPacket P = .ok p) :
    ∀ (cs : List Bytes) (X : Bytes) (k : Nat) (s : AsciiFramer) (e : γ),
    X ++ cs.flatten = g₀ ++ (startByte :: g₁ ++ p ++ rest) → k ≤ g₀.length → k ≤ X.length →
    s.buffer = X.drop k →
    (feed asciiFramer decode callback s e cs).decoded = [] ∧
    (cs ≠ [] → (feed asciiFramer decode callback s e cs).raised ≠ [] ∧
      (feed asciiFramer decode callback s e cs).framer.buffer = startByte :: g₁ ++ p ++ rest)
  | [], _, _, _, _, _, _, _, _ => ⟨rfl, fun h => absurd rfl h⟩
  | c :: cs, X, k, s, e, hX, hk, hkX, hs => by
    obtain ⟨h1, k', hk', hkX', hb, hlast⟩ := processIncomingPacket_colon_noise (Y := cs.flatten)
      decode callback h₀ hg hp (by simpa using hX) hk hkX hs e
    obtain ⟨i1, i2⟩ := feed_colon_noise h₀ hg hp cs (X ++ c) k' _
      (processIncomingPacket asciiFramer decode callback c s e).env (by simpa using hX) hk' hkX' hb
    rw [feed_cons]
    refine ⟨by simp [h1, i1], fun _ => ?_⟩
    rcases cs with _ | ⟨c', cs⟩
    · obtain ⟨r1, r2⟩ := hlast rfl
      simp [feed, r1, r2]
    · obtain ⟨r1, r2⟩ := i2 (List.cons_ne_nil _ _)
      exact ⟨by simp [r1], r2⟩

end Stuck

end AsciiFramer

open AsciiFramer in
/-- **A `':'` in the noise stops ASCII framing for good.** Noise whose first
`':'` follows `g₀`, and that holds no `'\r\n'`, then a built packet and anything
after it, cut into chunks in any way and fed to a framer with an empty buffer:
no frame ever reaches the decoder, an exception escapes `process_incoming_packet`,
and the buffer ends holding everything from the noise's `':'` on. `check_frame`
cuts the buffer at that `':'`, finds the packet's `'\r\n'`, and raises in
`int(..., 16)` or in `a2b_hex` over digits that run into the packet's own `':'`;
as it never advances, the next call meets the same bytes. -/
theorem feed_ascii_stuck {γ : Type} (decode : Bytes → Except Exc (Option Pdu))
    (callback : Pdu → γ → γ × Option Exc) (g₀ g₁ : Bytes) (h₀ : startByte ∉ g₀)
    (hg : ¬ endBytes <:+: g₀ ++ startByte :: g₁) (P : Pdu) (p : Bytes) (hp : buildPacket P = .ok p)
    (rest : Bytes) (cs : List Bytes) (hcs : cs.flatten = g₀ ++ startByte :: g₁ ++ p ++ rest)
    (s : AsciiFramer) (hs : s.buffer = []) (e : γ) :
    (feed asciiFramer decode callback s e cs).decoded = [] ∧
    (feed asciiFramer decode callback s e cs).raised ≠ [] ∧
    (feed asciiFramer decode callback s e cs).framer.buffer = startByte :: g₁ ++ p ++ rest := by
  have hg₁ : ¬ endBytes <:+: startByte :: g₁ := fun h => hg (h.trans (List.suffix_append _ _).isInfix)
  obtain ⟨h1, h2⟩ := feed_colon_noise decode callback h₀ hg₁ hp cs [] 0 s e (by simpa using hcs)
    (Nat.zero_le _) le_rfl hs
  have hne : cs ≠ [] := by rintro rfl; simp at hcs
  exact ⟨h1, (h2 hne).1, (h2 hne).2⟩

/-- Noise `ss:F7`, a truncated frame, then the frame `:F7031389000A60\r\n`,
cut inside the packet: nothing is decoded. -/
theorem feed_ascii_stuck_truncated :
    (feed asciiFramer (fun _ => .ok (some { functionCode := 3 })) (fun x l => (l ++ [x], none)) {} []
      [[115, 115, 58, 70, 55, 58, 70, 55, 48],
       [51, 49, 51, 56, 57, 48, 48, 48, 65, 54, 48, 13, 10]]).decoded = [] :=
  (feed_ascii_stuck (fun _ => .ok (some { functionCode := 3 })) (fun x l => (l ++ [x], none))
    [115, 115] [70, 55] (by decide) (by decide)
    { functionCode := 3, unitId := .int 0xF7, encode := [0x13, 0x89, 0x00, 0x0A] }
    [58, 70, 55, 48, 51, 49, 51, 56, 57, 48, 48, 48, 65, 54, 48, 13, 10] (by decide) [] _
    (by decide) {} rfl []).1

/-- A lone `':'` before the frame `:F7031389000A60\r\n`, then the same frame
again: both calls raise `ValueError`, as `int(b':F', 16)` does, and neither
frame reaches the decoder. -/
theorem feed_ascii_colon_noise :
    (feed asciiFramer (fun _ => .ok (some { functionCode := 3 })) (fun x l => (l ++ [x], none)) {} []
      [[58, 58, 70, 55, 48, 51, 49, 51, 56, 57, 48, 48, 48, 65, 54, 48, 13, 10],
       [58, 70, 55, 48, 51, 49, 51, 56, 57, 48, 48, 48, 65, 54, 48, 13, 10]]).decoded = [] ∧
    (feed asciiFramer (fun _ => .ok (some { functionCode := 3 })) (fun x l => (l ++ [x], none)) {} []
      [[58, 58, 70, 55, 48, 51, 49, 51, 56, 57, 48, 48, 48, 65, 54, 48, 13, 10],
       [58, 70, 55, 48, 51, 49, 51, 56, 57, 48, 48, 48, 65, 54, 48, 13, 10]]).raised =
      [.valueError, .valueError] :=
  ⟨rfl, rfl⟩

end Modbus
