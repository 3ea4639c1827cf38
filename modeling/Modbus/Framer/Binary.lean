import Modbus.Framer.Stream

/-! # Modbus.Framer.Binary — `ModbusBinaryFramer`

A binary frame is `'{'`, the unit id, the function code, the data with every
`'{'` and `'}'` doubled (`_preflight`), the CRC of all that, and `'}'`. The
framer

* drops what precedes the first `'{'`, looks for the first `'}'`, reads the
  unit id and the CRC with `struct.unpack`, and checks the CRC of
  `buffer[start + 1 : end - 2]` (`checkFrame`);
* hands `buffer[header_size + 1 : len - 2]` to the decoder (`getFrame`), copies
  the unit id into the result (`populateResult`), and drops `len + 2` bytes
  (`advanceFrame`).

Unlike the RTU and ASCII framers, whose `get_frame` starts right after the unit
id, this one starts one byte later, past the function code; and the unit id it
copies is the one-element tuple `struct.unpack` returns. `processIncomingPacket_built`
states what one call of `process_incoming_packet` does with a built packet,
for every message: the decoder gets the escaped data without its function code.
-/

namespace Modbus

open Bytes

/-- The header dictionary of `ModbusBinaryFramer`; `uid` holds what
`struct.unpack('>B', ...)` returned, a tuple once a frame was read. -/
structure BinaryHeader where
  crc : Nat := 0
  len : Nat := 0
  uid : UnitId := .int 0
  deriving DecidableEq, Repr

/-- The state of a `ModbusBinaryFramer`. -/
structure BinaryFramer where
  buffer : Bytes := []
  header : BinaryHeader := {}
  deriving DecidableEq, Repr

namespace BinaryFramer

/-- `header_size`. -/
def headerSize : Nat := 2

/-- `__start`, `b'\x7b'`. -/
def startByte : UInt8 := 0x7B

/-- `__end`, `b'\x7d'`. -/
def endByte : UInt8 := 0x7D

/-- `__repeat`, the bytes `_preflight` doubles. -/
def repeatBytes : Bytes := [0x7D, 0x7B]

/-- `check_frame()` once `'}'` was found at `frameEnd`: record `len`, read `uid`
and `crc`, and check the CRC of `buffer[start + 1:end - 2]`, with the `start`
the search returned before the old bad data was dropped. -/
def checkBody (s : BinaryFramer) (start frameEnd : Nat) : EStateM.Result Exc BinaryFramer Bool :=
  let s₁ := { s with header.len := frameEnd }
  match unpackB (slice s₁.buffer 1 2) with
  | .error e => .error e s₁
  | .ok uid =>
    let s₂ := { s₁ with header.uid := .tuple uid }
    match unpackH (slice s₂.buffer ((frameEnd : Int) - 2) frameEnd) with
    | .error e => .error e s₂
    | .ok crc =>
      let s₃ := { s₂ with header.crc := crc }
      let data := slice s₃.buffer (start + 1 : Nat) ((frameEnd : Int) - 2)
      .ok (checkCrc data s₃.header.crc) s₃

/-- `check_frame()`: find `'{'` and skip the old bad data before it, then find
`'}'`. -/
def checkFrame (s : BinaryFramer) : EStateM.Result Exc BinaryFramer Bool :=
  match find [startByte] s.buffer with
  | none => .ok false s
  | some start =>
    let s₁ := if start > 0 then { s with buffer := sliceFrom s.buffer start } else s
    match find [endByte] s₁.buffer with
    | none => .ok false s₁
    | some frameEnd => checkBody s₁ start frameEnd

/-- `advance_frame()`: drop `len + 2` bytes and reset the header. -/
def advanceFrame (s : BinaryFramer) : BinaryFramer :=
  { buffer := sliceFrom s.buffer (s.header.len + 2 : Nat), header := {} }

/-- `get_frame_size()`: `len`, or one more than is buffered while `len` is unknown. -/
def getFrameSize (s : BinaryFramer) : Nat :=
  if s.header.len ≠ 0 then s.header.len else s.buffer.length + 1

/-- `get_frame()`: `buffer[header_size + 1 : len - 2]`, or `b''` when `len - 2 ≤ 0`. -/
def getFrame (s : BinaryFramer) : Bytes :=
  let start : Int := headerSize + 1
  let frameEnd : Int := (s.header.len : Int) - 2
  if frameEnd > 0 then slice s.buffer start frameEnd else []

/-- `populate_result(result)`: copy `uid`. -/
def populateResult (s : BinaryFramer) (result : Pdu) : Pdu :=
  { result with unitId := s.header.uid }

/-- `_preflight(data)`: double every byte of `__repeat`. -/
def preflight : Bytes → Bytes
  | [] => []
  | d :: ds => (if d ∈ repeatBytes then [d, d] else [d]) ++ preflight ds

/-- `build_packet(message)`: `struct.pack('>BB', unit_id, function_code)`, the
escaped data, the CRC with `struct.pack('>H', ...)`, between `'{'` and `'}'`. -/
def buildPacket (m : Pdu) : Except Exc Bytes := do
  let data := preflight m.encode
  let packet := (← packUnit m.unitId) ++ (← packB m.functionCode) ++ data
  let packet := packet ++ (← packH (computeCrc packet))
  return [startByte] ++ packet ++ [endByte]

/-! ## What `check_frame` can do -/

theorem skip_eq (s : BinaryFramer) (start : Nat) :
    (if start > 0 then { s with buffer := sliceFrom s.buffer start } else s) =
      ⟨s.buffer.drop start, s.header⟩ := by
  split_ifs with h
  · simp
  · simp [Nat.eq_zero_of_not_pos h]

theorem checkFrame_of_no_start {s : BinaryFramer} (h : find [startByte] s.buffer = none) :
    checkFrame s = .ok false s := by
  simp [checkFrame, h]

theorem checkFrame_of_no_end {s : BinaryFramer} {start : Nat}
    (hs : find [startByte] s.buffer = some start) (he : find [endByte] (s.buffer.drop start) = none) :
    checkFrame s = .ok false ⟨s.buffer.drop start, s.header⟩ := by
  simp only [checkFrame, hs, skip_eq, he]

theorem checkFrame_of_found {s : BinaryFramer} {start frameEnd : Nat}
    (hs : find [startByte] s.buffer = some start)
    (he : find [endByte] (s.buffer.drop start) = some frameEnd) :
    checkFrame s = checkBody ⟨s.buffer.drop start, s.header⟩ start frameEnd := by
  simp only [checkFrame, hs, skip_eq, he]

/-- A body that checks out keeps the buffer and records where `'}'` is. -/
theorem checkBody_eq_ok {s s₁ : BinaryFramer} {start frameEnd : Nat} {b : Bool}
    (h : checkBody s start frameEnd = .ok b s₁) :
    s₁.buffer = s.buffer ∧ s₁.header.len = frameEnd := by
  simp only [checkBody] at h
  split at h
  · cases h
  · split at h
    · cases h
    · cases h; exact ⟨rfl, rfl⟩

theorem advance_shrinks (s s₁ : BinaryFramer) (h : checkFrame s = .ok true s₁) :
    (advanceFrame s₁).buffer.length < s.buffer.length := by
  cases hs : find [startByte] s.buffer with
  | none => simp [checkFrame_of_no_start hs] at h
  | some start =>
    cases he : find [endByte] (s.buffer.drop start) with
    | none => simp [checkFrame_of_no_end hs he] at h
    | some frameEnd =>
      rw [checkFrame_of_found hs he] at h
      obtain ⟨hb, hl⟩ := checkBody_eq_ok h
      have := find_eq_some_le he
      simp only [List.length_singleton, List.length_drop] at this
      simp only [advanceFrame, hb, hl, sliceFrom_natCast, List.length_drop]
      omega

end BinaryFramer

open BinaryFramer in
/-- `ModbusBinaryFramer`, with `header_size = 2`; `reset_frame()` is
`advance_frame()`. -/
def binaryFramer : Framer BinaryFramer where
  buffer := BinaryFramer.buffer
  headerSize := headerSize
  addToFrame s m := { s with buffer := s.buffer ++ m }
  isFrameReady s := decide (headerSize < s.buffer.length)
  checkFrame := checkFrame
  getFrame s := .ok (getFrame s)
  populateResult := populateResult
  advanceFrame := advanceFrame
  resetFrame := advanceFrame
  getFrameSize := getFrameSize
  buildPacket := buildPacket
  advance_shrinks := advance_shrinks

/-- A read into a binary framer keeps the header; while `len` is unknown the
frame size is one past the buffer, which any non-empty read reaches. -/
theorem binaryFramer_grows : binaryFramer.Grows where
  buffer_add _ _ := rfl
  frameSize_add s c hc hlt := by
    simp only [binaryFramer, BinaryFramer.getFrameSize] at hlt ⊢
    split_ifs at hlt ⊢
    · rfl
    · have := List.length_pos.mpr hc
      omega

namespace BinaryFramer

/-! ## Built packets -/

/-- What `build_packet` writes for `m` with unit id `u` between `'{'` and the CRC. -/
def bodyOf (m : Pdu) (u : Nat) : Bytes :=
  UInt8.ofNat u :: UInt8.ofNat m.functionCode :: preflight m.encode

/-- `build_packet` succeeds exactly on messages whose unit id and function code
fit a byte, and writes the escaped body and its CRC between the markers. -/
theorem buildPacket_eq_ok {m : Pdu} {p : Bytes} (h : buildPacket m = .ok p) :
    ∃ u : Nat, m.unitId = .int u ∧ u < 256 ∧ m.functionCode < 256 ∧
      p = startByte :: bodyOf m u ++ crcBytes (computeCrc (bodyOf m u)) ++ [endByte] := by
  simp only [buildPacket, bind_eq_ok, pure, Except.pure, Except.ok.injEq] at h
  obtain ⟨_, hu, _, hf, _, hc, rfl⟩ := h
  obtain ⟨u, hu₁, hu₂, rfl⟩ := packUnit_eq_ok.mp hu
  obtain ⟨hf₁, rfl⟩ := packB_eq_ok.mp hf
  obtain ⟨-, rfl⟩ := packH_eq_ok.mp hc
  exact ⟨u, hu₁, hu₂, hf₁, rfl⟩

theorem checkBody_of_ok {s : BinaryFramer} {start frameEnd uid crc : Nat}
    (hu : unpackB (slice s.buffer 1 2) = .ok uid)
    (hc : unpackH (slice s.buffer ((frameEnd : Int) - 2) frameEnd) = .ok crc) :
    checkBody s start frameEnd =
      .ok (checkCrc (slice s.buffer (start + 1 : Nat) ((frameEnd : Int) - 2)) crc)
        ⟨s.buffer, ⟨crc, frameEnd, .tuple uid⟩⟩ := by
  simp [checkBody, hu, hc]

/-- **The binary framer hands the decoder the escaped data without its function
code.** For every message whose built packet holds no `'}'` before its last
byte, one `process_incoming_packet` call on a fresh framer hands the decoder
`_preflight(encode())`, not `[function_code] ++ encode()`, calls back on the
result with the unit id as the tuple `(uid,)`, and leaves the framer fresh. -/
theorem processIncomingPacket_built {γ : Type} (decode : Bytes → Except Exc (Option Pdu))
    (callback : Pdu → γ → γ × Option Exc) (hcb : ∀ x e, (callback x e).2 = none)
    {m : Pdu} {p : Bytes} (hb : buildPacket m = .ok p) (hp : endByte ∉ p.dropLast) {D : Pdu}
    (hd : decode (preflight m.encode) = .ok (some D)) (e : γ) :
    ∃ u : Nat, m.unitId = .int u ∧
      processIncomingPacket binaryFramer decode callback p {} e =
        ⟨{}, (callback { D with unitId := .tuple u } e).1, [preflight m.encode], []⟩ := by
  obtain ⟨u, hu, hu', -, rfl⟩ := buildPacket_eq_ok hb
  refine ⟨u, hu, ?_⟩
  set body := bodyOf m u
  set c := crcBytes (computeCrc body)
  set p := startByte :: body ++ c ++ [endByte] with hp'
  have hdrop : p.dropLast = startByte :: body ++ c := List.dropLast_concat
  rw [hdrop] at hp
  have hlen : body.length = (preflight m.encode).length + 2 := rfl
  have hend : find [endByte] (p.drop 0) = some (body.length + 3) := by
    rw [List.drop_zero, hp', find_append_of_not_mem hp]
    simp [c]
  have hs₁ : slice p 1 2 = [UInt8.ofNat u] := by
    rw [show p = [startByte] ++ [UInt8.ofNat u] ++ (UInt8.ofNat m.functionCode :: preflight m.encode ++
      c ++ [endByte]) by simp [hp', body, bodyOf]]
    exact slice_middle _ _ _ rfl rfl
  have hs₂ : slice p ((body.length + 3 : Nat) - (2 : Int)) (body.length + 3 : Nat) = c := by
    rw [show p = (startByte :: body) ++ c ++ [endByte] from rfl]
    exact slice_middle _ _ _ (by simp; omega) (by simp [c]; omega)
  have hs₃ : slice p (0 + 1 : Nat) ((body.length + 3 : Nat) - (2 : Int)) = body := by
    rw [show p = [startByte] ++ body ++ (c ++ [endByte]) by simp [hp']]
    exact slice_middle _ _ _ rfl (by simp; omega)
  have hs₄ : slice p ((headerSize : Int) + 1) ((body.length + 3 : Nat) - (2 : Int)) =
      preflight m.encode := by
    rw [show p = [startByte, UInt8.ofNat u, UInt8.ofNat m.functionCode] ++ preflight m.encode ++
      (c ++ [endByte]) by simp [hp', body, bodyOf]]
    exact slice_middle _ _ _ (by simp [headerSize]) (by simp [hlen, headerSize]; omega)
  set s₁ : BinaryFramer := ⟨p, ⟨computeCrc body, body.length + 3, .tuple u⟩⟩
  have hready : binaryFramer.isFrameReady { buffer := p } = true := by
    simp [binaryFramer, headerSize, hp', c]
  have hcheck : binaryFramer.checkFrame { buffer := p } = .ok true s₁ := by
    have hu₁ : unpackB (slice p 1 2) = .ok u := by rw [hs₁]; simp [unpackB, toNat_ofNat_byte hu']
    have hc₁ : unpackH (slice p ((body.length + 3 : Nat) - (2 : Int)) (body.length + 3 : Nat)) =
        .ok (computeCrc body) := by
      rw [hs₂]; simp [c, crcBytes, unpackH, be16_packH (computeCrc_lt _)]
    show checkFrame ⟨p, {}⟩ = _
    rw [checkFrame_of_found (by simp [hp']) hend, List.drop_zero,
      @checkBody_of_ok ⟨p, {}⟩ 0 (body.length + 3) u (computeCrc body) hu₁ hc₁, hs₃]
    simp [checkCrc, s₁]
  have hframe : binaryFramer.getFrame s₁ = .ok (preflight m.encode) := by
    have hpos : ((body.length + 3 : Nat) : Int) - 2 > 0 := by omega
    simp only [binaryFramer, getFrame, s₁, if_pos hpos]
    rw [hs₄]
  have hadv : binaryFramer.advanceFrame s₁ = {} := by
    have : p.length ≤ body.length + 3 + 2 := by simp [hp', c]
    simp only [binaryFramer, advanceFrame, s₁, sliceFrom_natCast, List.drop_eq_nil_of_le this]
  have hcb' : callback (binaryFramer.populateResult s₁ D) e =
      ((callback { D with unitId := .tuple u } e).1, none) := by
    rw [← hcb { D with unitId := .tuple u } e]; rfl
  have hadd : binaryFramer.addToFrame {} p = { buffer := p } := rfl
  rw [processIncomingPacket, if_neg (by simp [hp']), hadd,
    frameLoop_frame hready hcheck hframe hd hcb', hadv, frameLoop_not_ready rfl]

end BinaryFramer

set_option maxRecDepth 4000 in
open BinaryFramer in
/-- The packet `7B 01 03 00 00 00 05 85 C9 7D`, which `build_packet`
writes for function code 3, unit id 1 and payload `00 00 00 05`, fed whole to a
fresh framer: the decoder is handed `00 00 00 05`, without the function code,
and the callback gets the unit id as the tuple `(1,)`. -/
theorem feed_binary_strips_function_code :
    buildPacket { functionCode := 3, unitId := .int 1, encode := [0, 0, 0, 5] } =
      .ok [0x7B, 1, 3, 0, 0, 0, 5, 0x85, 0xC9, 0x7D] ∧
    (feed binaryFramer (fun _ => .ok (some { functionCode := 3 })) (fun x l => (l ++ [x], none)) {} []
      [[0x7B, 1, 3, 0, 0, 0, 5, 0x85, 0xC9, 0x7D]]).decoded = [[0, 0, 0, 5]] ∧
    (feed binaryFramer (fun _ => .ok (some { functionCode := 3 })) (fun x l => (l ++ [x], none)) {} []
      [[0x7B, 1, 3, 0, 0, 0, 5, 0x85, 0xC9, 0x7D]]).env = [{ functionCode := 3, unitId := .tuple 1 }] := by
  have hb : buildPacket { functionCode := 3, unitId := .int 1, encode := [0, 0, 0, 5] } =
      .ok [0x7B, 1, 3, 0, 0, 0, 5, 0x85, 0xC9, 0x7D] := by decide
  obtain ⟨u, hu, h⟩ := processIncomingPacket_built (fun _ => .ok (some { functionCode := 3 }))
    (fun x (l : List Pdu) => (l ++ [x], none)) (fun _ _ => rfl) hb (by decide) rfl []
  cases hu
  simp [feed_cons, feed, h, hb, preflight, repeatBytes]

end Modbus
