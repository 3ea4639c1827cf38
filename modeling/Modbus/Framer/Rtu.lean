import Modbus.Framer.Stream

/-! # Modbus.Framer.Rtu — `ModbusRtuFramer`

An RTU frame is `[uid][function code][data][CRC]` with no length field and no
delimiter: the framer learns a frame's size from the PDU class the decoder looks
up for its function code (`calculateRtuFrameSize`). The framer

* reads `uid`, the function code and the size once two bytes are buffered
  (`populateHeader`), and accepts when the two bytes before `size` are the CRC of
  the bytes before them (`checkFrame`); an `IndexError` on the way reads as
  `False`;
* hands `buffer[1 : size - 2]` to the decoder (`getFrame`), copies `uid` into the
  result (`populateResult`), and drops `size` bytes (`advanceFrame`);
* writes the `uid`, the function code, the data and the CRC (`buildPacket`).

`rtu_reads` proves the framing facts of `Modbus.Framer.Stream` for packets whose
PDU class sizes them right (`SizeFits`), and `feed_rtu` is the resulting
transparency theorem. `checkFrame_rejects_corruption` says which single-byte
corruptions the CRC check catches: every one that leaves the function code and
the byte count alone. `feed_rtu_corrupted` says what comes of one it catches:
`check_frame()` answers `False` again on every later call, since the frame's
size and CRC are read from bytes that are already there, and the framer, which
has no start marker to resynchronise on, hands nothing more to the decoder.
-/

namespace Modbus

open Bytes

/-- The header dictionary of `ModbusRtuFramer`, as far as its methods read it:
`uid` and `len` (`lrc` and `crc` are written and never read). -/
structure RtuHeader where
  uid : Nat := 0
  len : Nat := 0
  deriving DecidableEq, Repr

/-- The state of a `ModbusRtuFramer`. -/
structure RtuFramer where
  buffer : Bytes := []
  header : RtuHeader := {}
  deriving DecidableEq, Repr

namespace RtuFramer

/-- `header_size`. -/
def headerSize : Nat := 1

/-- `populate_header()`: `uid` is written before `buffer[1]` is read, so it stays
written when that read raises. -/
def populateHeader (lookup : Nat → RtuFrameSize) (s : RtuFramer) :
    EStateM.Result Exc RtuFramer Unit :=
  match index s.buffer 0 with
  | .error e => .error e s
  | .ok uid =>
    let s₁ := { s with header.uid := uid.toNat }
    match index s.buffer 1 with
    | .error e => .error e s₁
    | .ok funcCode =>
      match calculateRtuFrameSize (lookup funcCode.toNat) s.buffer with
      | .error e => .error e s₁
      | .ok size => .ok () { s₁ with header.len := size }

/-- `crc = buffer[frame_size - 2:frame_size]; crc_val = (crc[0] << 8) + crc[1]`. -/
def crcValue (buffer : Bytes) (frameSize : Nat) : Except Exc Nat := do
  let crc := slice buffer ((frameSize : Int) - 2) frameSize
  let hi ← index crc 0
  let lo ← index crc 1
  return (hi.toNat <<< 8) + lo.toNat

/-- The `try` block of `check_frame()`. -/
def checkFrameTry (lookup : Nat → RtuFrameSize) (s : RtuFramer) :
    EStateM.Result Exc RtuFramer Bool :=
  match populateHeader lookup s with
  | .error e s₁ => .error e s₁
  | .ok _ s₁ =>
    let frameSize := s₁.header.len
    let data := slice s₁.buffer 0 ((frameSize : Int) - 2)
    match crcValue s₁.buffer frameSize with
    | .error e => .error e s₁
    | .ok crcVal => .ok (checkCrc data crcVal) s₁

/-- `check_frame()`: `IndexError` and `KeyError` read as `False`; any other
exception goes through. -/
def checkFrame (lookup : Nat → RtuFrameSize) (s : RtuFramer) :
    EStateM.Result Exc RtuFramer Bool :=
  match checkFrameTry lookup s with
  | .error e s₁ => if e = .indexError ∨ e = .keyError then .ok false s₁ else .error e s₁
  | .ok b s₁ => .ok b s₁

/-- `advance_frame()`: drop `len` bytes and reset the header. -/
def advanceFrame (s : RtuFramer) : RtuFramer :=
  { buffer := s.buffer.drop s.header.len, header := {} }

/-- `reset_frame()`: drop the whole buffer. -/
def resetFrame (_ : RtuFramer) : RtuFramer := {}

/-- `get_frame_size()`: `len`, or one more than is buffered while `len` is unknown. -/
def getFrameSize (s : RtuFramer) : Nat :=
  if s.header.len ≠ 0 then s.header.len else s.buffer.length + 1

/-- `get_frame()`: `buffer[1 : len - 2]`, or `''` when `len - 2 ≤ 0`. -/
def getFrame (s : RtuFramer) : Bytes :=
  let frameEnd : Int := (s.header.len : Int) - 2
  if frameEnd > 0 then slice s.buffer headerSize frameEnd else []

/-- `populate_result(result)`: copy `uid`. -/
def populateResult (s : RtuFramer) (result : Pdu) : Pdu :=
  { result with unitId := .int s.header.uid }

/-- `build_packet(message)`: `struct.pack('>BB', unit_id, function_code) + data`,
then the CRC with `struct.pack('>H', ...)`. -/
def buildPacket (m : Pdu) : Except Exc Bytes := do
  let data := m.encode
  let uid ← packUnit m.unitId
  let fc ← packB m.functionCode
  let packet := uid ++ fc ++ data
  let crc ← packH (computeCrc packet)
  return packet ++ crc

/-! ## What `check_frame` can do -/

theorem populateHeader_eq_ok {lookup : Nat → RtuFrameSize} {s s₁ : RtuFramer} {u : Unit} :
    populateHeader lookup s = .ok u s₁ ↔ ∃ uid funcCode size, index s.buffer 0 = .ok uid ∧
      index s.buffer 1 = .ok funcCode ∧
      calculateRtuFrameSize (lookup funcCode.toNat) s.buffer = .ok size ∧
      s₁ = ⟨s.buffer, ⟨uid.toNat, size⟩⟩ := by
  unfold populateHeader
  split <;> rename_i h₀
  · simp [h₀]
  · split <;> rename_i h₁
    · simp [h₀, h₁]
    · split <;> rename_i h₂ <;> simp [h₀, h₁, h₂, eq_comm]

/-- `check_frame()` asks the class lookup only about the function code it
finds at `buffer[1]`. -/
theorem checkFrame_congr {lookup lookup' : Nat → RtuFrameSize} {s : RtuFramer} {b : UInt8}
    (h1 : index s.buffer 1 = .ok b) (h : lookup b.toNat = lookup' b.toNat) :
    checkFrame lookup s = checkFrame lookup' s := by
  simp only [checkFrame, checkFrameTry, populateHeader, h1, h]

/-- The CRC bytes are read only when `2 ≤ frame_size ≤ len(buffer)`. -/
theorem crcValue_eq_ok {buffer : Bytes} {n v : Nat} (h : crcValue buffer n = .ok v) :
    2 ≤ n ∧ n ≤ buffer.length := by
  simp only [crcValue, bind_eq_ok] at h
  obtain ⟨_, -, _, h₁, -⟩ := h
  have h₂ : 1 < (slice buffer ((n : Int) - 2) n).length := by
    by_contra hc
    rw [index_eq_error (by omega)] at h₁
    cases h₁
  rw [length_slice] at h₂
  simp only [sliceBound] at h₂
  split_ifs at h₂ <;> omega

theorem crcValue_eq_error {buffer : Bytes} {n : Nat} {e : Exc} (h : crcValue buffer n = .error e) :
    e = .indexError := by
  simp only [crcValue, bind, Except.bind] at h
  split at h
  · cases h; exact index_error ‹_›
  · split at h
    · cases h; exact index_error ‹_›
    · cases h

theorem crcValue_of_lt {buffer : Bytes} {n : Nat} (h : buffer.length < n) :
    crcValue buffer n = .error .indexError := by
  cases hc : crcValue buffer n with
  | error e => rw [crcValue_eq_error hc]
  | ok v => exact absurd (crcValue_eq_ok hc).2 (by omega)

/-- The two bytes after `d` are read as the big-endian CRC value. -/
theorem crcValue_append (d rest : Bytes) (hi lo : UInt8) :
    crcValue (d ++ [hi, lo] ++ rest) (d.length + 2) = .ok (be16 hi lo) := by
  have hb : ((d.length + 2 : Nat) : Int) - 2 = (d.length : Nat) := by omega
  simp only [crcValue, hb, slice_natCast, Nat.add_sub_cancel_left, List.append_assoc,
    List.drop_left, List.take_append_of_le_length (show 2 ≤ [hi, lo].length by simp),
    List.take_of_length_le (show [hi, lo].length ≤ 2 by simp)]
  simp [index, bind, Except.bind, pure, Except.pure, be16, Nat.shiftLeft_eq]

theorem checkFrame_of_populate_error {lookup : Nat → RtuFrameSize} {s s₁ : RtuFramer}
    (h : populateHeader lookup s = .error .indexError s₁) :
    checkFrame lookup s = .ok false s₁ := by
  simp [checkFrame, checkFrameTry, h]

theorem checkFrame_of_crcValue_ok {lookup : Nat → RtuFrameSize} {s s₁ : RtuFramer} {u : Unit}
    {v : Nat} (h : populateHeader lookup s = .ok u s₁) (hc : crcValue s₁.buffer s₁.header.len = .ok v) :
    checkFrame lookup s = .ok (checkCrc (slice s₁.buffer 0 ((s₁.header.len : Int) - 2)) v) s₁ := by
  simp [checkFrame, checkFrameTry, h, hc]

theorem checkFrame_of_crcValue_error {lookup : Nat → RtuFrameSize} {s s₁ : RtuFramer} {u : Unit}
    {e : Exc} (h : populateHeader lookup s = .ok u s₁)
    (hc : crcValue s₁.buffer s₁.header.len = .error e) : checkFrame lookup s = .ok false s₁ := by
  simp [checkFrame, checkFrameTry, h, hc, crcValue_eq_error hc]

/-- A frame checks out only once its whole size is buffered; the buffer is kept. -/
theorem checkFrame_eq_true {lookup : Nat → RtuFrameSize} {s s₁ : RtuFramer}
    (h : checkFrame lookup s = .ok true s₁) :
    s₁.buffer = s.buffer ∧ 2 ≤ s₁.header.len ∧ s₁.header.len ≤ s.buffer.length := by
  cases hp : populateHeader lookup s with
  | error e s₂ =>
    simp only [checkFrame, checkFrameTry, hp] at h
    split_ifs at h
    simp at h
  | ok u s₂ =>
    obtain ⟨_, _, size, -, -, -, rfl⟩ := populateHeader_eq_ok.mp hp
    cases hc : crcValue s.buffer size with
    | error e => simp [checkFrame_of_crcValue_error hp hc] at h
    | ok v =>
      rw [checkFrame_of_crcValue_ok hp hc, EStateM.Result.ok.injEq] at h
      obtain ⟨-, rfl⟩ := h
      exact ⟨rfl, crcValue_eq_ok hc⟩

theorem advance_shrinks (lookup : Nat → RtuFrameSize) (s s₁ : RtuFramer)
    (h : checkFrame lookup s = .ok true s₁) :
    (advanceFrame s₁).buffer.length < s.buffer.length := by
  obtain ⟨hb, h₁, h₂⟩ := checkFrame_eq_true h
  simp only [advanceFrame, List.length_drop, hb]
  omega

end RtuFramer

open RtuFramer in
/-- `ModbusRtuFramer(decoder)`, for a decoder whose `lookup_pdu_class` gives the
size rule `lookup fc`. -/
def rtuFramer (lookup : Nat → RtuFrameSize) : Framer RtuFramer where
  buffer := RtuFramer.buffer
  headerSize := headerSize
  addToFrame s m := { s with buffer := s.buffer ++ m }
  isFrameReady s := decide (headerSize < s.buffer.length)
  checkFrame := checkFrame lookup
  getFrame s := .ok (getFrame s)
  populateResult := populateResult
  advanceFrame := advanceFrame
  resetFrame := resetFrame
  getFrameSize := getFrameSize
  buildPacket := buildPacket
  advance_shrinks := advance_shrinks lookup

@[simp] theorem rtuFramer_buffer (lookup : Nat → RtuFrameSize) (s : RtuFramer) :
    (rtuFramer lookup).buffer s = s.buffer := rfl

/-- A read into an RTU framer keeps the header; while `len` is unknown the frame
size is one past the buffer, which any non-empty read reaches. -/
theorem rtuFramer_grows (lookup : Nat → RtuFrameSize) : (rtuFramer lookup).Grows where
  buffer_add _ _ := rfl
  frameSize_add s c hc hlt := by
    simp only [rtuFramer, RtuFramer.getFrameSize] at hlt ⊢
    split_ifs at hlt ⊢
    · rfl
    · have := List.length_pos.mpr hc
      omega

/-! ## Size rules -/

/-- The size rule of a PDU class is right about the packet `p`: on any buffer
beginning with `p` it raises `IndexError` or returns `p`'s length. -/
def SizeFits (rule : RtuFrameSize) (p : Bytes) : Prop :=
  ∀ buffer, p <+: buffer → calculateRtuFrameSize rule buffer = .error .indexError ∨
    calculateRtuFrameSize rule buffer = .ok p.length

/-- A byte-count rule that fits reads its count inside the packet. -/
theorem SizeFits.byteCount {pos : Nat} {p : Bytes} (h : SizeFits (.byteCount pos) p) :
    ∃ hp : pos < p.length, p[pos].toNat + pos + 3 = p.length := by
  by_cases hp : pos < p.length
  · have := h p (List.prefix_refl p)
    simp only [calculateRtuFrameSize, index_eq_ok hp] at this
    exact ⟨hp, by simpa [Except.map] using this⟩
  · -- a count read past the packet could not depend on the packet only
    have := h (p ++ List.replicate (pos + 1 - p.length) 0) (List.prefix_append _ _)
    simp only [calculateRtuFrameSize] at this
    rw [index_eq_ok (by simp; omega)] at this
    simp [Except.map, List.getElem_append_right (Nat.le_of_not_lt hp)] at this
    omega

/-- On a buffer beginning with the packet, a rule that fits gives its length. -/
theorem SizeFits.append {rule : RtuFrameSize} {p : Bytes} (h : SizeFits rule p) (rest : Bytes) :
    calculateRtuFrameSize rule (p ++ rest) = .ok p.length := by
  cases rule with
  | fixed n => simpa [calculateRtuFrameSize] using h p (List.prefix_refl p)
  | byteCount pos =>
    obtain ⟨hp, hc⟩ := h.byteCount
    simp [calculateRtuFrameSize, index_append_left hp, index_eq_ok hp, Except.map, hc]
  | unset => simpa [calculateRtuFrameSize] using h p (List.prefix_refl p)

/-- On a beginning of the packet, a rule that fits raises `IndexError` or gives
the packet's length. -/
theorem SizeFits.of_prefix {rule : RtuFrameSize} {p r : Bytes} (h : SizeFits rule p)
    (hr : r <+: p) : calculateRtuFrameSize rule r = .error .indexError ∨
      calculateRtuFrameSize rule r = .ok p.length := by
  cases rule with
  | fixed n => simpa [calculateRtuFrameSize] using h p (List.prefix_refl p)
  | byteCount pos =>
    obtain ⟨hp, hc⟩ := h.byteCount
    by_cases hpr : pos < r.length
    · right
      have := index_of_prefix hr hpr
      rw [index_eq_ok hp, index_eq_ok hpr] at this
      simp [calculateRtuFrameSize, index_eq_ok hpr, Except.map, ← Except.ok.inj this, hc]
    · left
      simp [calculateRtuFrameSize, index_eq_error (Nat.le_of_not_lt hpr), Except.map]
  | unset => simpa [calculateRtuFrameSize] using h p (List.prefix_refl p)

namespace RtuFramer

/-! ## Built packets -/

/-- What `build_packet` writes for `m` with unit id `u`, before the CRC. -/
def packetOf (m : Pdu) (u : Nat) : Bytes :=
  UInt8.ofNat u :: UInt8.ofNat m.functionCode :: m.encode

/-- `build_packet` succeeds exactly on messages whose unit id and function code
fit a byte, and appends the CRC of what it wrote. -/
theorem buildPacket_eq_ok {m : Pdu} {p : Bytes} (h : buildPacket m = .ok p) :
    ∃ u : Nat, m.unitId = .int u ∧ u < 256 ∧ m.functionCode < 256 ∧
      p = packetOf m u ++ crcBytes (computeCrc (packetOf m u)) := by
  simp only [buildPacket, bind_eq_ok, pure, Except.pure, Except.ok.injEq] at h
  obtain ⟨_, hu, _, hf, _, hc, rfl⟩ := h
  obtain ⟨u, hu₁, hu₂, rfl⟩ := packUnit_eq_ok.mp hu
  obtain ⟨hf₁, rfl⟩ := packB_eq_ok.mp hf
  obtain ⟨-, rfl⟩ := packH_eq_ok.mp hc
  exact ⟨u, hu₁, hu₂, hf₁, rfl⟩

@[simp] theorem length_packetOf (m : Pdu) (u : Nat) :
    (packetOf m u).length = m.encode.length + 2 := rfl

/-- Once `len` is past the CRC, `get_frame()` is the buffer between the unit id
and the CRC. -/
theorem getFrame_of_len {s : RtuFramer} (h : 2 < s.header.len) :
    getFrame s = (s.buffer.take (s.header.len - 2)).drop 1 := by
  have he : (s.header.len : Int) - 2 = ((s.header.len - 2 : Nat) : Int) := by omega
  simp only [getFrame, he, headerSize, if_pos (show ((s.header.len - 2 : Nat) : Int) > 0 by omega),
    slice_natCast, List.drop_take]

/-- A packet `build_packet` wrote whose PDU class sizes it right. -/
def Good (lookup : Nat → RtuFrameSize) (p : Bytes) : Prop :=
  ∃ m, buildPacket m = .ok p ∧ SizeFits (lookup m.functionCode) p

/-- The bytes between the unit id and the CRC. -/
def frameOf (p : Bytes) : Bytes := (p.take (p.length - 2)).drop 1

/-- What `populate_result` copies into a result once the buffer starts with `p`. -/
def fillOf (p : Bytes) (result : Pdu) : Pdu :=
  populateResult { header := { uid := (p.headD 0).toNat } } result

end RtuFramer

open RtuFramer in
/-- The framing facts for built RTU packets. There is no noise: the framer has
no start marker to resynchronise on. -/
theorem rtu_reads (lookup : Nat → RtuFrameSize) :
    Reads (rtuFramer lookup) (· = []) (Good lookup) frameOf fillOf where
  junk_nil := rfl
  junk_append := by rintro a b rfl rfl; rfl
  junk_left _ _ h := (List.append_eq_nil.mp h).1
  junk_right _ _ h := (List.append_eq_nil.mp h).2
  good_ne_nil := by
    rintro p ⟨m, hm, -⟩ rfl
    obtain ⟨u, -, -, -, hp⟩ := buildPacket_eq_ok hm
    simp [packetOf] at hp
  buffer_add _ _ := rfl
  extract := by
    rintro s g p rest rfl ⟨m, hm, hfit⟩ hs
    have hsize := hfit.append rest
    obtain ⟨u, -, hu, hf, rfl⟩ := buildPacket_eq_ok hm
    change s.buffer = [] ++ (packetOf m u ++ crcBytes _) ++ rest at hs
    rw [List.nil_append] at hs
    set n := (packetOf m u).length + 2 with hn
    have hp : populateHeader lookup s = .ok () ⟨s.buffer, ⟨u, n⟩⟩ := by
      refine populateHeader_eq_ok.mpr ⟨UInt8.ofNat u, UInt8.ofNat m.functionCode, n, ?_, ?_, ?_, ?_⟩
      · simp [hs, packetOf]
      · simp [hs, packetOf]
      · rw [toNat_ofNat_byte hf, hs, hsize]; simp [hn]
      · rw [toNat_ofNat_byte hu]
    have hc : crcValue s.buffer n = .ok (computeCrc (packetOf m u)) := by
      rw [hs, hn, crcBytes, crcValue_append, be16_packH (computeCrc_lt _)]
    have hdata : slice s.buffer 0 ((n : Int) - 2) = packetOf m u := by
      rw [show (n : Int) - 2 = ((packetOf m u).length : Nat) by omega, hs, slice_zero,
        List.append_assoc, List.take_left]
    refine ⟨by simp [rtuFramer, headerSize, hs]; omega, ⟨s.buffer, ⟨u, n⟩⟩, ?_, ?_, ?_, ?_⟩
    · show checkFrame lookup s = _
      rw [checkFrame_of_crcValue_ok hp hc, hdata]
      simp [checkCrc]
    · show Except.ok (getFrame ⟨s.buffer, ⟨u, n⟩⟩) = _
      rw [getFrame_of_len (show 2 < n by simp [hn])]
      simp [frameOf, hs, hn, List.take_append_of_le_length]
    · funext r
      simp [rtuFramer, populateResult, fillOf, packetOf, toNat_ofNat_byte hu]
    · show (advanceFrame ⟨s.buffer, ⟨u, n⟩⟩).buffer = rest
      rw [advanceFrame, hs, hn]
      exact List.drop_left' (by simp)
  wait := by
    rintro s g r rfl hr hs hready
    change s.buffer = [] ++ r at hs
    rw [List.nil_append] at hs
    have hlen : 1 < r.length := by simpa [rtuFramer, headerSize, hs] using hready
    rcases hr with rfl | ⟨p, ⟨m, hm, hfit⟩, hpre, hlt⟩
    · simp at hlen
    have hsize := hfit.of_prefix hpre
    obtain ⟨u, -, -, hf, rfl⟩ := buildPacket_eq_ok hm
    have h₀ : index s.buffer 0 = .ok (UInt8.ofNat u) := by
      rw [hs, ← index_of_prefix hpre (by omega)]; simp [packetOf]
    have h₁ : index s.buffer 1 = .ok (UInt8.ofNat m.functionCode) := by
      rw [hs, ← index_of_prefix hpre hlen]; simp [packetOf]
    rw [← hs] at hsize
    rcases hsize with hc | hc
    · -- the size field is not buffered yet
      have hp : populateHeader lookup s =
          .error .indexError { s with header.uid := (UInt8.ofNat u).toNat } := by
        simp [populateHeader, h₀, h₁, toNat_ofNat_byte hf, hc]
      exact ⟨_, checkFrame_of_populate_error hp, .inl (by simpa using hs)⟩
    · -- the size is known, and the CRC is not buffered yet
      have hp : populateHeader lookup s = .ok () ⟨s.buffer, ⟨(UInt8.ofNat u).toNat, _⟩⟩ :=
        populateHeader_eq_ok.mpr ⟨_, _, _, h₀, h₁, by rw [toNat_ofNat_byte hf]; exact hc, rfl⟩
      exact ⟨_, checkFrame_of_crcValue_error hp (crcValue_of_lt (by rw [hs]; exact hlt)),
        .inl (by simpa using hs)⟩

open RtuFramer in
/-- **RTU framing is transparent over any chunking.** The packets `build_packet`
writes for `P₁ … Pₖ`, whose PDU classes size them right, cut into chunks in any
way and fed to a framer with an empty buffer, one `process_incoming_packet` call
a chunk, give the decoder `[Pᵢ.function_code] ++ Pᵢ.encode()` once each, in
order; the callback is handed each decoded result with `Pᵢ`'s unit id; nothing
is raised, and the buffer ends empty. -/
theorem feed_rtu {γ : Type} (lookup : Nat → RtuFrameSize)
    (decode : Bytes → Except Exc (Option Pdu)) (D : Bytes → Pdu)
    (callback : Pdu → γ → γ × Option Exc) (hcb : ∀ x e, (callback x e).2 = none)
    (Ps : List Pdu) (pkts : List Bytes) (hpk : Ps.map buildPacket = pkts.map .ok)
    (hfit : ∀ P ∈ Ps, ∀ p, buildPacket P = .ok p → SizeFits (lookup P.functionCode) p)
    (hdec : ∀ P ∈ Ps, decode (UInt8.ofNat P.functionCode :: P.encode) =
      .ok (some (D (UInt8.ofNat P.functionCode :: P.encode))))
    (cs : List Bytes) (hcs : cs.flatten = pkts.flatten) (s : RtuFramer) (hs : s.buffer = [])
    (e : γ) :
    (feed (rtuFramer lookup) decode callback s e cs).decoded =
      Ps.map (fun P => UInt8.ofNat P.functionCode :: P.encode) ∧
    (feed (rtuFramer lookup) decode callback s e cs).env =
      afterCallbacks callback (Ps.map (serialHanded D)) e ∧
    (feed (rtuFramer lookup) decode callback s e cs).raised = [] ∧
    (feed (rtuFramer lookup) decode callback s e cs).framer.buffer = [] := by
  have hframe : ∀ P p, buildPacket P = .ok p → frameOf p = UInt8.ofNat P.functionCode :: P.encode := by
    intro P p hb
    obtain ⟨u, -, -, -, rfl⟩ := buildPacket_eq_ok hb
    simp [frameOf, packetOf, List.take_append_of_le_length]
  have hps : ∀ q ∈ pkts, Good lookup q ∧ decode (frameOf q) = .ok (some (D (frameOf q))) := by
    intro q hq
    obtain ⟨P, hP, hb⟩ := exists_of_map_ok hpk hq
    exact ⟨⟨P, hb, hfit P hP q hb⟩, by rw [hframe P q hb]; exact hdec P hP⟩
  obtain ⟨h1, h2, h3, h4, -⟩ :=
    feed_reads (rtu_reads lookup) pkts hps [] rfl cs (by simpa using hcs) s hs e
      (quiet_of_forall (fun _ _ e => hcb _ e) e)
  refine ⟨by rw [h1]; exact map_eq_of_map_ok hpk hframe, ?_, h3, h4⟩
  rw [h2, envAfter, map_eq_of_map_ok hpk (g := serialHanded D)]
  intro P p hb
  obtain ⟨u, hu, hu', -, rfl⟩ := buildPacket_eq_ok hb
  rw [hframe P _ hb]
  simp [fillOf, populateResult, serialHanded, packetOf, hu, toNat_ofNat_byte hu']

set_option maxRecDepth 4000 in
/-- The `ReadCoils` RTU request `00 01 00 00 00 01 FC 1B`, whose class has the
fixed size 8, cut after three bytes: the callback is handed one message, with
unit id 0. -/
theorem feed_rtu_split_readCoils :
    (feed (rtuFramer fun _ => .fixed 8) (fun _ => .ok (some { functionCode := 1 }))
      (fun x l => (l ++ [x], none)) {} [] [[0, 1, 0], [0, 0, 1, 0xFC, 0x1B]]).env =
      [{ functionCode := 1, unitId := .int 0 }] :=
  (feed_rtu (fun _ => .fixed 8) (fun _ => .ok (some { functionCode := 1 }))
    (fun _ => { functionCode := 1 }) (fun x l => (l ++ [x], none)) (fun _ _ => rfl)
    [{ functionCode := 1, encode := [0, 0, 0, 1] }] [[0, 1, 0, 0, 0, 1, 0xFC, 0x1B]]
    (by decide)
    (fun P hP p hb => by
      obtain ⟨u, -, -, -, rfl⟩ := RtuFramer.buildPacket_eq_ok hb
      simp only [List.mem_singleton] at hP
      subst hP
      exact fun _ _ => .inr rfl)
    (by simp) _ (by decide) {} rfl []).2.1

/-! ## Corrupted packets

The CRC covers everything before it, so a packet with one byte replaced fails
the check whenever the CRC window stays where it was. Only the function code
and a byte count can move it: they choose the size rule and feed it. -/

namespace RtuFramer

/-- `check_frame` on a buffer holding exactly `d` and two more bytes, whose
size rule reaches at least their end: a size past the end raises `IndexError`,
and a size at the end compares the last two bytes with the CRC of `d`. -/
theorem checkFrame_of_crc_ne {lookup : Nat → RtuFrameSize} {d : Bytes} {hi lo : UInt8}
    (hrule : lookup ((d ++ [hi, lo]).getD 1 0).toNat ≠ .unset)
    (hsize : ∀ n, calculateRtuFrameSize (lookup ((d ++ [hi, lo]).getD 1 0).toNat) (d ++ [hi, lo]) =
      .ok n → d.length + 2 ≤ n)
    (hcrc : computeCrc d ≠ be16 hi lo) :
    ∃ s₁, checkFrame lookup ⟨d ++ [hi, lo], {}⟩ = .ok false s₁ := by
  set q := d ++ [hi, lo]
  have hq : q.length = d.length + 2 := by simp [q]
  have h₀ : index q 0 = .ok (q.getD 0 0) := by
    rw [index_eq_ok (by omega), List.getD_eq_getElem]
  have h₁ : index q 1 = .ok (q.getD 1 0) := by
    rw [index_eq_ok (by omega), List.getD_eq_getElem]
  cases hc : calculateRtuFrameSize (lookup (q.getD 1 0).toNat) q with
  | error e =>
    have hp : populateHeader lookup ⟨q, {}⟩ = .error .indexError ⟨q, ⟨(q.getD 0 0).toNat, 0⟩⟩ := by
      rw [← calculateRtuFrameSize_error hc hrule]
      simp only [populateHeader, h₀, h₁, hc]
    exact ⟨_, checkFrame_of_populate_error hp⟩
  | ok n =>
    have hp : populateHeader lookup ⟨q, {}⟩ = .ok () ⟨q, ⟨(q.getD 0 0).toNat, n⟩⟩ :=
      populateHeader_eq_ok.mpr ⟨_, _, _, h₀, h₁, hc, rfl⟩
    rcases Nat.lt_or_eq_of_le (hsize n hc) with hlt | rfl
    · exact ⟨_, checkFrame_of_crcValue_error hp (crcValue_of_lt (by simp only; omega))⟩
    · have hv : crcValue q (d.length + 2) = .ok (be16 hi lo) := by
        simpa [q] using crcValue_append d [] hi lo
      have hf : checkCrc (slice q 0 (((d.length + 2 : Nat) : Int) - 2)) (be16 hi lo) = false := by
        rw [show ((d.length + 2 : Nat) : Int) - 2 = (d.length : Nat) by omega, slice_zero, List.take_left]
        simpa [checkCrc] using hcrc
      rw [checkFrame_of_crcValue_ok hp hv]
      exact ⟨_, by dsimp only; rw [hf]⟩

/-- A built packet with one byte replaced fails the CRC check, as long as the
size rule read from it still reaches the packet's end: a replaced data byte
changes the CRC of the data (`computeCrc_set_ne`), and a replaced CRC byte
changes the value read. -/
theorem checkFrame_set_of_size {lookup : Nat → RtuFrameSize} {P : Pdu} {p : Bytes}
    (hb : buildPacket P = .ok p) {i : Nat} (hi : i < p.length) {y : UInt8} (hy : y ≠ p[i])
    (hrule : lookup ((p.set i y).getD 1 0).toNat ≠ .unset)
    (hsize : ∀ n, calculateRtuFrameSize (lookup ((p.set i y).getD 1 0).toNat) (p.set i y) = .ok n →
      p.length ≤ n) :
    ∃ s₁, checkFrame lookup ⟨p.set i y, {}⟩ = .ok false s₁ := by
  obtain ⟨u, -, -, -, rfl⟩ := buildPacket_eq_ok hb
  generalize packetOf P u = D at *
  have hc := computeCrc_lt D
  simp only [List.length_append, length_crcBytes] at hi hsize
  by_cases hiD : i < D.length
  · -- a data byte: the CRC of the data changes
    have hy' : y ≠ D[i] := by simpa [List.getElem_append_left hiD] using hy
    rw [List.set_append_left i y hiD] at hrule hsize ⊢
    exact checkFrame_of_crc_ne hrule (by simpa using hsize)
      (by rw [be16_packH hc]; exact computeCrc_set_ne hiD hy')
  · -- a CRC byte: the value read changes
    rw [List.set_append_right i y (by omega)] at hrule hsize ⊢
    have hj : i - D.length < 2 := by omega
    have hy' : y ≠ (crcBytes (computeCrc D))[i - D.length] := by
      simpa [List.getElem_append_right (Nat.le_of_not_lt hiD)] using hy
    rcases (show i - D.length = 0 ∨ i - D.length = 1 by omega) with hj | hj <;>
      simp only [hj, crcBytes, List.set_cons_zero, List.set_cons_succ, List.set_nil] at hrule hsize hy' ⊢ <;>
      refine checkFrame_of_crc_ne hrule hsize fun h => hy' ?_
    · exact (be16_inj ((be16_packH hc).trans h)).1.symm
    · exact (be16_inj ((be16_packH hc).trans h)).2.symm

/-- **Every single-byte corruption of a built packet outside its function code
and, for a byte-count class, its byte count fails `check_frame`.** The packet
`build_packet` wrote for `P`, whose class sizes it right, with the byte at `i`
replaced by a different value, is the whole buffer of a fresh framer:
`check_frame()` returns `False`. The size rule read from the corrupted packet
is `P`'s own and gives the packet's length, so the CRC window does not move. -/
theorem checkFrame_rejects_corruption (lookup : Nat → RtuFrameSize) (P : Pdu) (p : Bytes)
    (hb : buildPacket P = .ok p) (hfit : SizeFits (lookup P.functionCode) p) (i : Nat)
    (hi : i < p.length) (y : UInt8) (hy : y ≠ p[i]) (hfc : i ≠ 1)
    (hcount : ∀ pos, lookup P.functionCode = .byteCount pos → i ≠ pos) :
    ∃ s₁, checkFrame lookup ⟨p.set i y, {}⟩ = .ok false s₁ := by
  obtain ⟨u, -, -, hf, hp⟩ := buildPacket_eq_ok hb
  have h1 : (p.set i y).getD 1 0 = UInt8.ofNat P.functionCode := by
    rw [List.getD_eq_getElem?_getD, List.getElem?_set_ne hfc, hp]; simp [packetOf]
  have hrule : lookup ((p.set i y).getD 1 0).toNat = lookup P.functionCode := by
    rw [h1, toNat_ofNat_byte hf]
  have hsize : calculateRtuFrameSize (lookup P.functionCode) (p.set i y) = .ok p.length := by
    rw [calculateRtuFrameSize_set hcount]
    simpa using hfit.append []
  refine checkFrame_set_of_size hb hi hy (fun h => ?_) fun n hn => ?_
  · rw [hrule] at h
    simp [h, calculateRtuFrameSize] at hsize
  · rw [hrule, hsize] at hn
    exact (Except.ok.inj hn).le

set_option maxRecDepth 4000 in
/-- The `ReadCoils` request `00 01 00 00 00 01 FC 1B`, whose class has the fixed
size 8, with its address byte `00` replaced by `05`: rejected. -/
theorem checkFrame_rejects_address_corruption :
    ∃ s₁, checkFrame (fun _ => .fixed 8) ⟨[0, 1, 0, 0, 0, 1, 0xFC, 0x1B].set 3 5, {}⟩ = .ok false s₁ :=
  checkFrame_rejects_corruption (fun _ => .fixed 8) { functionCode := 1, encode := [0, 0, 0, 1] }
    [0, 1, 0, 0, 0, 1, 0xFC, 0x1B] (by decide) (fun _ _ => .inr rfl) 3 (by decide) 5 (by decide)
    (by decide) (fun _ h => by cases h)

end RtuFramer

/-! ## A failed check is final

`check_frame()` reads a frame's size, its CRC and its data off the front of the
buffer only, and on `False` the framer neither advances nor resets. Once the
first frame is all in and fails its CRC (`CrcFails`), every later call fails it
again, whatever arrives: an RTU stream has no start marker to find the next
frame by. -/

namespace RtuFramer

/-- The CRC bytes are there as soon as the frame is. -/
theorem crcValue_isOk {buffer : Bytes} {n : Nat} (h₂ : 2 ≤ n) (h : n ≤ buffer.length) :
    ∃ v, crcValue buffer n = .ok v := by
  have hl : (slice buffer ((n : Int) - 2) n).length = 2 := by
    rw [length_slice]
    simp only [sliceBound]
    split_ifs <;> omega
  simp only [crcValue, bind, Except.bind, index_eq_ok (show 0 < _ from hl ▸ Nat.two_pos),
    index_eq_ok (show 1 < _ from hl ▸ Nat.one_lt_two)]
  exact ⟨_, rfl⟩

/-- The CRC bytes of a frame that is all in do not move as bytes arrive. -/
theorem crcValue_append_right {buffer : Bytes} {n : Nat} (h₂ : 2 ≤ n) (h : n ≤ buffer.length)
    (more : Bytes) : crcValue (buffer ++ more) n = crcValue buffer n := by
  have hd : (n : Int) - 2 = ((n - 2 : Nat) : Int) := by omega
  simp only [crcValue, hd, slice_append_left _ _ _ _ h]

/-- The first frame of `b` is all in and fails its CRC: the size rule of the
function code in `b[1]` gives a size that `b` reaches, and the value of the two
bytes before it is not the CRC of the bytes before them. -/
def CrcFails (lookup : Nat → RtuFrameSize) (b : Bytes) : Prop :=
  ∃ fc n v, index b 1 = .ok fc ∧ calculateRtuFrameSize (lookup fc.toNat) b = .ok n ∧
    crcValue b n = .ok v ∧ checkCrc (slice b 0 ((n : Int) - 2)) v = false

variable {lookup : Nat → RtuFrameSize}

theorem CrcFails.append {b : Bytes} (h : CrcFails lookup b) (more : Bytes) :
    CrcFails lookup (b ++ more) := by
  obtain ⟨fc, n, v, h₁, hn, hv, hc⟩ := h
  obtain ⟨h₂, hle⟩ := crcValue_eq_ok hv
  have hd : (n : Int) - 2 = ((n - 2 : Nat) : Int) := by omega
  refine ⟨fc, n, v, by rw [index_append_left (by omega), h₁], calculateRtuFrameSize_append hn more,
    by rw [crcValue_append_right h₂ hle, hv], ?_⟩
  rw [hd, slice_zero] at hc ⊢
  rwa [List.take_append_of_le_length (by omega)]

/-- `check_frame()` on a buffer whose first frame fails its CRC returns `False`
and keeps the buffer. -/
theorem checkFrame_of_crcFails {s : RtuFramer} (h : CrcFails lookup s.buffer) :
    ∃ s₁, checkFrame lookup s = .ok false s₁ ∧ s₁.buffer = s.buffer := by
  obtain ⟨fc, n, v, h₁, hn, hv, hc⟩ := h
  have hlen := (crcValue_eq_ok hv).2
  have hp := (populateHeader_eq_ok (u := ())).mpr ⟨_, fc, n, index_eq_ok (show 0 < s.buffer.length by
    have := (crcValue_eq_ok hv).1; omega), h₁, hn, rfl⟩
  have hck := checkFrame_of_crcValue_ok hp hv
  dsimp only at hck
  rw [hc] at hck
  exact ⟨_, hck, rfl⟩

/-- A buffer whose first frame fails its CRC, read back from what `check_frame()`
did: a `False` on a frame whose size is reached is the CRC's. -/
theorem crcFails_of_checkFrame {b : Bytes} {h : RtuHeader} {fc : UInt8} {n : Nat} {s₁ : RtuFramer}
    (h₁ : index b 1 = .ok fc) (hn : calculateRtuFrameSize (lookup fc.toNat) b = .ok n) (h₂ : 2 ≤ n)
    (hle : n ≤ b.length) (hc : checkFrame lookup ⟨b, h⟩ = .ok false s₁) : CrcFails lookup b := by
  obtain ⟨v, hv⟩ := crcValue_isOk h₂ hle
  have hp := (populateHeader_eq_ok (s := ⟨b, h⟩) (u := ())).mpr
    ⟨_, fc, n, index_eq_ok (show 0 < b.length by omega), h₁, hn, rfl⟩
  rw [checkFrame_of_crcValue_ok hp hv] at hc
  exact ⟨fc, n, v, h₁, hn, hv, (EStateM.Result.ok.inj hc).1⟩

/-- One pass on a buffer whose first frame fails its CRC stops at once: it
decodes, raises and calls back nothing, and keeps the buffer. -/
theorem frameLoop_of_crcFails {γ : Type} (decode : Bytes → Except Exc (Option Pdu))
    (callback : Pdu → γ → γ × Option Exc) {s : RtuFramer} (h : CrcFails lookup s.buffer) (e : γ) :
    ∃ s₁, frameLoop (rtuFramer lookup) decode callback s e = ⟨s₁, e, [], []⟩ ∧ s₁.buffer = s.buffer := by
  have hready : (rtuFramer lookup).isFrameReady s = true := by
    obtain ⟨_, n, _, -, -, hv, -⟩ := h
    have := crcValue_eq_ok hv
    simp only [rtuFramer, headerSize, decide_eq_true_eq]
    omega
  obtain ⟨s₁, hc, hb⟩ := checkFrame_of_crcFails h
  exact ⟨s₁, frameLoop_check_false hready hc e, hb⟩

/-- `check_frame()` on a buffer that does not reach the size its rule gives,
or does not hold the size field yet, returns `False` and keeps the buffer. -/
theorem checkFrame_of_unfinished {s : RtuFramer} {fc : UInt8} {n : Nat}
    (h₁ : index s.buffer 1 = .ok fc)
    (hsize : calculateRtuFrameSize (lookup fc.toNat) s.buffer = .error .indexError ∨
      calculateRtuFrameSize (lookup fc.toNat) s.buffer = .ok n) (hlt : s.buffer.length < n) :
    ∃ s₁, checkFrame lookup s = .ok false s₁ ∧ s₁.buffer = s.buffer := by
  have h2 : 1 < s.buffer.length := by
    by_contra h; rw [index_eq_error (by omega)] at h₁; cases h₁
  have h₀ : index s.buffer 0 = .ok s.buffer[0] := index_eq_ok (by omega)
  rcases hsize with hc | hc
  · have hp : populateHeader lookup s = .error .indexError { s with header.uid := s.buffer[0].toNat } := by
      simp [populateHeader, h₀, h₁, hc]
    exact ⟨_, checkFrame_of_populate_error hp, rfl⟩
  · have hp := (populateHeader_eq_ok (u := ())).mpr ⟨_, _, _, h₀, h₁, hc, rfl⟩
    exact ⟨_, checkFrame_of_crcValue_error hp (crcValue_of_lt hlt), rfl⟩

section Corrupted

variable {P : Pdu} {p : Bytes} {i : Nat} {y : UInt8}

/-- A built packet with one byte outside its function code and byte count
replaced fails its CRC (`checkFrame_set_of_size`), with the size of the packet. -/
theorem crcFails_set (hb : buildPacket P = .ok p) (hfit : SizeFits (lookup P.functionCode) p)
    (hi : i < p.length) (hy : y ≠ p[i]) (hfc : i ≠ 1)
    (hcount : ∀ pos, lookup P.functionCode = .byteCount pos → i ≠ pos) :
    CrcFails lookup (p.set i y) := by
  obtain ⟨u, -, -, hf, hp⟩ := buildPacket_eq_ok hb
  have hlen : 4 ≤ p.length := by rw [hp]; simp [packetOf]
  have hfc' : (p.set i y).getD 1 0 = UInt8.ofNat P.functionCode := by
    rw [List.getD_eq_getElem?_getD, List.getElem?_set_ne hfc, hp]; simp [packetOf]
  have h₁ : index (p.set i y) 1 = .ok (UInt8.ofNat P.functionCode) := by
    rw [← hfc', index_eq_ok (by simp; omega), List.getD_eq_getElem]
  have hsize : calculateRtuFrameSize (lookup (UInt8.ofNat P.functionCode).toNat) (p.set i y) =
      .ok p.length := by
    rw [toNat_ofNat_byte hf, calculateRtuFrameSize_set hcount]
    simpa using hfit.append []
  obtain ⟨s₁, hc⟩ := @checkFrame_set_of_size lookup P p hb i hi y hy
    (fun h => by rw [hfc'] at h; rw [h] at hsize; cases hsize) (fun n hn => by
      rw [hfc', hsize] at hn; exact (Except.ok.inj hn).le)
  exact crcFails_of_checkFrame h₁ hsize (by omega) (by simp) hc

/-- One pass on what arrived of a corrupted packet and what follows it stops at
once and keeps the buffer: before the packet is all in, its size is not reached
or not yet known; after, its CRC fails. -/
theorem frameLoop_corrupted {γ : Type} (decode : Bytes → Except Exc (Option Pdu))
    (callback : Pdu → γ → γ × Option Exc) (hb : buildPacket P = .ok p)
    (hfit : SizeFits (lookup P.functionCode) p) (hi : i < p.length) (hy : y ≠ p[i]) (hfc : i ≠ 1)
    (hcount : ∀ pos, lookup P.functionCode = .byteCount pos → i ≠ pos) {rest : Bytes}
    {s : RtuFramer} (hs : s.buffer <+: p.set i y ++ rest) (e : γ) :
    ∃ s₁, frameLoop (rtuFramer lookup) decode callback s e = ⟨s₁, e, [], []⟩ ∧ s₁.buffer = s.buffer := by
  by_cases hlt : s.buffer.length < p.length
  · -- the packet is not all in
    cases hready : (rtuFramer lookup).isFrameReady s
    · exact ⟨s, frameLoop_not_ready hready e, rfl⟩
    have h2 : 1 < s.buffer.length := by simpa [rtuFramer, headerSize] using hready
    have hpre : s.buffer <+: p.set i y :=
      List.prefix_of_prefix_length_le hs (List.prefix_append _ rest) (by simp; omega)
    have htake : s.buffer = (p.take s.buffer.length).set i y := by
      rw [← List.set_take, ← List.prefix_iff_eq_take.mp hpre]
    obtain ⟨u, -, -, hf, hp⟩ := buildPacket_eq_ok hb
    have h₁ : index s.buffer 1 = .ok (UInt8.ofNat P.functionCode) := by
      rw [index_eq_ok h2]
      simp only [Except.ok.injEq]
      rw [List.getElem_of_eq htake, List.getElem_set_ne hfc, List.getElem_take]
      simp [hp, packetOf]
    have hsize := hfit.of_prefix (List.take_prefix s.buffer.length p)
    rw [← calculateRtuFrameSize_set hcount _ y, ← htake, ← toNat_ofNat_byte hf] at hsize
    obtain ⟨s₁, hc, hbuf⟩ := checkFrame_of_unfinished h₁ hsize hlt
    exact ⟨s₁, frameLoop_check_false (by simpa [rtuFramer, headerSize] using h2) hc e, hbuf⟩
  · -- the packet is all in, and fails its CRC
    obtain ⟨m, hm⟩ := List.prefix_of_prefix_length_le (List.prefix_append _ rest) hs (by simp; omega)
    exact frameLoop_of_crcFails decode callback
      (hm ▸ (crcFails_set hb hfit hi hy hfc hcount).append m) e

end Corrupted

end RtuFramer

open RtuFramer in
/-- **One corrupted byte stops an RTU framer for good.** A packet `build_packet`
wrote for `P`, whose class sizes it right, with one byte outside its function
code and byte count replaced by a different value, then anything at all, cut
into chunks in any way and fed to a framer with an empty buffer: nothing
reaches the decoder, nothing is raised, the callback is never called, and the
buffer ends holding every byte. `check_frame()` fails the corrupted frame, the
framer neither advances nor resets on `False`, and the verdict on a frame
depends on its own bytes only, so each later call fails it again. -/
theorem feed_rtu_corrupted {γ : Type} (lookup : Nat → RtuFrameSize)
    (decode : Bytes → Except Exc (Option Pdu)) (callback : Pdu → γ → γ × Option Exc) (P : Pdu)
    (p : Bytes) (hb : buildPacket P = .ok p) (hfit : SizeFits (lookup P.functionCode) p) (i : Nat)
    (hi : i < p.length) (y : UInt8) (hy : y ≠ p[i]) (hfc : i ≠ 1)
    (hcount : ∀ pos, lookup P.functionCode = .byteCount pos → i ≠ pos) (rest : Bytes)
    (cs : List Bytes) (hcs : cs.flatten = p.set i y ++ rest) (s : RtuFramer) (hs : s.buffer = [])
    (e : γ) :
    (feed (rtuFramer lookup) decode callback s e cs).decoded = [] ∧
    (feed (rtuFramer lookup) decode callback s e cs).raised = [] ∧
    (feed (rtuFramer lookup) decode callback s e cs).env = e ∧
    (feed (rtuFramer lookup) decode callback s e cs).framer.buffer = p.set i y ++ rest := by
  obtain ⟨h1, h2, h3, h4⟩ := @feed_stuck _ _ (rtuFramer lookup) decode callback (fun _ _ => rfl)
    (· <+: p.set i y ++ rest)
    (fun _ => False) (fun _ => False) (fun s e hs => by
      obtain ⟨s₁, h, hbuf⟩ := frameLoop_corrupted decode callback hb hfit hi hy hfc hcount hs e
      simp [h, hbuf]) cs s e (fun m hm => by simpa [hs, hcs] using hm)
  refine ⟨List.eq_nil_iff_forall_not_mem.mpr h3, List.eq_nil_iff_forall_not_mem.mpr h4, h1, ?_⟩
  simpa [hs, hcs] using h2

set_option maxRecDepth 4000 in
/-- The `ReadCoils` request `00 01 00 00 00 01 FC 1B` with its address byte `00`
replaced by `05`, then the same request intact, in two chunks: neither reaches the decoder,
and all sixteen bytes stay buffered. -/
theorem feed_rtu_corrupted_then_intact :
    (feed (rtuFramer fun _ => .fixed 8) (fun _ => .ok (some { functionCode := 1 }))
      (fun x l => (l ++ [x], none)) {} ([] : List Pdu)
      [[0, 1, 0, 5], [0, 1, 0xFC, 0x1B, 0, 1, 0, 0, 0, 1, 0xFC, 0x1B]]).decoded = [] :=
  (feed_rtu_corrupted (fun _ => .fixed 8) _ _ { functionCode := 1, encode := [0, 0, 0, 1] }
    [0, 1, 0, 0, 0, 1, 0xFC, 0x1B] (by decide) (fun _ _ => .inr rfl) 3 (by decide) 5 (by decide)
    (by decide) (fun _ h => by cases h) [0, 1, 0, 0, 0, 1, 0xFC, 0x1B] _ (by decide) {} rfl []).1

end Modbus
