import Modbus.Framer.Rtu

/-! # Modbus.Message.BitRead — `pymodbus3.bit_read_message`

The messages of function codes 1 (`ReadCoils`) and 2 (`ReadDiscreteInputs`). A
request carries a start address and a count, packed `>HH`; a response carries
bits, packed eight a byte behind a byte count (`pack_bitstring`). Each class
also tells the RTU framer how long its frames are: a request frame is always 8
bytes, a response frame gives its length in the byte at position 2.

* `ReadBitsResponseBase.decode_encode_padded` — decoding an encoded response
  gives its bits back, padded with zeros to whole bytes, and the byte count;
* `ReadBitsRequestBase.decode_encode` — a request's address and count come back;
* `sizeFits_request`, `sizeFits_response` — both size rules are right about the
  RTU packets `build_packet` writes, so `feed_rtu` applies to these messages;
* `ReadBitsRequestBase.execute` — the count is checked before the datastore,
  and a request that passes both checks is answered with the datastore's bits.
-/

namespace Modbus

open Bytes

/-- The attributes `ReadBitsRequestBase.__init__` sets. -/
structure ReadBitsRequestBase where
  address : Nat
  count : Nat
  deriving DecidableEq, Repr

/-- The attributes of a `ReadBitsResponseBase`: `byte_count`, `None` until
`decode` sets it, and the bits. -/
structure ReadBitsResponseBase where
  byteCount : Option Nat := none
  bits : List Bool := []
  deriving DecidableEq, Repr

/-- What `execute` reads of a slave context: `validate(fc, address, count)` and
`get_values(fc, address, count)`. -/
structure BitContext where
  validate : Nat → Nat → Nat → Bool
  getValues : Nat → Nat → Nat → List Bool

namespace ReadBitsResponseBase

/-- `_rtu_byte_count_pos = 2`. -/
def rtuFrameSize : RtuFrameSize := .byteCount 2

/-- `ReadBitsResponseBase(values)`: `byte_count` unset, `bits = values`. -/
def new (values : List Bool) : ReadBitsResponseBase := { bits := values }

/-- `encode()`: `struct.pack('>B', len(result)) + result`, where
`result = pack_bitstring(bits)`. -/
def encode (r : ReadBitsResponseBase) : Except Exc Bytes := do
  let result := packBitstring r.bits
  let packet := (← packB result.length) ++ result
  return packet

/-- `decode(data)`: `byte_count = data[0]`, `bits = unpack_bitstring(data[1:])`. -/
def decode (r : ReadBitsResponseBase) (data : Bytes) : Except Exc ReadBitsResponseBase := do
  let byteCount ← index data 0
  return { r with byteCount := some byteCount.toNat, bits := unpackBitstring (sliceFrom data 1) }

/-- `encode()` succeeds exactly while the packed bits fit a byte count, and
writes the count and the packed bits. -/
theorem encode_eq_ok {r : ReadBitsResponseBase} {data : Bytes} :
    r.encode = .ok data ↔ (r.bits.length + 7) / 8 < 256 ∧
      data = UInt8.ofNat ((r.bits.length + 7) / 8) :: packBitstring r.bits := by
  simp only [encode, bind_eq_ok, pure, Except.pure, Except.ok.injEq, packB_eq_ok,
    length_packBitstring]
  constructor
  · rintro ⟨_, ⟨h, rfl⟩, rfl⟩
    exact ⟨h, rfl⟩
  · rintro ⟨h, rfl⟩
    exact ⟨_, ⟨h, rfl⟩, rfl⟩

theorem decode_cons (r : ReadBitsResponseBase) (b : UInt8) (rest : Bytes) :
    r.decode (b :: rest) = .ok ⟨some b.toNat, unpackBitstring rest⟩ := by
  simp [decode, bind, Except.bind, pure, Except.pure, sliceFrom, sliceBound]

/-- **A response's bits survive encoding, padded with zeros to whole bytes.**
For at most 2040 bits, `ReadBitsResponseBase(bits).encode()` succeeds, and
`decode` of what it wrote sets `byte_count` to the number of bytes, `⌈|bits| / 8⌉`,
and `bits` to the bits followed by `(8 - |bits| mod 8) mod 8` zeros. -/
theorem decode_encode_padded (bits : List Bool) (h : bits.length ≤ 2040) (r : ReadBitsResponseBase) :
    ∃ data, (new bits).encode = .ok data ∧
      r.decode data = .ok ⟨some ((bits.length + 7) / 8),
        bits ++ List.replicate ((8 - bits.length % 8) % 8) false⟩ := by
  refine ⟨_, encode_eq_ok.mpr ⟨by simp only [new]; omega, rfl⟩, ?_⟩
  rw [decode_cons, toNat_ofNat_byte (by simp only [new]; omega)]
  simp only [new, unpackBitstring_packBitstring]

/-- Ten coils `1 0 1 1 0 0 0 0 1 1`: two bytes, the second padded with six zeros. -/
theorem decode_encode_ten_coils :
    [true, false, true, true, false, false, false, false, true, true].length ≤ 2040 ∧
    ∃ data, (new [true, false, true, true, false, false, false, false, true, true]).encode =
        .ok data ∧
      ({} : ReadBitsResponseBase).decode data = .ok ⟨some 2,
        [true, false, true, true, false, false, false, false, true, true] ++
          List.replicate 6 false⟩ :=
  ⟨by decide, decode_encode_padded _ (by decide) {}⟩

end ReadBitsResponseBase

namespace ReadBitsRequestBase

/-- `_rtu_frame_size = 8`. -/
def rtuFrameSize : RtuFrameSize := .fixed 8

/-- `encode()`: `struct.pack('>HH', address, count)`. -/
def encode (r : ReadBitsRequestBase) : Except Exc Bytes := do
  return (← packH r.address) ++ (← packH r.count)

/-- `decode(data)`: `address, count = struct.unpack('>HH', data)`, which needs
exactly four bytes. -/
def decode (r : ReadBitsRequestBase) (data : Bytes) : Except Exc ReadBitsRequestBase :=
  match data with
  | [a₀, a₁, c₀, c₁] => .ok { r with address := be16 a₀ a₁, count := be16 c₀ c₁ }
  | _ => .error .structError

theorem encode_eq_ok {r : ReadBitsRequestBase} {data : Bytes} :
    r.encode = .ok data ↔ r.address < 65536 ∧ r.count < 65536 ∧
      data = [UInt8.ofNat (r.address / 256), UInt8.ofNat (r.address % 256),
              UInt8.ofNat (r.count / 256), UInt8.ofNat (r.count % 256)] := by
  simp only [encode, bind_eq_ok, pure, Except.pure, Except.ok.injEq, packH_eq_ok]
  constructor
  · rintro ⟨_, ⟨ha, rfl⟩, _, ⟨hc, rfl⟩, rfl⟩
    exact ⟨ha, hc, rfl⟩
  · rintro ⟨ha, hc, rfl⟩
    exact ⟨_, ⟨ha, rfl⟩, _, ⟨hc, rfl⟩, rfl⟩

/-- A request's address and count survive encoding. -/
theorem decode_encode {r : ReadBitsRequestBase} (ha : r.address < 65536) (hc : r.count < 65536)
    (r' : ReadBitsRequestBase) : ∃ data, r.encode = .ok data ∧ r'.decode data = .ok r := by
  refine ⟨_, encode_eq_ok.mpr ⟨ha, hc, rfl⟩, ?_⟩
  simp [decode, be16_packH ha, be16_packH hc]

/-- `execute(context)` of the request class with function code `functionCode`,
answered by the response class of the same code: the count must lie in
`1 .. 0x7d0`, then the range must validate; only then are the values read. -/
def executeFor (functionCode : Nat) (r : ReadBitsRequestBase) (context : BitContext) :
    Pdu ⊕ ReadBitsResponseBase :=
  if ¬(1 ≤ r.count ∧ r.count ≤ 0x7d0) then .inl (exceptionResponse functionCode illegalValue)
  else if ¬context.validate functionCode r.address r.count then
    .inl (exceptionResponse functionCode illegalAddress)
  else .inr (ReadBitsResponseBase.new (context.getValues functionCode r.address r.count))

/-- `ReadCoilsRequest.execute`. -/
def ReadCoilsRequest.execute : ReadBitsRequestBase → BitContext → Pdu ⊕ ReadBitsResponseBase :=
  executeFor 1

/-- `ReadDiscreteInputsRequest.execute`. -/
def ReadDiscreteInputsRequest.execute : ReadBitsRequestBase → BitContext → Pdu ⊕ ReadBitsResponseBase :=
  executeFor 2

end ReadBitsRequestBase

/-- Scenario S5: `ReadCoils` with count `0x801` is answered with
`ExceptionResponse(0x81, IllegalValue)` before the datastore is asked. -/
example : ReadBitsRequestBase.ReadCoilsRequest.execute ⟨0, 0x801⟩ ⟨fun _ _ _ => true, fun _ _ _ => []⟩ =
    .inl { functionCode := 0x81, encode := [3] } := by decide

namespace ReadBitsRequestBase

/-- **A bit read request that passes its checks is answered with bits that
survive the wire.** For a count in `1 .. 0x7d0` that the datastore validates,
and a datastore that returns `count` values, the response encodes, and
decoding the encoding gives a byte count of `⌈count / 8⌉` and the values padded
with zeros to whole bytes. -/
theorem executeFor_response_decodes (functionCode : Nat) (r : ReadBitsRequestBase)
    (context : BitContext) (hcount : 1 ≤ r.count ∧ r.count ≤ 0x7d0)
    (hvalid : context.validate functionCode r.address r.count = true)
    (hvalues : (context.getValues functionCode r.address r.count).length = r.count)
    (r' : ReadBitsResponseBase) :
    ∃ data, executeFor functionCode r context =
        .inr (ReadBitsResponseBase.new (context.getValues functionCode r.address r.count)) ∧
      (ReadBitsResponseBase.new (context.getValues functionCode r.address r.count)).encode = .ok data ∧
      r'.decode data = .ok ⟨some ((r.count + 7) / 8),
        context.getValues functionCode r.address r.count ++
          List.replicate ((8 - r.count % 8) % 8) false⟩ := by
  have hle : (context.getValues functionCode r.address r.count).length ≤ 2040 := by omega
  refine ⟨_, by simp [executeFor, hcount, hvalid], ReadBitsResponseBase.encode_eq_ok.mpr
    ⟨by simp only [ReadBitsResponseBase.new]; omega, rfl⟩, ?_⟩
  rw [ReadBitsResponseBase.decode_cons, toNat_ofNat_byte (by simp only [ReadBitsResponseBase.new]; omega)]
  simp only [ReadBitsResponseBase.new, unpackBitstring_packBitstring, hvalues]

/-- Three coils read from a datastore holding `1 1 0` there. -/
theorem executeFor_three_coils :
    (1 ≤ 3 ∧ 3 ≤ 0x7d0) ∧ (fun _ _ _ => true : Nat → Nat → Nat → Bool) 1 0 3 = true ∧
    [true, true, false].length = 3 ∧
    ∃ data, executeFor 1 ⟨0, 3⟩ ⟨fun _ _ _ => true, fun _ _ _ => [true, true, false]⟩ =
        .inr (ReadBitsResponseBase.new [true, true, false]) ∧
      (ReadBitsResponseBase.new [true, true, false]).encode = .ok data ∧
      ({} : ReadBitsResponseBase).decode data =
        .ok ⟨some 1, [true, true, false] ++ List.replicate 5 false⟩ :=
  ⟨by decide, rfl, rfl,
    executeFor_response_decodes 1 ⟨0, 3⟩ ⟨fun _ _ _ => true, fun _ _ _ => [true, true, false]⟩
      (by decide) rfl rfl {}⟩

end ReadBitsRequestBase

/-! ## RTU frame sizes -/

/-- The fixed size 8 is right about every RTU packet `build_packet` writes for an
encoded request: unit id, function code, four bytes and the CRC. -/
theorem sizeFits_request {P : Pdu} {p : Bytes} {r : ReadBitsRequestBase}
    (henc : r.encode = .ok P.encode) (hb : RtuFramer.buildPacket P = .ok p) :
    SizeFits ReadBitsRequestBase.rtuFrameSize p := by
  obtain ⟨-, -, he⟩ := ReadBitsRequestBase.encode_eq_ok.mp henc
  obtain ⟨u, -, -, -, rfl⟩ := RtuFramer.buildPacket_eq_ok hb
  intro buffer _
  right
  simp [calculateRtuFrameSize, ReadBitsRequestBase.rtuFrameSize, RtuFramer.packetOf, he]

/-- The byte-count rule is right about every RTU packet `build_packet` writes
for an encoded response: the count at position 2 is followed by that many bytes
and the CRC. -/
theorem sizeFits_response {P : Pdu} {p : Bytes} {bits : List Bool}
    (henc : (ReadBitsResponseBase.new bits).encode = .ok P.encode)
    (hb : RtuFramer.buildPacket P = .ok p) : SizeFits ReadBitsResponseBase.rtuFrameSize p := by
  obtain ⟨hlt, he⟩ := ReadBitsResponseBase.encode_eq_ok.mp henc
  obtain ⟨u, -, -, -, rfl⟩ := RtuFramer.buildPacket_eq_ok hb
  intro buffer hpre
  right
  have h2 : index buffer 2 = .ok (UInt8.ofNat ((bits.length + 7) / 8)) := by
    have hi := index_of_prefix hpre (i := 2) (by simp [RtuFramer.packetOf, he])
    rw [hi]
    simp [RtuFramer.packetOf, he, ReadBitsResponseBase.new]
  simp only [ReadBitsResponseBase.new] at hlt
  simp [calculateRtuFrameSize, ReadBitsResponseBase.rtuFrameSize, h2, Except.map,
    toNat_ofNat_byte hlt, RtuFramer.packetOf, he, ReadBitsResponseBase.new]

end Modbus
