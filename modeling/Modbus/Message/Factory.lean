import Modbus.Message.BitRead

/-! # Modbus.Message.Factory — `ServerDecoder` and `ClientDecoder`

A decoder turns a frame, a function code and a payload, into a message: it
looks the function code up in a dictionary of message classes built once from
its table (`buildLookup`), creates an instance, and lets it decode the payload.

* the server's decoder answers a function code it does not know with an
  `IllegalFunctionRequest`, which executes to an `IllegalFunction` response;
* the client's decoder takes a function code above `0x80` for an exception
  response, and raises `ModbusException` on one it does not know;
* `decode` catches `ModbusException` only, and returns `None` for it:
  `IndexError` on an empty frame and `struct.error` from a payload of the
  wrong length go through to the framer.

`lookup_pdu_class` gives the RTU framer the size rule of a function code's
class, and `ExceptionResponse`'s for a code the table does not hold.

The message classes other than those of `bit_read_message.py` are not among the
sources, and neither is `pdu.py`. A table is a list of classes (`PduClass`),
each given by its function code, its RTU size rule and what decoding a payload
makes of it; `ExceptionResponse` and `IllegalFunctionRequest` are modelled from
the specification. No class of the sources has a `sub_function_code`, and the
step of `_helper` that retypes an instance by it is left out.

* `ClientDecoder.decode_exceptionResponse` — the client decoder reads back
  every exception response except those to function codes 0 and `0x80`, whose
  code `0x80` is not above `0x80`: for those `decode` returns `None`;
* `checkFrame_accepts_function_code_corruption`,
  `checkFrame_accepts_byte_count_corruption` — an RTU packet whose function
  code or byte count was corrupted can pass the CRC check: the size rule then
  read puts the CRC window elsewhere;
* `ServerDecoder.decode_malformed` — a bit read request whose payload is not
  four bytes makes `decode` raise `struct.error`;
* `ServerDecoder.decode_readBits`, `ClientDecoder.decode_readBits` — each
  decoder reads back the frame of a bit read message that `encode()` wrote.
-/

namespace Modbus

open Bytes

/-- A message class of a decoder table: its `function_code`, its RTU size rule,
and `cls()` followed by `decode(data)`: the message, as the framers and
protocols see it, or what `decode` raises. -/
structure PduClass where
  functionCode : Nat
  rtuFrameSize : RtuFrameSize
  decode : Bytes → Except Exc Pdu

/-- The dictionary `__init__` builds, `self.__lookup[f.function_code] = f` for
each class of the table in order: a later class of a function code wins. -/
def buildLookup (table : List PduClass) : Nat → Option PduClass :=
  table.foldl (fun lookup f fc => if fc = f.functionCode then some f else lookup fc) fun _ => none

/-- Whether `except ModbusException` catches an exception of the model. -/
def Exc.isModbusException : Exc → Bool
  | .ioException _ | .connectionException _ => true
  | _ => false

/-! ## The classes of `pdu.py` and `bit_read_message.py` -/

/-- Modelled from the spec: `ExceptionResponse(function_code)` followed by
`decode(data)`, which reads `exception_code = data[0]`. -/
def ExceptionResponse.decode (functionCode : Nat) (data : Bytes) : Except Exc Pdu := do
  let code ← index data 0
  return exceptionResponse functionCode code.toNat

/-- Modelled from the spec: `ExceptionResponse._rtu_frame_size = 5`, the unit id,
the function code, the exception code and the CRC (`test_rtu_decode_exception`). -/
def ExceptionResponse.rtuFrameSize : RtuFrameSize := .fixed 5

/-- Modelled from the spec: `IllegalFunctionRequest(function_code)`, whose
`decode(data)` reads nothing. -/
def IllegalFunctionRequest.new (functionCode : Nat) : Pdu := { functionCode := functionCode }

/-- Modelled from the spec: `IllegalFunctionRequest.execute(context)`, the
`IllegalFunction` exception response to its function code. -/
def IllegalFunctionRequest.execute (request : Pdu) : Pdu :=
  exceptionResponse request.functionCode illegalFunction

/-- A bit read request as the framers see it: its function code and what
`encode()` writes. -/
def ReadBitsRequestBase.toPdu (functionCode : Nat) (r : ReadBitsRequestBase) : Pdu :=
  { functionCode := functionCode,
    encode := [UInt8.ofNat (r.address / 256), UInt8.ofNat (r.address % 256),
               UInt8.ofNat (r.count / 256), UInt8.ofNat (r.count % 256)] }

/-- A bit read response as the framers see it: its function code and the byte
count and packed bits `encode()` writes (`ReadBitsResponseBase.encode_eq_ok`). -/
def ReadBitsResponseBase.toPdu (functionCode : Nat) (r : ReadBitsResponseBase) : Pdu :=
  { functionCode := functionCode,
    encode := UInt8.ofNat ((r.bits.length + 7) / 8) :: packBitstring r.bits }

/-- The request class of a bit read with function code `functionCode`: created
with no address and count, both of which `decode` sets. -/
def ReadBitsRequestBase.cls (functionCode : Nat) : PduClass where
  functionCode := functionCode
  rtuFrameSize := ReadBitsRequestBase.rtuFrameSize
  decode data := (ReadBitsRequestBase.decode ⟨0, 0⟩ data).map (toPdu functionCode)

/-- The response class of a bit read with function code `functionCode`. -/
def ReadBitsResponseBase.cls (functionCode : Nat) : PduClass where
  functionCode := functionCode
  rtuFrameSize := ReadBitsResponseBase.rtuFrameSize
  decode data := (ReadBitsResponseBase.decode {} data).map (toPdu functionCode)

/-- `ReadCoilsRequest`. -/
def ReadCoilsRequest.cls : PduClass := ReadBitsRequestBase.cls 1

/-- `ReadDiscreteInputsRequest`. -/
def ReadDiscreteInputsRequest.cls : PduClass := ReadBitsRequestBase.cls 2

/-- `ReadCoilsResponse`. -/
def ReadCoilsResponse.cls : PduClass := ReadBitsResponseBase.cls 1

/-- `ReadDiscreteInputsResponse`. -/
def ReadDiscreteInputsResponse.cls : PduClass := ReadBitsResponseBase.cls 2

/-! ## The decoders -/

/-- A `ServerDecoder`, by the dictionary its `__init__` builds. -/
structure ServerDecoder where
  lookup : Nat → Option PduClass

/-- A `ClientDecoder`, by the dictionary its `__init__` builds. -/
structure ClientDecoder where
  lookup : Nat → Option PduClass

/-- The function codes of the request classes of `ServerDecoder.__function_table`,
in its order, from `ReadHoldingRegistersRequest` (3) to
`ReadDeviceInformationRequest` (43). Only the bit read classes are among the
sources; the codes of the others are those the specification lists. -/
def ServerDecoder.functionCodes : List Nat :=
  [3, 2, 4, 1, 15, 16, 6, 5, 23, 8, 7, 11, 12, 17, 20, 21, 22, 24, 43]

/-- `ServerDecoder()` over the request classes of its `__function_table`. -/
def ServerDecoder.new (functionTable : List PduClass) : ServerDecoder := ⟨buildLookup functionTable⟩

/-- `ClientDecoder()` over the response classes of its `__function_table`. -/
def ClientDecoder.new (functionTable : List PduClass) : ClientDecoder := ⟨buildLookup functionTable⟩

/-- `lookup_pdu_class(function_code)` of either decoder, by the size rule of
the class: `ExceptionResponse` for a code the table does not hold. -/
def lookupPduClass (lookup : Nat → Option PduClass) (functionCode : Nat) : RtuFrameSize :=
  match lookup functionCode with
  | some cls => cls.rtuFrameSize
  | none => ExceptionResponse.rtuFrameSize

/-- `ServerDecoder._helper(data)`: the class of `data[0]`, or
`IllegalFunctionRequest(data[0])`, decodes `data[1:]`. -/
def ServerDecoder.helper (d : ServerDecoder) (data : Bytes) : Except Exc Pdu := do
  let functionCode ← index data 0
  match d.lookup functionCode.toNat with
  | some cls => cls.decode (sliceFrom data 1)
  | none => return IllegalFunctionRequest.new functionCode.toNat

/-- `ServerDecoder.decode(message)`: `_helper`, with a `ModbusException`
turned into `None`. -/
def ServerDecoder.decode (d : ServerDecoder) (message : Bytes) : Except Exc (Option Pdu) :=
  match d.helper message with
  | .ok request => .ok (some request)
  | .error e => if e.isModbusException then .ok none else .error e

/-- `ClientDecoder._helper(data)`: a code above `0x80` is an
`ExceptionResponse` of the code without its high bit, a code in the table is
its class, and any other raises `ModbusException('Unknown response ...')`
(`.inl`); the message then decodes `data[1:]`. -/
def ClientDecoder.helper (d : ClientDecoder) (data : Bytes) : Except (String ⊕ Exc) Pdu := do
  let functionCode ← (index data 0).mapError .inr
  let fc := functionCode.toNat
  if fc > 0x80 then (ExceptionResponse.decode (fc &&& 0x7f) (sliceFrom data 1)).mapError .inr
  else
    match d.lookup fc with
    | some cls => (cls.decode (sliceFrom data 1)).mapError .inr
    | none => throw (.inl ("Unknown response " ++ toString fc))

/-- `ClientDecoder.decode(message)`: `_helper`, with a `ModbusException`
turned into `None`. -/
def ClientDecoder.decode (d : ClientDecoder) (message : Bytes) : Except Exc (Option Pdu) :=
  match d.helper message with
  | .ok response => .ok (some response)
  | .error (.inl _) => .ok none
  | .error (.inr e) => if e.isModbusException then .ok none else .error e

example : (ServerDecoder.new [ReadCoilsRequest.cls, ReadDiscreteInputsRequest.cls]).decode
    [1, 0, 0x13, 0, 0x25] = .ok (some { functionCode := 1, encode := [0, 0x13, 0, 0x25] }) := by
  decide

example : (ClientDecoder.new [ReadCoilsResponse.cls]).decode [0x81, 2] =
    .ok (some (exceptionResponse 1 illegalAddress)) := by decide

/-! ## The dictionary -/

theorem buildLookup_eq_none {table : List PduClass} {fc : Nat}
    (h : ∀ f ∈ table, f.functionCode ≠ fc) : buildLookup table fc = none := by
  suffices ∀ (init : Nat → Option PduClass), init fc = none →
      table.foldl (fun lookup f fc => if fc = f.functionCode then some f else lookup fc) init fc = none from
    this _ rfl
  induction table with
  | nil => exact fun _ h => h
  | cons f table ih =>
    intro init hinit
    refine ih (fun g hg => h g (List.mem_cons_of_mem f hg)) _ ?_
    simp [hinit, Ne.symm (h f (List.mem_cons_self f table))]

set_option maxRecDepth 4000 in
/-- **A corrupted function code can pass the RTU check.** `build_packet` writes
`00 01 00 40 00 08 3D C9` for the `ReadCoils` request of unit 0 for eight coils
from address 64, a packet its class's fixed size 8 sizes right. With its
function code `01` replaced by `40`, which no class of the server's table holds,
`lookup_pdu_class` gives `ExceptionResponse`'s fixed size 5, and the frame
`00 40 00 40 00` ends in the CRC of `00 40 00`: `check_frame()` returns `True`,
over every table of the server's function codes. -/
theorem checkFrame_accepts_function_code_corruption :
    ReadBitsRequestBase.encode ⟨0x40, 8⟩ = .ok [0, 0x40, 0, 8] ∧
    RtuFramer.buildPacket { functionCode := 1, encode := [0, 0x40, 0, 8] } =
      .ok [0, 1, 0, 0x40, 0, 8, 0x3D, 0xC9] ∧
    SizeFits ReadCoilsRequest.cls.rtuFrameSize [0, 1, 0, 0x40, 0, 8, 0x3D, 0xC9] ∧
    ∀ table : List PduClass, (∀ f ∈ table, f.functionCode ∈ ServerDecoder.functionCodes) →
      ∃ s₁, RtuFramer.checkFrame (lookupPduClass (ServerDecoder.new table).lookup)
        ⟨[0, 1, 0, 0x40, 0, 8, 0x3D, 0xC9].set 1 0x40, {}⟩ = .ok true s₁ := by
  have henc : ReadBitsRequestBase.encode ⟨0x40, 8⟩ = .ok [0, 0x40, 0, 8] := by decide
  have hb : RtuFramer.buildPacket { functionCode := 1, encode := [0, 0x40, 0, 8] } =
      .ok [0, 1, 0, 0x40, 0, 8, 0x3D, 0xC9] := by decide
  refine ⟨henc, hb, sizeFits_request henc hb, fun table ht => ?_⟩
  have hnone : (ServerDecoder.new table).lookup 0x40 = none :=
    buildLookup_eq_none fun f hf he => absurd (he ▸ ht f hf) (by decide)
  have hrule : lookupPduClass (ServerDecoder.new table).lookup (UInt8.toNat 0x40) =
      (fun _ => ExceptionResponse.rtuFrameSize) (UInt8.toNat 0x40) := by
    rw [show UInt8.toNat 0x40 = 0x40 from rfl]
    simp [lookupPduClass, hnone]
  rw [@RtuFramer.checkFrame_congr _ (fun _ => ExceptionResponse.rtuFrameSize)
    ⟨[0, 1, 0, 0x40, 0, 8, 0x3D, 0xC9].set 1 0x40, {}⟩ 0x40 rfl hrule]
  exact ⟨_, rfl⟩

set_option maxRecDepth 4000 in
/-- A `ReadCoilsResponse` from unit 0 with coils 4, 5, 6, 12 and 14 on encodes
to `02 70 50`, and `build_packet` writes `00 01 02 70 50 A1 C0`, a packet the
byte-count rule sizes right. With its byte count `02` replaced by `00`, the rule
reads a 5-byte frame `00 01 00 70 50` whose last two bytes are the CRC of
`00 01 00`: `check_frame()` returns `True`. -/
theorem checkFrame_accepts_byte_count_corruption :
    (ReadBitsResponseBase.new [false, false, false, false, true, true, true, false,
        false, false, false, false, true, false, true, false]).encode = .ok [2, 0x70, 0x50] ∧
    RtuFramer.buildPacket { functionCode := 1, encode := [2, 0x70, 0x50] } =
      .ok [0, 1, 2, 0x70, 0x50, 0xA1, 0xC0] ∧
    SizeFits ReadBitsResponseBase.rtuFrameSize [0, 1, 2, 0x70, 0x50, 0xA1, 0xC0] ∧
    ∃ s₁, RtuFramer.checkFrame (fun _ => ReadBitsResponseBase.rtuFrameSize)
      ⟨[0, 1, 2, 0x70, 0x50, 0xA1, 0xC0].set 2 0, {}⟩ = .ok true s₁ := by
  have henc : (ReadBitsResponseBase.new [false, false, false, false, true, true, true, false,
      false, false, false, false, true, false, true, false]).encode = .ok [2, 0x70, 0x50] := by
    decide
  have hb : RtuFramer.buildPacket { functionCode := 1, encode := [2, 0x70, 0x50] } =
      .ok [0, 1, 2, 0x70, 0x50, 0xA1, 0xC0] := by decide
  exact ⟨henc, hb, sizeFits_response henc hb, _, rfl⟩

/-! ## What the decoders make of a frame -/

/-- An empty frame: `data[0]` raises `IndexError`, which `decode` lets through. -/
theorem ServerDecoder.decode_nil (d : ServerDecoder) : d.decode [] = .error .indexError := rfl

theorem ClientDecoder.decode_nil (d : ClientDecoder) : d.decode [] = .error .indexError := rfl

/-- A function code the server does not know: an `IllegalFunctionRequest`. -/
theorem ServerDecoder.decode_unknown {d : ServerDecoder} {b : UInt8} (h : d.lookup b.toNat = none)
    (data : Bytes) : d.decode (b :: data) = .ok (some (IllegalFunctionRequest.new b.toNat)) := by
  simp [decode, helper, h, bind, Except.bind, pure, Except.pure]

/-- A function code the client does not know, up to `0x80`: `None`. -/
theorem ClientDecoder.decode_unknown {d : ClientDecoder} {b : UInt8} (hb : b.toNat ≤ 0x80)
    (h : d.lookup b.toNat = none) (data : Bytes) : d.decode (b :: data) = .ok none := by
  simp [decode, helper, h, Nat.not_lt.mpr hb, bind, Except.bind, Except.mapError, throw,
    throwThe, MonadExceptOf.throw]

set_option maxRecDepth 8000 in
/-- The function-code byte of an exception response, for every function code
that fits a byte: it is above `0x80` unless the code's low seven bits are zero,
and stripping the high bit and setting it again gives it back. -/
theorem exceptionFunctionCode_bits : ∀ fc < 256, (fc % 0x80 = 0 → fc ||| 0x80 = 0x80) ∧
    (fc % 0x80 ≠ 0 → 0x80 < fc ||| 0x80) ∧ ((fc ||| 0x80) &&& 0x7f) ||| 0x80 = fc ||| 0x80 := by
  decide

/-- The client's decoder reads back an exception response whose function-code
byte is above `0x80`, whatever its table. -/
theorem ClientDecoder.decode_exception (d : ClientDecoder) {fc : Nat} (hfc : fc < 256)
    (h0 : fc % 0x80 ≠ 0) (code : Nat) :
    d.decode (UInt8.ofNat (exceptionResponse fc code).functionCode :: (exceptionResponse fc code).encode) =
      .ok (some (exceptionResponse fc code)) := by
  obtain ⟨-, hgt, hstrip⟩ := exceptionFunctionCode_bits fc hfc
  have hb : (UInt8.ofNat (fc ||| 0x80)).toNat = fc ||| 0x80 :=
    toNat_ofNat_byte (exceptionResponse_functionCode_lt hfc code)
  simp [decode, helper, hb, hgt h0, exceptionResponse, ExceptionResponse.decode, hstrip, bind,
    Except.bind, Except.mapError, pure, Except.pure]

/-- **The client decoder reads an exception response back**, as the server
frames it, the function code with its high bit set and the exception code,
unless the function code is `0` or `0x80`. For those the byte is `0x80`, which
`_helper` does not take for an exception response (`> 0x80`) and no class of
the table holds, so `decode` returns `None`. -/
theorem ClientDecoder.decode_exceptionResponse (table : List PduClass)
    (h80 : ∀ f ∈ table, f.functionCode ≠ 0x80) {fc : Nat} (hfc : fc < 256) (code : Nat) :
    (ClientDecoder.new table).decode
        (UInt8.ofNat (exceptionResponse fc code).functionCode :: (exceptionResponse fc code).encode) =
      .ok (if fc % 0x80 = 0 then none else some (exceptionResponse fc code)) := by
  by_cases h0 : fc % 0x80 = 0
  · rw [if_pos h0]
    show (new table).decode (UInt8.ofNat (fc ||| 0x80) :: _) = _
    rw [(exceptionFunctionCode_bits fc hfc).1 h0]
    exact decode_unknown (by decide) (buildLookup_eq_none h80) _
  · rw [if_neg h0]
    exact decode_exception _ hfc h0 code

example : (ClientDecoder.new [ReadCoilsResponse.cls, ReadDiscreteInputsResponse.cls]).decode
      (UInt8.ofNat (exceptionResponse 0x80 illegalFunction).functionCode ::
        (exceptionResponse 0x80 illegalFunction).encode) = .ok none :=
  ClientDecoder.decode_exceptionResponse _ (by decide) (by decide) illegalFunction

/-- A bit read request reads exactly four bytes, `>HH`. -/
theorem ReadBitsRequestBase.cls_decode_of_length {functionCode : Nat} {data : Bytes}
    (h : data.length ≠ 4) : (cls functionCode).decode data = .error .structError := by
  match data, h with
  | [], _ | [_], _ | [_, _], _ | [_, _, _], _ | _ :: _ :: _ :: _ :: _ :: _, _ => rfl
  | [_, _, _, _], h => exact absurd rfl h

/-- **A bit read request with a payload of the wrong length makes the server's
`decode` raise.** `struct.unpack('>HH', data)` raises `struct.error`, which is no
`ModbusException`: `decode` lets it through instead of returning `None`. -/
theorem ServerDecoder.decode_malformed {d : ServerDecoder} {b : UInt8} {functionCode : Nat}
    (h : d.lookup b.toNat = some (ReadBitsRequestBase.cls functionCode)) {data : Bytes}
    (hl : data.length ≠ 4) : d.decode (b :: data) = .error .structError := by
  simp [decode, helper, h, bind, Except.bind, ReadBitsRequestBase.cls_decode_of_length hl,
    Exc.isModbusException]

/-- The server's decoder reads a bit read request back as `encode()` wrote it. -/
theorem ServerDecoder.decode_readBits {d : ServerDecoder} {functionCode : Nat} (hfc : functionCode < 256)
    (h : d.lookup functionCode = some (ReadBitsRequestBase.cls functionCode)) {r : ReadBitsRequestBase}
    (ha : r.address < 65536) (hc : r.count < 65536) :
    d.decode (UInt8.ofNat functionCode :: (ReadBitsRequestBase.toPdu functionCode r).encode) =
      .ok (some (ReadBitsRequestBase.toPdu functionCode r)) := by
  simp [decode, helper, toNat_ofNat_byte hfc, h, bind, Except.bind, ReadBitsRequestBase.cls,
    ReadBitsRequestBase.toPdu, ReadBitsRequestBase.decode, be16_packH ha, be16_packH hc, Except.map]

/-- The client's decoder reads a bit read response back as `encode()` wrote it:
the byte count, and the bits padded with zeros to whole bytes. -/
theorem ClientDecoder.decode_readBits {d : ClientDecoder} {functionCode : Nat} (hfc : functionCode ≤ 0x80)
    (h : d.lookup functionCode = some (ReadBitsResponseBase.cls functionCode)) {bits : List Bool}
    (hb : bits.length ≤ 2040) :
    d.decode (UInt8.ofNat functionCode :: (ReadBitsResponseBase.toPdu functionCode (.new bits)).encode) =
      .ok (some (ReadBitsResponseBase.toPdu functionCode
        ⟨some ((bits.length + 7) / 8), bits ++ List.replicate ((8 - bits.length % 8) % 8) false⟩)) := by
  obtain ⟨data, henc, hdec⟩ := ReadBitsResponseBase.decode_encode_padded bits hb {}
  have hdata : (ReadBitsResponseBase.toPdu functionCode (.new bits)).encode = data :=
    (ReadBitsResponseBase.encode_eq_ok.mp henc).2.symm
  rw [hdata]
  simp [decode, helper, toNat_ofNat_byte (show functionCode < 256 by omega), Nat.not_lt.mpr hfc, h,
    bind, Except.bind, Except.mapError, ReadBitsResponseBase.cls, hdec, Except.map]

end Modbus
