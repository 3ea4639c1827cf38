import Modbus.Utilities

/-! # Modbus.Pdu — messages as the framers and managers see them

`pymodbus3.pdu` is not among the sources. The framers, managers and protocols
touch a message only through its header attributes, its `function_code`, its
`should_respond` flag and the bytes its `encode()` returns, so a message is
modelled as exactly those (`Pdu`); what a concrete request class decodes or
executes stays a parameter of the code that calls it.

Two pieces of `pdu.py` are read by modelled code and are modelled from the
specification: the exception response a failed request produces
(`exceptionResponse`, `doException`) and the RTU frame-size rule of a PDU class
(`RtuFrameSize`, `calculateRtuFrameSize`).
-/

namespace Modbus

open Bytes

/-- The value of a message's `unit_id` attribute. The framers write the `int`
they read, except the binary framer, whose `struct.unpack('>B', ...)` gives a
one-element tuple. -/
inductive UnitId where
  | int (n : Int)
  | tuple (n : Nat)
  deriving DecidableEq, Repr

/-- Modelled from the spec: a request or response PDU (§3), reduced to the
attributes the framers and managers read and write; `encode` is the payload
`encode()` returns, without the function code. -/
structure Pdu where
  functionCode : Nat
  transactionId : Nat := 0
  protocolId : Nat := 0
  unitId : UnitId := .int 0
  shouldRespond : Bool := true
  encode : Bytes := []
  deriving DecidableEq, Repr

/-- `struct.pack('>B', unit_id)`: only an `int` in range packs. -/
def packUnit : UnitId → Except Exc Bytes
  | .int n => if 0 ≤ n then packB n.toNat else .error .structError
  | .tuple _ => .error .structError

theorem packUnit_ok {u : Nat} (h : u < 256) : packUnit (.int u) = .ok [UInt8.ofNat u] := by
  simp [packUnit, packB_ok h]

theorem packUnit_eq_ok {v : UnitId} {b : Bytes} :
    packUnit v = .ok b ↔ ∃ u : Nat, v = .int u ∧ u < 256 ∧ b = [UInt8.ofNat u] := by
  rcases v with n | n
  · by_cases hn : 0 ≤ n
    · obtain ⟨u, rfl⟩ := Int.eq_ofNat_of_zero_le hn
      simp [packUnit, packB_eq_ok]
    · simp only [packUnit, hn, if_false]
      constructor
      · intro h; cases h
      · rintro ⟨u, hu, -⟩; cases hu; omega
  · simp [packUnit]

/-! ## Exception responses -/

/-- `ModbusExceptions.IllegalFunction`. -/
def illegalFunction : Nat := 1

/-- `ModbusExceptions.IllegalAddress`. -/
def illegalAddress : Nat := 2

/-- `ModbusExceptions.IllegalValue`. -/
def illegalValue : Nat := 3

/-- `ModbusExceptions.SlaveFailure`. -/
def slaveFailure : Nat := 4

/-- Modelled from the spec: `ExceptionResponse(function_code, exception_code)`,
whose function code is the original one with the high bit set and whose payload
is the single exception-code byte (§3). -/
def exceptionResponse (functionCode exceptionCode : Nat) : Pdu :=
  { functionCode := functionCode ||| 0x80, encode := [UInt8.ofNat exceptionCode] }

/-- Modelled from the spec: `request.do_exception(code)`, the exception response
for the request's function code (§4.2). -/
def doException (request : Pdu) (code : Nat) : Pdu :=
  exceptionResponse request.functionCode code

theorem exceptionResponse_functionCode_lt {fc : Nat} (h : fc < 256) (code : Nat) :
    (exceptionResponse fc code).functionCode < 256 := by
  show fc ||| 0x80 < 256
  exact Nat.or_lt_two_pow (n := 8) h (by decide)

/-! ## RTU frame sizes -/

/-- Modelled from the spec: how a PDU class sizes its RTU frame (§4.2): a class
constant `_rtu_frame_size`, a byte count at `_rtu_byte_count_pos`, or neither. -/
inductive RtuFrameSize where
  | fixed (size : Nat)
  | byteCount (pos : Nat)
  | unset
  deriving DecidableEq, Repr

/-- Modelled from the spec: `calculate_rtu_frame_size(buffer)`; the byte-count
rule reads `buffer[pos] + pos + 3` and raises `IndexError` on a short buffer, and
a class with neither attribute raises `NotImplementedError` (`test_pdu.py`). -/
def calculateRtuFrameSize : RtuFrameSize → Bytes → Except Exc Nat
  | .fixed size, _ => .ok size
  | .byteCount pos, buffer => (index buffer pos).map fun b => b.toNat + pos + 3
  | .unset, _ => .error .notImplementedError

/-- A class with a size rule raises nothing but `IndexError` while sizing. -/
theorem calculateRtuFrameSize_error {rule : RtuFrameSize} {buffer : Bytes} {e : Exc}
    (h : calculateRtuFrameSize rule buffer = .error e) (hr : rule ≠ .unset) : e = .indexError := by
  cases rule with
  | fixed n => cases h
  | byteCount pos =>
    cases hi : index buffer pos with
    | error e' => simp [calculateRtuFrameSize, hi, Except.map] at h; exact h ▸ index_error hi
    | ok b => simp [calculateRtuFrameSize, hi, Except.map] at h
  | unset => exact absurd rfl hr

/-- Sizing reads no byte of the buffer but the byte count. -/
theorem calculateRtuFrameSize_set {rule : RtuFrameSize} {i : Nat}
    (h : ∀ pos, rule = .byteCount pos → i ≠ pos) (buffer : Bytes) (y : UInt8) :
    calculateRtuFrameSize rule (buffer.set i y) = calculateRtuFrameSize rule buffer := by
  cases rule with
  | byteCount pos => simp [calculateRtuFrameSize, index, List.getElem?_set_ne (h pos rfl)]
  | _ => rfl

/-- A size read off a buffer is read off every longer one the same. -/
theorem calculateRtuFrameSize_append {rule : RtuFrameSize} {buffer : Bytes} {n : Nat}
    (h : calculateRtuFrameSize rule buffer = .ok n) (more : Bytes) :
    calculateRtuFrameSize rule (buffer ++ more) = .ok n := by
  cases rule with
  | fixed size => exact h
  | byteCount pos =>
    have hpos : pos < buffer.length := by
      by_contra hc
      simp [calculateRtuFrameSize, index_eq_error (not_lt.mp hc), Except.map] at h
    rwa [calculateRtuFrameSize, index_append_left hpos]
  | unset => cases h

end Modbus
