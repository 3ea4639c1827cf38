import Modbus.Framer.Rtu
import Modbus.Transaction.Transport

/-! # Modbus.Transaction.Serial — `execute` over the RTU framer

The manager's reading states size their reads from `header_size` and
`get_frame_size()`. A serial framer knows no frame length before `check_frame()`
has read one, and until then `get_frame_size()` is `len(buffer) + 1`. The RTU
framer's `header_size` is 1:

* `ReadingHeader` reads one byte, and `check_frame()` cannot size a frame from it
  (`checkFrame_one`);
* `ReadingContent` asks for `get_frame_size() - len(buffer) = 1` more byte, and
  then counts the frame as complete (`handleMessageFraming_rtu`);
* `process_incoming_packet('', ...)` waits for the rest of the frame, which
  never comes, so nothing is committed and `execute` returns what the table held
  (`execute_rtu_two_bytes`), with the rest of the reply left on the wire.
-/

namespace Modbus

open Bytes RtuFramer

/-- A manager with table methods `table` whose client owns a
`ModbusRtuFramer` with PDU lookup `lookup` and decoder `decode`, and follows a
script. -/
def rtuSetup {τ : Type} (lookup : Nat → RtuFrameSize) (decode : Bytes → Except Exc (Option Pdu))
    (table : TablePolicy τ) (retries : Nat) (retryOnEmpty : Bool) : ManagerSetup RtuFramer τ Scripted :=
  { framer := rtuFramer lookup, decode := decode, table := table, client := scripted,
    retries := retries, retryOnEmpty := retryOnEmpty }

section Rtu

variable {τ : Type} {lookup : Nat → RtuFrameSize} {decode : Bytes → Except Exc (Option Pdu)}
  {table : TablePolicy τ} {N : Nat} {o : Bool}

/-- `check_frame()` on one buffered byte: `populate_header()` writes the unit id,
then `buffer[1]` raises `IndexError`, which reads as `False`. -/
theorem checkFrame_one (x : UInt8) :
    checkFrame lookup ⟨[x], {}⟩ = .ok false ⟨[x], { uid := x.toNat }⟩ := by
  simp [checkFrame, checkFrameTry, populateHeader, index]

/-- **Three turns from `Initializing` make an RTU frame of two bytes.** On a
fresh framer, `advance_frame()` keeps the empty buffer; `ReadingHeader` reads one
byte and `check_frame()` finds no size in it; `ReadingContent` reads one more and
counts the frame as complete. -/
theorem handleMessageFraming_rtu {m : Manager RtuFramer τ Scripted} {x₀ x₁ : UInt8} {rest : Bytes}
    (hs : m.state = some .initializing) (hf : m.framer = {})
    (hw : m.client.plan = .deliver (x₀ :: x₁ :: rest)) (hc : Splitting m.client.cuts)
    {r : Nat} (hr : 0 < r) (fuel : Nat) :
    handleMessageFraming (rtuSetup lookup decode table N o) (fuel + 3) r m =
      handleMessageFraming (rtuSetup lookup decode table N o) fuel r
        { m with
          state := some .completeFrame
          framer := ⟨[x₀, x₁], { uid := x₀.toNat }⟩
          client := { m.client with plan := .deliver rest, cuts := m.client.cuts.tail.tail } } := by
  set C := rtuSetup lookup decode table N o
  set m₁ : Manager RtuFramer τ Scripted := { m with framer := {}, state := some .readingHeader }
  set m₂ : Manager RtuFramer τ Scripted :=
    { m with
      framer := ⟨[x₀], { uid := x₀.toNat }⟩
      state := some .readingContent
      client := { m.client with plan := .deliver (x₁ :: rest), cuts := m.client.cuts.tail } }
  have h₁ : framingStep C r m = .ok (none, r) m₁ := by
    simp [framingStep, hs, hf, C, m₁, rtuSetup, rtuFramer, advanceFrame]
  have h₂ : framingStep C r m₁ = .ok (none, r) m₂ := by
    have hread := readInto_one (C := C) (m := m₁) rfl hw hc r
    simp only [framingStep, m₁]
    rw [show ((C.framer.headerSize : Int) - (C.framer.buffer {}).length) = 1 from rfl, hread]
    simp [C, m₂, rtuSetup, rtuFramer, checkFrame_one]
  have h₃ : framingStep C r m₂ = .ok (none, r)
      { m with
        state := some .completeFrame
        framer := ⟨[x₀, x₁], { uid := x₀.toNat }⟩
        client := { m.client with plan := .deliver rest, cuts := m.client.cuts.tail.tail } } := by
    have hread := readInto_one (C := C) (m := m₂) rfl rfl hc.tail r
    simp only [framingStep, m₂]
    rw [show ((C.framer.getFrameSize ⟨[x₀], { uid := x₀.toNat }⟩ : Int) -
      (C.framer.buffer ⟨[x₀], { uid := x₀.toNat }⟩).length) = 1 from rfl, hread]
    rfl
  calc handleMessageFraming C (fuel + 2 + 1) r m
      _ = handleMessageFraming C (fuel + 1 + 1) r m₁ := by rw [handleMessageFraming, if_pos hr, h₁]
      _ = handleMessageFraming C (fuel + 1) r m₂ := by rw [handleMessageFraming, if_pos hr, h₂]
      _ = _ := by rw [handleMessageFraming, if_pos hr, h₃]

/-- **`execute` stops an RTU reply after two bytes.** Whatever the manager's
table, transaction counter and framer state, and whatever reply packet the link
delivers in whatever splitting, the manager counts the frame complete after
two bytes, `process_incoming_packet` commits nothing, and `execute` returns what
the table held under the request's id, leaving the table as it was and the rest
of the reply on the wire. -/
theorem execute_rtu_two_bytes (request : Pdu) (k : Nat)
    (hreq : ∃ q, buildPacket { request with transactionId := getNextTid k } = .ok q)
    {p : Bytes} (hp : Good lookup p) (hN : 0 < N) (later : List Plan) (cuts : List Nat)
    (hcuts : Splitting cuts) (t : τ) (st : Option FramerState) (fuel : Nat) (hfuel : 4 ≤ fuel) :
    ∃ m', execute (rtuSetup lookup decode table N o) fuel request
        ⟨t, st, k, {}, Scripted.ofPlans (.deliver p :: later) cuts⟩ =
      some (.ok (table.getTransaction t (getNextTid k)).1 m') ∧
      m'.transactions = (table.getTransaction t (getNextTid k)).2 ∧
      m'.client.plan = .deliver (p.drop 2) ∧ m'.framer.buffer = p.take 2 := by
  obtain ⟨P, hP, hfit⟩ := hp
  obtain ⟨u, -, -, -, rfl⟩ := buildPacket_eq_ok hP
  obtain ⟨n, rfl⟩ : ∃ n, N = n + 1 := ⟨N - 1, by omega⟩
  obtain ⟨fuel, rfl⟩ : ∃ k, fuel = k + 1 + 3 := ⟨fuel - 4, by omega⟩
  -- the frame the manager counts complete does not check out, so nothing is committed
  obtain ⟨s₁, hcheck, hbuf⟩ := (rtu_reads lookup).wait
    ⟨[UInt8.ofNat u, UInt8.ofNat P.functionCode], { uid := (UInt8.ofNat u).toNat }⟩ []
    [UInt8.ofNat u, UInt8.ofNat P.functionCode] rfl
    (.inr ⟨_, ⟨P, hP, hfit⟩, ⟨_, rfl⟩, by simp [packetOf]⟩) rfl rfl
  have hloop : frameLoop (rtuSetup lookup decode table (n + 1) o).framer
      (rtuSetup lookup decode table (n + 1) o).decode
      (addTransactionCallback (rtuSetup lookup decode table (n + 1) o))
      ⟨[UInt8.ofNat u, UInt8.ofNat P.functionCode], { uid := (UInt8.ofNat u).toNat }⟩ t =
      ⟨s₁, t, [], []⟩ :=
    frameLoop_check_false rfl hcheck t
  set w := Scripted.ofPlans (.deliver (packetOf P u ++ crcBytes (computeCrc (packetOf P u))) :: later) cuts
  set m₄ : Manager RtuFramer τ Scripted :=
    ⟨t, some .completeFrame, getNextTid k, s₁,
      { w with plan := .deliver (P.encode ++ crcBytes (computeCrc (packetOf P u))), cuts := cuts.tail.tail }⟩
  have hrun : handleMessageFraming (rtuSetup lookup decode table (n + 1) o) (fuel + 1 + 3) (n + 1)
      ⟨t, some .initializing, getNextTid k, {}, w⟩ = some (.ok true m₄) := by
    rw [handleMessageFraming_rtu rfl rfl rfl hcuts (Nat.succ_pos n), handleMessageFraming,
      if_pos (Nat.succ_pos n)]
    simp only [framingStep, processIncomingPacket, if_true, hloop]
    rfl
  refine ⟨{ m₄ with transactions := (table.getTransaction t (getNextTid k)).2 }, ?_, rfl, rfl, ?_⟩
  · have hatt : attempt (rtuSetup lookup decode table (n + 1) o) (fuel + 1 + 3)
        { request with transactionId := getNextTid k } ⟨t, st, getNextTid k, {}, w⟩ =
        some (.ok () m₄) := by
      rw [attempt_frames rfl (.inl rfl) hreq]
      exact congrArg (Option.map afterFraming) hrun
    simp only [execute]
    rw [show (rtuSetup lookup decode table (n + 1) o).retries = n + 1 from rfl,
      executeLoop_of_attempt hatt]
    rfl
  · rcases hbuf with h | h <;> simpa using h

set_option maxRecDepth 4000 in
/-- The RTU reply `00 01 00 00 00 01 FC 1B` to a `FifoTransactionManager` with
an empty queue, read whole: `execute` returns `None` after two bytes. -/
theorem execute_rtu_two_bytes_fifo :
    ∃ m', execute (rtuSetup (fun _ => .fixed 8) (fun _ => .ok (some { functionCode := 1 }))
        fifoPolicy 3 false) 10 { functionCode := 1, encode := [0, 0, 0, 1] }
        ⟨[], none, 0, {}, Scripted.ofPlans [.deliver [0, 1, 0, 0, 0, 1, 0xFC, 0x1B]] []⟩ =
      some (.ok (fifoPolicy.getTransaction [] (getNextTid 0)).1 m') ∧
      m'.transactions = (fifoPolicy.getTransaction [] (getNextTid 0)).2 ∧
      m'.client.plan = .deliver (([0, 1, 0, 0, 0, 1, 0xFC, 0x1B] : Bytes).drop 2) ∧
      m'.framer.buffer = ([0, 1, 0, 0, 0, 1, 0xFC, 0x1B] : Bytes).take 2 :=
  @execute_rtu_two_bytes _ (fun _ => .fixed 8) (fun _ => .ok (some { functionCode := 1 })) fifoPolicy 3 false
    { functionCode := 1, encode := [0, 0, 0, 1] } 0 ⟨_, rfl⟩ [0, 1, 0, 0, 0, 1, 0xFC, 0x1B]
    ⟨{ functionCode := 1, encode := [0, 0, 0, 1] }, rfl, fun _ _ => .inr rfl⟩ (by decide) [] []
    (by simp [Splitting]) [] none 10 (by decide)

set_option maxRecDepth 4000 in
/-- The RTU reply `00 01 00 00 00 01 FC 1B` (unit 0, function code 1, a fixed
frame size of eight bytes), sent whole to a `FifoTransactionManager`: `execute`
returns `None` with `00 01` buffered and six bytes left on the wire. -/
theorem execute_rtu_reply_cut :
    ∃ m', execute (rtuSetup (fun _ => .fixed 8) (fun _ => .ok (some { functionCode := 1 }))
        fifoPolicy 3 false) 10 { functionCode := 1, encode := [0, 0, 0, 1] }
        ⟨[], none, 0, {}, Scripted.ofPlans [.deliver [0, 1, 0, 0, 0, 1, 0xFC, 0x1B]] []⟩ =
      some (.ok none m') ∧ m'.framer.buffer = [0, 1] ∧
      m'.client.plan = .deliver [0, 0, 0, 1, 0xFC, 0x1B] :=
  ⟨_, rfl, rfl, rfl⟩

end Rtu

end Modbus
