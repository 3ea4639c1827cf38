import Modbus.Framer.Socket
import Modbus.Framer.Rtu
import Modbus.Framer.Ascii
import Modbus.Framer.Binary
import Modbus.Transaction.Table

/-! # Modbus.Transaction.Manager — `ModbusTransactionManager.execute`

The synchronous manager sends a request and reads its reply through the
framer with a small state machine (`handle_message_framing`):

* `Initializing` — `advance_frame()`, to drop what an earlier attempt left;
* `ReadingHeader` — read `header_size - len(buffer)` bytes, then `check_frame()`;
* `ReadingContent` — read `get_frame_size() - len(buffer)` bytes;
* `CompleteFrame` — `process_incoming_packet('', add_transaction)`, success;
* `ErrorInFrame` — `reset_frame()`, failure.

An empty read costs one of the loop's `retries` under `retry_on_empty`, and is
an error in the frame otherwise. `execute` runs whole attempts (connect, send,
frame) until one gets through, retrying on `socket.error` only, and then pops
the reply from the table under the request's id.

The synchronous client is not among the sources: its four calls are a
parameter (`ClientCalls`). A loop of the source that need not end is run with
`fuel`, and `none` means the fuel ran out. `handleMessageFraming_ends` shows
that the framing loop never needs more than some finite fuel, with any of the
four framers and any transport.
-/

namespace Modbus

/-- `FramerState`. -/
inductive FramerState where
  | initializing
  | readingHeader
  | readingContent
  | completeFrame
  | errorInFrame
  deriving DecidableEq, Repr

/-- The calls a manager makes on its client over the client's state `ω`:
`connect()`, `send(packet)`, `receive(size)` and `close()`. -/
structure ClientCalls (ω : Type) where
  connect : ω → EStateM.Result Exc ω Unit
  send : ω → Bytes → EStateM.Result Exc ω Unit
  receive : ω → Int → EStateM.Result Exc ω Bytes
  close : ω → ω

/-- What a manager is built from: its client's framer and the framer's decoder,
the table methods of its subclass, its client's calls, and the `retries` and
`retry_on_empty` options. -/
structure ManagerSetup (σ τ ω : Type) where
  framer : Framer σ
  decode : Bytes → Except Exc (Option Pdu)
  table : TablePolicy τ
  client : ClientCalls ω
  retries : Nat
  retryOnEmpty : Bool

/-- The attributes of a manager its methods change, and its client's state. -/
structure Manager (σ τ ω : Type) where
  transactions : τ
  state : Option FramerState
  tid : Nat
  framer : σ
  client : ω

variable {σ τ ω : Type} (C : ManagerSetup σ τ ω)

/-- The read both reading states make: if `size ≠ 0`, `receive(size)`; an empty
result costs a retry under `retry_on_empty` and puts the manager in
`ErrorInFrame` otherwise; the result goes into the framer, and `size` shrinks by
its length. Returns the loop's `retries` and `size` after it. -/
def readInto (retries : Nat) (size : Int) (m : Manager σ τ ω) :
    EStateM.Result Exc (Manager σ τ ω) (Nat × Int) :=
  if size ≠ 0 then
    match C.client.receive m.client size with
    | .error e w => .error e { m with client := w }
    | .ok result w =>
      let retries' := if result = [] ∧ C.retryOnEmpty = true then retries - 1 else retries
      let state' := if result = [] ∧ C.retryOnEmpty = false then some .errorInFrame else m.state
      .ok (retries', size - result.length)
        { m with client := w, state := state', framer := C.framer.addToFrame m.framer result }
  else .ok (retries, size) m

/-- The callback `process_incoming_packet` gets in `CompleteFrame`:
`add_transaction`. -/
def addTransactionCallback (x : Pdu) (t : τ) : τ × Option Exc :=
  (C.table.addTransaction t x, none)

/-- One turn of the `while retries > 0` loop of `handle_message_framing`:
`some b` returns `b`, `none` goes round again, with the loop's `retries`. -/
def framingStep (retries : Nat) (m : Manager σ τ ω) :
    EStateM.Result Exc (Manager σ τ ω) (Option Bool × Nat) :=
  match m.state with
  | some .initializing =>
    .ok (none, retries) { m with framer := C.framer.advanceFrame m.framer, state := some .readingHeader }
  | some .readingHeader =>
    match readInto C retries ((C.framer.headerSize : Int) - (C.framer.buffer m.framer).length) m with
    | .error e m => .error e m
    | .ok (retries, size) m =>
      if size ≤ 0 then
        match C.framer.checkFrame m.framer with
        | .error e f => .error e { m with framer := f }
        | .ok _ f => .ok (none, retries) { m with framer := f, state := some .readingContent }
      else .ok (none, retries) m
  | some .readingContent =>
    match readInto C retries
      ((C.framer.getFrameSize m.framer : Int) - (C.framer.buffer m.framer).length) m with
    | .error e m => .error e m
    | .ok (retries, size) m =>
      .ok (none, retries) (if size ≤ 0 then { m with state := some .completeFrame } else m)
  | some .completeFrame =>
    let p := processIncomingPacket C.framer C.decode (addTransactionCallback C) [] m.framer
      m.transactions
    let m := { m with framer := p.framer, transactions := p.env }
    match p.raised with
    | [] => .ok (some true, retries) m
    | x :: _ => .error x m
  | some .errorInFrame => .ok (some false, retries) { m with framer := C.framer.resetFrame m.framer }
  | none => .ok (none, retries) { m with state := some .errorInFrame }

/-- `handle_message_framing()`, given room for `fuel` turns of its loop, which
starts with `retries = self.retries`. -/
def handleMessageFraming : Nat → Nat → Manager σ τ ω →
    Option (EStateM.Result Exc (Manager σ τ ω) Bool)
  | 0, _, _ => none
  | fuel + 1, retries, m =>
    if retries > 0 then
      match framingStep C retries m with
      | .error e m => some (.error e m)
      | .ok (some b, _) m => some (.ok b m)
      | .ok (none, retries) m => handleMessageFraming fuel retries m
    else some (.ok false m)

/-- What the `try` block makes of `handle_message_framing()`: `False` raises
`ModbusIOException`. -/
def afterFraming : EStateM.Result Exc (Manager σ τ ω) Bool → EStateM.Result Exc (Manager σ τ ω) Unit
  | .ok true m => .ok () m
  | .ok false m => .error (.ioException "Server responded with bad response") m
  | .error e m => .error e m

/-- The `try` block of `execute`, one attempt: connect, send the framed
request, and read the reply. `.ok` is the `break`. -/
def attempt (fuel : Nat) (request : Pdu) (m : Manager σ τ ω) :
    Option (EStateM.Result Exc (Manager σ τ ω) Unit) :=
  let m := { m with state := some .initializing }
  match C.client.connect m.client with
  | .error e w => some (.error e { m with client := w })
  | .ok _ w =>
    let m := { m with client := w }
    match C.framer.buildPacket request with
    | .error e => some (.error e m)
    | .ok packet =>
      match C.client.send m.client packet with
      | .error e w => some (.error e { m with client := w })
      | .ok _ w =>
        (handleMessageFraming C fuel C.retries { m with client := w }).map afterFraming

/-- The `while retries > 0` loop of `execute`: a `socket.error` closes the
client and costs a retry; any other exception goes through. -/
def executeLoop (fuel : Nat) (request : Pdu) : Nat → Manager σ τ ω →
    Option (EStateM.Result Exc (Manager σ τ ω) Unit)
  | 0, m => some (.ok () m)
  | retries + 1, m =>
    match attempt C fuel request m with
    | none => none
    | some (.ok _ m) => some (.ok () m)
    | some (.error e m) =>
      if e = .socketError then executeLoop fuel request retries { m with client := C.client.close m.client }
      else some (.error e m)

/-- The `return self.get_transaction(request.transaction_id)` after the loop. -/
def popReply (tid : Nat) : EStateM.Result Exc (Manager σ τ ω) Unit →
    EStateM.Result Exc (Manager σ τ ω) (Option Pdu)
  | .ok _ m => .ok (C.table.getTransaction m.transactions tid).1
      { m with transactions := (C.table.getTransaction m.transactions tid).2 }
  | .error e m => .error e m

/-- `execute(request)`: give the request the next transaction id, run the
attempts, and pop the reply filed under that id (`None` if there is none). -/
def execute (fuel : Nat) (request : Pdu) (m : Manager σ τ ω) :
    Option (EStateM.Result Exc (Manager σ τ ω) (Option Pdu)) :=
  let tid := getNextTid m.tid
  (executeLoop C fuel { request with transactionId := tid } C.retries { m with tid := tid }).map
    (popReply C tid)

/-! ## The framing loop ends

A turn of `handle_message_framing` that goes round again lowers, in
lexicographic order, the loop's `retries`, how far the state is from returning
(`FramerState.rank`), and the bytes a reading state still asks for (`missing`):
an empty read costs a retry or ends in `ErrorInFrame`, and a read that does not
finish its state shortens what is missing from a target that, by
`Framer.Grows`, stays where it was. -/

/-- How many turns a state is at most from returning, not counting reads. -/
def FramerState.rank : Option FramerState → Nat
  | some .initializing => 3
  | some .readingHeader => 2
  | some .readingContent | none => 1
  | some .completeFrame | some .errorInFrame => 0

/-- The bytes a reading state still asks for. -/
def missing (m : Manager σ τ ω) : Nat :=
  match m.state with
  | some .readingHeader => ((C.framer.headerSize : Int) - (C.framer.buffer m.framer).length).toNat
  | some .readingContent =>
    ((C.framer.getFrameSize m.framer : Int) - (C.framer.buffer m.framer).length).toNat
  | _ => 0

/-- What a turn of the loop lowers: the loop's `retries`, then how far the
state is from returning, then the bytes it still asks for. -/
def framingMeasure (p : Nat × Manager σ τ ω) : Nat × Nat × Nat :=
  (p.1, FramerState.rank p.2.state, missing C p.2)

/-- The order the loop's turns descend in. -/
def FramingLt : Nat × Manager σ τ ω → Nat × Manager σ τ ω → Prop :=
  InvImage (Prod.Lex (· < ·) (Prod.Lex (· < ·) (· < ·))) (framingMeasure C)

theorem framingLt_wf : WellFounded (FramingLt C) :=
  InvImage.wf _ (WellFounded.prod_lex Nat.lt_wfRel.wf (WellFounded.prod_lex Nat.lt_wfRel.wf Nat.lt_wfRel.wf))

variable {C}

/-- A read either costs a retry, or ends in `ErrorInFrame`, or keeps the state
and either asked for nothing or added a non-empty chunk to the framer. -/
theorem readInto_progress {retries r₁ : Nat} {size size' : Int} {m m₁ : Manager σ τ ω}
    (hr : 0 < retries) (h : readInto C retries size m = .ok (r₁, size') m₁) :
    r₁ < retries ∨ (r₁ = retries ∧ m₁.state = some .errorInFrame ∧ size' = size) ∨
      (r₁ = retries ∧ m₁.state = m.state ∧ ((size = 0 ∧ size' = 0 ∧ m₁ = m) ∨
        ∃ c, c ≠ [] ∧ m₁.framer = C.framer.addToFrame m.framer c ∧ size' = size - c.length)) := by
  unfold readInto at h
  split_ifs at h with hs
  · split at h
    · cases h
    · rename_i result w _
      simp only [EStateM.Result.ok.injEq, Prod.mk.injEq] at h
      obtain ⟨⟨rfl, rfl⟩, rfl⟩ := h
      by_cases hres : result = []
      · subst hres
        cases hro : C.retryOnEmpty
        · exact .inr (.inl ⟨by simp [hro], by simp [hro], by simp⟩)
        · exact .inl (by simp [hro]; omega)
      · exact .inr (.inr ⟨by simp [hres], by simp [hres], .inr ⟨result, hres, rfl, rfl⟩⟩)
  · cases h
    exact .inr (.inr ⟨rfl, rfl, .inl ⟨by simpa using hs, by simpa using hs, rfl⟩⟩)

theorem FramingLt.of_retries {r' retries : Nat} {m' m : Manager σ τ ω} (h : r' < retries) :
    FramingLt C (r', m') (retries, m) :=
  Prod.Lex.left _ _ h

theorem FramingLt.of_rank {retries : Nat} {m' m : Manager σ τ ω}
    (h : FramerState.rank m'.state < FramerState.rank m.state) :
    FramingLt C (retries, m') (retries, m) :=
  Prod.Lex.right _ (Prod.Lex.left _ _ h)

theorem FramingLt.of_missing {retries : Nat} {m' m : Manager σ τ ω} (hs : m'.state = m.state)
    (h : missing C m' < missing C m) : FramingLt C (retries, m') (retries, m) := by
  show Prod.Lex _ _ (retries, FramerState.rank m'.state, missing C m') _
  rw [hs]
  exact Prod.Lex.right _ (Prod.Lex.right _ h)

/-- **Every turn of the framing loop that goes round again descends.** -/
theorem framingStep_lt (hG : C.framer.Grows) {retries r' : Nat} {m m' : Manager σ τ ω}
    (hr : 0 < retries) (h : framingStep C retries m = .ok (none, r') m') :
    FramingLt C (r', m') (retries, m) := by
  rcases hst : m.state with _ | (_ | _ | _ | _ | _) <;> simp only [framingStep, hst] at h
  case none =>
    cases h
    exact .of_rank (by simp [hst, FramerState.rank])
  case initializing =>
    cases h
    exact .of_rank (by simp [hst, FramerState.rank])
  case readingHeader =>
    split at h
    · cases h
    rename_i r₁ size' m₁ hread
    split_ifs at h with hle
    · split at h
      · cases h
      cases h
      rcases readInto_progress hr hread with hlt | ⟨rfl, -⟩ | ⟨rfl, -⟩
      · exact .of_retries hlt
      all_goals exact .of_rank (by simp [hst, FramerState.rank])
    · cases h
      rcases readInto_progress hr hread with hlt | ⟨rfl, hs, -⟩ | ⟨rfl, hs, ⟨-, rfl, -⟩ | ⟨c, hc, hf, rfl⟩⟩
      · exact .of_retries hlt
      · exact .of_rank (by simp [hs, hst, FramerState.rank])
      · omega
      · refine .of_missing hs ?_
        have := List.length_pos.mpr hc
        simp only [missing, hs, hst, hf, hG.buffer_add, List.length_append]
        omega
  case readingContent =>
    split at h
    · cases h
    rename_i r₁ size' m₁ hread
    cases h
    rcases readInto_progress hr hread with hlt | ⟨rfl, hs, -⟩ | ⟨rfl, hs, ⟨-, rfl, -⟩ | ⟨c, hc, hf, rfl⟩⟩
    · split_ifs <;> exact .of_retries hlt
    · split_ifs <;> exact .of_rank (by simp [hs, hst, FramerState.rank])
    · simp only [le_refl, if_true]
      exact .of_rank (by simp [hst, FramerState.rank])
    · split_ifs with hle
      · exact .of_rank (by simp [hst, FramerState.rank])
      · have := List.length_pos.mpr hc
        refine .of_missing hs ?_
        simp only [missing, hs, hst, hf, hG.buffer_add, List.length_append,
          hG.frameSize_add m.framer c hc (by omega)]
        omega
  case completeFrame =>
    split at h <;> cases h
  case errorInFrame =>
    cases h

/-- **The framing loop ends.** For a framer that grows as `Framer.Grows` says,
from any manager state and any `retries`, `handle_message_framing` returns or
raises after some number of turns, and more room changes nothing. -/
theorem handleMessageFraming_terminates (hG : C.framer.Grows) (retries : Nat) (m : Manager σ τ ω) :
    ∃ n res, ∀ fuel, n ≤ fuel → handleMessageFraming C fuel retries m = some res := by
  suffices h : ∀ p : Nat × Manager σ τ ω,
      ∃ n res, ∀ fuel, n ≤ fuel → handleMessageFraming C fuel p.1 p.2 = some res from h (retries, m)
  intro p
  induction p using (framingLt_wf C).induction with
  | _ p ih =>
    obtain ⟨retries, m⟩ := p
    by_cases hr : 0 < retries
    · cases hs : framingStep C retries m with
      | error e m' =>
        exact ⟨1, .error e m', fun fuel hf => by
          obtain ⟨k, rfl⟩ := Nat.exists_eq_add_of_le' hf
          simp [handleMessageFraming, hr, hs]⟩
      | ok v m' =>
        obtain ⟨_ | b, r'⟩ := v
        · obtain ⟨n, res, hn⟩ := ih (r', m') (framingStep_lt hG hr hs)
          exact ⟨n + 1, res, fun fuel hf => by
            obtain ⟨k, rfl⟩ := Nat.exists_eq_add_of_le' (show 1 ≤ fuel by omega)
            simp only [handleMessageFraming, if_pos hr, hs]
            exact hn k (by omega)⟩
        · exact ⟨1, .ok b m', fun fuel hf => by
            obtain ⟨k, rfl⟩ := Nat.exists_eq_add_of_le' hf
            simp [handleMessageFraming, hr, hs]⟩
    · exact ⟨1, .ok false m, fun fuel hf => by
        obtain ⟨k, rfl⟩ := Nat.exists_eq_add_of_le' hf
        simp [handleMessageFraming, hr]⟩

/-- **`handle_message_framing` ends, for each of the four framers.** Whatever
the framer's buffer and header, the manager's state, `retries` and
`retry_on_empty`, and whatever the transport returns or raises on each
`receive(size)`, the loop returns or raises after some number of turns, and
more room for turns changes nothing. -/
theorem handleMessageFraming_ends {τ ω : Type} :
    (∀ (C : ManagerSetup SocketFramer τ ω) (m : Manager SocketFramer τ ω), ∃ n res, ∀ fuel,
      n ≤ fuel → handleMessageFraming { C with framer := socketFramer } fuel C.retries m = some res) ∧
    (∀ (lookup : Nat → RtuFrameSize) (C : ManagerSetup RtuFramer τ ω) (m : Manager RtuFramer τ ω),
      ∃ n res, ∀ fuel, n ≤ fuel →
        handleMessageFraming { C with framer := rtuFramer lookup } fuel C.retries m = some res) ∧
    (∀ (C : ManagerSetup AsciiFramer τ ω) (m : Manager AsciiFramer τ ω), ∃ n res, ∀ fuel,
      n ≤ fuel → handleMessageFraming { C with framer := asciiFramer } fuel C.retries m = some res) ∧
    (∀ (C : ManagerSetup BinaryFramer τ ω) (m : Manager BinaryFramer τ ω), ∃ n res, ∀ fuel,
      n ≤ fuel → handleMessageFraming { C with framer := binaryFramer } fuel C.retries m = some res) :=
  ⟨fun C m => handleMessageFraming_terminates socketFramer_grows C.retries m,
   fun lookup C m => handleMessageFraming_terminates (rtuFramer_grows lookup) C.retries m,
   fun C m => handleMessageFraming_terminates asciiFramer_grows C.retries m,
   fun C m => handleMessageFraming_terminates binaryFramer_grows C.retries m⟩

end Modbus
