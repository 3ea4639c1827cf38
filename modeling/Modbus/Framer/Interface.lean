import Modbus.Pdu

/-! # Modbus.Framer.Interface — `IModbusFramer` and its framing loop

Every framer of `pymodbus3.transaction` implements the abstract methods of
`IModbusFramer`; the interface itself implements `process_incoming_packet`,
the loop that turns buffered bytes into decoded messages. A framer is modelled
as a record of its methods over its own state type (`Framer`), and the loop once
for all of them (`frameLoop`, `processIncomingPacket`); `feed` calls
`process_incoming_packet` once per received chunk, as a protocol does.

The loop keeps going while a frame checks out, and stops at the first frame
that does not. `Framer.advance_shrinks` records why it terminates: advancing
past a frame that checked out shortens the buffer. Each framer proves it.

The loop also returns what it handed to `decoder.decode`, in order (`decoded`),
so that a statement about the frames a framer extracts can be read off a run.
-/

namespace Modbus

open Bytes

/-- The methods of `IModbusFramer` a framer implements, over its state `σ`
(its buffer and header). `checkFrame` may change the state and may raise, like
its Python counterparts. -/
structure Framer (σ : Type) where
  buffer : σ → Bytes
  headerSize : Nat
  addToFrame : σ → Bytes → σ
  isFrameReady : σ → Bool
  checkFrame : σ → EStateM.Result Exc σ Bool
  getFrame : σ → Except Exc Bytes
  populateResult : σ → Pdu → Pdu
  advanceFrame : σ → σ
  resetFrame : σ → σ
  getFrameSize : σ → Nat
  buildPacket : Pdu → Except Exc Bytes
  /-- Advancing past a frame that checked out shortens the buffer. -/
  advance_shrinks : ∀ s s₁, checkFrame s = .ok true s₁ →
    (buffer (advanceFrame s₁)).length < (buffer s).length

/-- What a manager's framing loop needs of a framer to end: `add_to_frame`
appends, and a read that falls short of the frame leaves `get_frame_size()`
where it was. -/
structure Framer.Grows {σ : Type} (F : Framer σ) : Prop where
  buffer_add : ∀ s c, F.buffer (F.addToFrame s c) = F.buffer s ++ c
  frameSize_add : ∀ s c, c ≠ [] → (c.length : Int) < (F.getFrameSize s : Int) - (F.buffer s).length →
    F.getFrameSize (F.addToFrame s c) = F.getFrameSize s

/-- What one or more calls of `process_incoming_packet` did: the framer state
they left, the callback's state, the frames given to `decoder.decode` in order,
and the exceptions raised. -/
structure Pass (σ γ : Type) where
  framer : σ
  env : γ
  decoded : List Bytes
  raised : List Exc

variable {σ γ : Type} (F : Framer σ) (decode : Bytes → Except Exc (Option Pdu))
  (callback : Pdu → γ → γ × Option Exc)

/-- The loop of `process_incoming_packet`, given room for `fuel` turns: while a
frame is ready and checks out, decode it, populate the result from the header,
advance, and call back; a `None` from the decoder raises `ModbusIOException`. -/
def frameLoopFuel : Nat → σ → γ → Pass σ γ
  | 0, s, e => ⟨s, e, [], []⟩
  | fuel + 1, s, e =>
    if F.isFrameReady s then
      match F.checkFrame s with
      | .ok true s₁ =>
        match F.getFrame s₁ with
        | .error x => ⟨s₁, e, [], [x]⟩
        | .ok frame =>
          match decode frame with
          | .error x => ⟨s₁, e, [frame], [x]⟩
          | .ok none => ⟨s₁, e, [frame], [.ioException "Unable to decode request"]⟩
          | .ok (some result) =>
            let s₂ := F.advanceFrame s₁
            match callback (F.populateResult s₁ result) e with
            | (e₁, some x) => ⟨s₂, e₁, [frame], [x]⟩
            | (e₁, none) =>
              let p := frameLoopFuel fuel s₂ e₁
              { p with decoded := frame :: p.decoded }
      | .ok false s₁ => ⟨s₁, e, [], []⟩
      | .error x s₁ => ⟨s₁, e, [], [x]⟩
    else ⟨s, e, [], []⟩

/-- The `while` loop of `process_incoming_packet`. It turns at most once more
than the buffer is long, since every frame that checks out shortens the buffer
(`Framer.advance_shrinks`); `frameLoopFuel_enough` shows the bound is never hit. -/
def frameLoop (s : σ) (e : γ) : Pass σ γ :=
  frameLoopFuel F decode callback ((F.buffer s).length + 1) s e

/-- `process_incoming_packet(data, callback)`: add non-empty data, then frame. -/
def processIncomingPacket (data : Bytes) (s : σ) (e : γ) : Pass σ γ :=
  frameLoop F decode callback (if data = [] then s else F.addToFrame s data) e

/-- One call of `process_incoming_packet` per chunk, in order. -/
def feed : σ → γ → List Bytes → Pass σ γ
  | s, e, [] => ⟨s, e, [], []⟩
  | s, e, c :: cs =>
    let p := processIncomingPacket F decode callback c s e
    let q := feed p.framer p.env cs
    ⟨q.framer, q.env, p.decoded ++ q.decoded, p.raised ++ q.raised⟩

/-! ## One turn of the loop -/

variable {F decode callback}

/-- Room for more turns than the buffer is long changes nothing. -/
theorem frameLoopFuel_enough : ∀ (n : Nat) (s : σ) (e : γ), (F.buffer s).length < n →
    frameLoopFuel F decode callback n s e = frameLoop F decode callback s e
  | 0, _, _, h => absurd h (Nat.not_lt_zero _)
  | n + 1, s, e, h => by
    rw [frameLoop]
    simp only [frameLoopFuel]
    split <;> try rfl
    split <;> try rfl
    rename_i s₁ hc
    split <;> try rfl
    split <;> try rfl
    split <;> try rfl
    have hs := F.advance_shrinks s s₁ hc
    rw [frameLoopFuel_enough n _ _ (by omega), frameLoopFuel_enough (F.buffer s).length _ _ hs]

theorem frameLoop_not_ready {s : σ} (h : F.isFrameReady s = false) (e : γ) :
    frameLoop F decode callback s e = ⟨s, e, [], []⟩ := by
  simp [frameLoop, frameLoopFuel, h]

theorem frameLoop_check_false {s s₁ : σ} (hr : F.isFrameReady s = true)
    (hc : F.checkFrame s = .ok false s₁) (e : γ) :
    frameLoop F decode callback s e = ⟨s₁, e, [], []⟩ := by
  simp [frameLoop, frameLoopFuel, hr, hc]

theorem frameLoop_check_error {s s₁ : σ} {x : Exc} (hr : F.isFrameReady s = true)
    (hc : F.checkFrame s = .error x s₁) (e : γ) :
    frameLoop F decode callback s e = ⟨s₁, e, [], [x]⟩ := by
  simp [frameLoop, frameLoopFuel, hr, hc]

theorem frameLoop_frame {s s₁ : σ} {frame : Bytes} {result : Pdu} {e e₁ : γ}
    (hr : F.isFrameReady s = true) (hc : F.checkFrame s = .ok true s₁)
    (hf : F.getFrame s₁ = .ok frame) (hd : decode frame = .ok (some result))
    (hcb : callback (F.populateResult s₁ result) e = (e₁, none)) :
    frameLoop F decode callback s e =
      let p := frameLoop F decode callback (F.advanceFrame s₁) e₁
      { p with decoded := frame :: p.decoded } := by
  conv_lhs => rw [frameLoop, frameLoopFuel]
  simp only [hr, hc, hf, hd, hcb, if_true]
  rw [frameLoopFuel_enough _ _ _ (F.advance_shrinks s s₁ hc)]

/-- The decoder rejects `frame`, and the loop raises `x` for it: `decode`
raised `x`, or returned `None` and the loop raised `ModbusIOException`. -/
def Rejects (decode : Bytes → Except Exc (Option Pdu)) (frame : Bytes) (x : Exc) : Prop :=
  decode frame = .error x ∨ decode frame = .ok none ∧ x = .ioException "Unable to decode request"

/-- A frame the decoder rejects: the exception goes through before
`advance_frame`, and the framer keeps the frame. -/
theorem frameLoop_rejects {s s₁ : σ} {frame : Bytes} {x : Exc} (hr : F.isFrameReady s = true)
    (hc : F.checkFrame s = .ok true s₁) (hf : F.getFrame s₁ = .ok frame) (hd : Rejects decode frame x)
    (e : γ) : frameLoop F decode callback s e = ⟨s₁, e, [frame], [x]⟩ := by
  rcases hd with hd | ⟨hd, rfl⟩ <;> simp [frameLoop, frameLoopFuel, hr, hc, hf, hd]

/-- The buffer `process_incoming_packet` frames, when `add_to_frame` appends:
the data after what was there. -/
theorem buffer_added (hadd : ∀ s c, F.buffer (F.addToFrame s c) = F.buffer s ++ c) (s : σ)
    (data : Bytes) : F.buffer (if data = [] then s else F.addToFrame s data) = F.buffer s ++ data := by
  by_cases hd : data = [] <;> simp [hd, hadd]

/-- A property of the callback's state that every call of the callback keeps, a
pass keeps. -/
theorem frameLoopFuel_env {P : γ → Prop} (hP : ∀ x e, P e → P (callback x e).1) :
    ∀ (n : Nat) (s : σ) (e : γ), P e → P (frameLoopFuel F decode callback n s e).env
  | 0, _, _, he => he
  | n + 1, s, e, he => by
    simp only [frameLoopFuel]
    split <;> try exact he
    split <;> try exact he
    split <;> try exact he
    split <;> try exact he
    split <;> try exact he
    · rename_i hcb
      exact (congrArg (fun r => P r.1) hcb).mp (hP _ e he)
    · rename_i hcb
      exact frameLoopFuel_env hP n _ _ ((congrArg (fun r => P r.1) hcb).mp (hP _ e he))

theorem processIncomingPacket_env {P : γ → Prop} (hP : ∀ x e, P e → P (callback x e).1)
    (data : Bytes) (s : σ) {e : γ} (he : P e) :
    P (processIncomingPacket F decode callback data s e).env :=
  frameLoopFuel_env hP _ _ e he

end Modbus
