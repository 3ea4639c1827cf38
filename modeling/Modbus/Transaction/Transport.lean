import Modbus.Transaction.Manager

/-! # Modbus.Transaction.Transport — a client that follows a script

The statements about `execute` range over what the wire does. A client here
follows a script (`Scripted`): one `Plan` an attempt, moved on by `close()`, and
a read splitting, the most bytes each successive `receive(size)` returns. Every
behaviour of a peer that answers `receive(n)` with the next `1..n` bytes of a
stream, and of a link that may fail in `connect`, `send` or a read, is one
script.

* `Scripted.receive` — `recv(size)`: the next `min size cut` bytes of the
  attempt's data, then `b''` (`deliver`) or `socket.error` (`failReceive`);
* `readInto_data` — a read in either reading state, on data still to come, takes
  a non-empty beginning of it into the framer and costs no retry.
-/

namespace Modbus

/-- How one attempt goes on the wire. -/
inductive Plan where
  /-- `connect()` raises `socket.error`. -/
  | failConnect
  /-- `send(packet)` raises `socket.error`. -/
  | failSend
  /-- The reads return the bytes of `data`, then raise `socket.error`. -/
  | failReceive (data : Bytes)
  /-- The reads return the bytes of `data`, then `b''`. -/
  | deliver (data : Bytes)
  deriving DecidableEq, Repr

/-- The state of a scripted client: the plan of the current attempt, the plans
of the attempts after it, and the read splitting (a read with no cut left
returns all it is asked for). -/
structure Scripted where
  plan : Plan
  later : List Plan := []
  cuts : List Nat := []
  deriving DecidableEq, Repr

namespace Scripted

/-- A client that runs the attempts `plans`, in order, with read splitting `cuts`. -/
def ofPlans (plans : List Plan) (cuts : List Nat) : Scripted :=
  { plan := plans.headD (.deliver []), later := plans.tail, cuts := cuts }

/-- `connect()`. -/
def connect (w : Scripted) : EStateM.Result Exc Scripted Unit :=
  if w.plan = .failConnect then .error .socketError w else .ok () w

/-- `send(packet)`. -/
def send (w : Scripted) (_ : Bytes) : EStateM.Result Exc Scripted Unit :=
  if w.plan = .failSend then .error .socketError w else .ok () w

/-- The next `min size cut` bytes of `data`, the rest staying in plan `mk`. -/
def serve (w : Scripted) (size : Nat) (data : Bytes) (mk : Bytes → Plan) :
    EStateM.Result Exc Scripted Bytes :=
  let k := min size (w.cuts.headD size)
  .ok (data.take k) { w with plan := mk (data.drop k), cuts := w.cuts.tail }

/-- `recv(size)`: a negative size raises `ValueError`. -/
def receive (w : Scripted) (size : Int) : EStateM.Result Exc Scripted Bytes :=
  if size < 0 then .error .valueError w
  else match w.plan with
    | .deliver data => w.serve size.toNat data .deliver
    | .failReceive data => if data = [] then .error .socketError w
        else w.serve size.toNat data .failReceive
    | _ => .ok [] w

/-- `close()`: the next attempt follows the next plan. -/
def close (w : Scripted) : Scripted := ofPlans w.later w.cuts

end Scripted

/-- The scripted client's calls. -/
def scripted : ClientCalls Scripted :=
  ⟨Scripted.connect, Scripted.send, Scripted.receive, Scripted.close⟩

/-- The bytes a plan's reads return. -/
def Plan.data : Plan → Bytes
  | .failReceive data | .deliver data => data
  | _ => []

/-- The read splittings the `execute` theorems assume of the link: while data
remains, a read of `n > 0` bytes returns between one and `n` of the next bytes,
never none. -/
def Splitting (cuts : List Nat) : Prop := ∀ c ∈ cuts, 0 < c

theorem Splitting.tail {cuts : List Nat} (h : Splitting cuts) : Splitting cuts.tail :=
  fun c hc => h c (List.mem_of_mem_tail hc)

/-! ## Reads -/

section Reads

variable {σ τ : Type} {C : ManagerSetup σ τ Scripted}

/-- On data still to come, `recv(size)` for `size > 0` returns the next
`k = min size cut` bytes, at least one. -/
theorem receive_data {w : Scripted} {data : Bytes} {mk : Bytes → Plan}
    (hmk : mk = .deliver ∨ mk = .failReceive) (hw : w.plan = mk data) (hd : data ≠ [])
    {size : Int} (hs : 0 < size) :
    w.receive size = .ok (data.take (min size.toNat (w.cuts.headD size.toNat)))
      { w with plan := mk (data.drop (min size.toNat (w.cuts.headD size.toNat))),
               cuts := w.cuts.tail } := by
  rcases hmk with rfl | rfl <;>
    simp [Scripted.receive, hw, hd, Scripted.serve, not_lt.mpr hs.le]

theorem cut_pos {cuts : List Nat} (hc : Splitting cuts) {n : Nat} (hn : 0 < n) :
    0 < min n (cuts.headD n) := by
  cases cuts with
  | nil => simpa using hn
  | cons c cs => simpa using ⟨hn, hc c (List.mem_cons_self c cs)⟩

/-- A read in either reading state, on data still to come, takes `c`, a
non-empty beginning of the data of at most `size` bytes, into the framer; no
retry is spent and the state is kept. -/
theorem readInto_data (hC : C.client = scripted) {m : Manager σ τ Scripted}
    {data : Bytes} {mk : Bytes → Plan} (hmk : mk = .deliver ∨ mk = .failReceive)
    (hw : m.client.plan = mk data) (hd : data ≠ []) (hc : Splitting m.client.cuts)
    {size : Int} (hs : 0 < size) (retries : Nat) :
    ∃ c rest, c ≠ [] ∧ data = c ++ rest ∧ c.length ≤ size ∧
      readInto C retries size m = .ok (retries, size - c.length)
        { m with client := { m.client with plan := mk rest, cuts := m.client.cuts.tail },
                 framer := C.framer.addToFrame m.framer c } := by
  have hk := cut_pos hc (show 0 < size.toNat by omega)
  set k := min size.toNat (m.client.cuts.headD size.toNat)
  have hne : data.take k ≠ [] := by simp [hd]; omega
  refine ⟨data.take k, data.drop k, hne, (List.take_append_drop k data).symm, ?_, ?_⟩
  · simp only [List.length_take]; omega
  · simp only [readInto, ne_eq, hs.ne', not_false_eq_true, if_true, hC]
    rw [show scripted.receive = Scripted.receive from rfl, receive_data hmk hw hd hs]
    simp only [hne, false_and, if_false]

/-- A read after the data of a `failReceive` plan ran out raises `socket.error`
and changes nothing. -/
theorem readInto_dry (hC : C.client = scripted) {m : Manager σ τ Scripted}
    (hw : m.client.plan = .failReceive []) {size : Int} (hs : 0 < size) (retries : Nat) :
    readInto C retries size m = .error .socketError m := by
  simp [readInto, hs.ne', hC, scripted, Scripted.receive, hw, not_lt.mpr hs.le]

/-- A one-byte read, on data still to come, takes its first byte. -/
theorem readInto_one (hC : C.client = scripted) {m : Manager σ τ Scripted} {x : UInt8} {rest : Bytes}
    (hw : m.client.plan = .deliver (x :: rest)) (hc : Splitting m.client.cuts) (retries : Nat) :
    readInto C retries 1 m = .ok (retries, 0)
      { m with client := { m.client with plan := .deliver rest, cuts := m.client.cuts.tail },
               framer := C.framer.addToFrame m.framer [x] } := by
  obtain ⟨c, rest', hc0, hcr, hcl, hread⟩ :=
    readInto_data hC (.inl rfl) hw (List.cons_ne_nil x rest) hc Int.one_pos retries
  match c, hc0, hcl with
  | [y], _, _ =>
    obtain ⟨rfl, rfl⟩ := List.cons.inj hcr
    exact hread
  | _ :: _ :: _, _, hcl => simp at hcl; omega

end Reads

/-! ## Attempts -/

section Attempts

variable {σ τ : Type} {C : ManagerSetup σ τ Scripted}

/-- An attempt whose plan gets past `connect()` and `send()` runs
`handle_message_framing()` from `Initializing`. -/
theorem attempt_frames (hC : C.client = scripted) {m : Manager σ τ Scripted} {data : Bytes}
    (hw : m.client.plan = .deliver data ∨ m.client.plan = .failReceive data) {request : Pdu}
    (hreq : ∃ p, C.framer.buildPacket request = .ok p) (fuel : Nat) :
    attempt C fuel request m =
      (handleMessageFraming C fuel C.retries { m with state := some .initializing }).map afterFraming := by
  obtain ⟨p, hp⟩ := hreq
  have h₁ : m.client.plan ≠ .failConnect := by rcases hw with h | h <;> simp [h]
  have h₂ : m.client.plan ≠ .failSend := by rcases hw with h | h <;> simp [h]
  simp [attempt, hC, scripted, Scripted.connect, Scripted.send, h₁, h₂, hp]

/-- An attempt that gets through ends the loop of `execute`. -/
theorem executeLoop_of_attempt {m m' : Manager σ τ Scripted} {fuel n : Nat} {request : Pdu}
    (h : attempt C fuel request m = some (.ok () m')) :
    executeLoop C fuel request (n + 1) m = some (.ok () m') := by
  rw [executeLoop, h]

end Attempts

end Modbus
