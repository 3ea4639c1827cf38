import Modbus.Framer.Socket
import Modbus.Transaction.Table
import Modbus.Message.Factory

/-! # Modbus.Client.Async — `ModbusClientProtocol` and `ModbusUdpClientProtocol`

The Twisted client protocol with its default socket framer, and so with a
`DictTransactionManager` whose table holds `Deferred`s:

* `execute(request)` gives the request the next transaction id, writes its
  packet, and returns a `Deferred` filed under that id (`_build_response`), or
  one failed at once when not connected;
* `data_received(data)` frames replies and fires the `Deferred` filed under each
  reply's id (`_handle_response`);
* `connection_lost(reason)` is to fail every `Deferred` still filed.

A `Deferred` is named by the order of its creation. What the protocol does to
them is logged (`Book.fired`), and the transaction id each was created for is
kept alongside (`AsyncClient.requested`), so that statements about firing are
statements about runs: any sequence of the protocol's four events (`Event`,
`step`, `run`).

* `Kept.holds_run` — only `_build_response` and `_handle_response` touch the
  book, so what the two keep holds over every run; `Book.Sound` is kept
  (`sound_kept`): over every run no `Deferred` fires twice, and one fires with a
  reply only when the reply carries its request's transaction id;
* `udpRun_fires_once` — the same over every run of `ModbusUdpClientProtocol`,
  whose `_build_response` files a `Deferred` without a `_connected` check;
* `run_delivers` — the converse of `sound_kept`: replies with distinct
  transaction ids, in any order and cut into `data_received` calls in any way,
  each fire the `Deferred` filed under their id, and nothing is raised;
* `step_connectionLost` — `connection_lost` raises `TypeError` in
  `list(self.transaction)`, since `DictTransactionManager.__iter__` returns
  `dict.keys()`, a view and not an iterator: no `Deferred` is failed, and the
  table is kept;
* `execute_displaced_never_fires` — `_build_response` files with dict
  assignment, so a request given a transaction id still filed (the counter
  wraps at `0x10000`) displaces that `Deferred`, which no later event fires
  (`Book.Lost` is kept);
* `udpRun_starved` — once the UDP client's framer holds a reply packet the
  decoder rejects, no `Deferred` is fired again.
-/

namespace Modbus

/-- How a `Deferred` was fired: `callback(reply)` or `errback(failure)`. -/
inductive Outcome where
  | reply (x : Pdu)
  | failure (e : Exc)
  deriving DecidableEq, Repr

/-- The protocol's transaction table, mapping transaction ids to the
`Deferred`s filed under them, and the firings of `Deferred`s so far, in order. -/
structure Book where
  transactions : TidDict Nat := TidDict.empty
  fired : List (Nat × Outcome) := []

/-- The state of a `ModbusClientProtocol`: `_connected`, the manager's `tid`
counter, the framer, the book, the transaction id each `Deferred` was created
for (by creation order), and the packets given to `transport.write`. -/
structure AsyncClient where
  connected : Bool := false
  tid : Nat := 0
  framer : SocketFramer := {}
  book : Book := {}
  requested : List Nat := []
  written : List Bytes := []

/-- The calls the protocol gets from Twisted and from its user. -/
inductive Event where
  | connectionMade
  | execute (request : Pdu)
  | dataReceived (data : Bytes)
  | connectionLost

namespace AsyncClient

/-- `connection_made()`. -/
def connectionMade (c : AsyncClient) : AsyncClient := { c with connected := true }

/-- `_handle_response(reply)`: pop the `Deferred` filed under the reply's id and
fire it with the reply; a reply nobody waits for is dropped. -/
def handleResponse (reply : Pdu) (b : Book) : Book × Option Exc :=
  match b.transactions.pop reply.transactionId with
  | (some d, t) => ({ transactions := t, fired := b.fired ++ [(d, .reply reply)] }, none)
  | (none, t) => ({ b with transactions := t }, none)

/-- `_build_response(tid)`: a new `Deferred`, failed at once with
`ConnectionException` when not connected, and otherwise filed under `tid` by
`add_transaction(d, tid)`, which replaces whatever was filed there. -/
def buildResponse (c : AsyncClient) (tid : Nat) : AsyncClient :=
  let d := c.requested.length
  let c := { c with requested := c.requested ++ [tid] }
  if c.connected then { c with book := { c.book with transactions := c.book.transactions.set tid d } }
  else
    { c with book := { c.book with
        fired := c.book.fired ++ [(d, .failure (.connectionException "Client is not connected"))] } }

@[simp] theorem buildResponse_requested (c : AsyncClient) (tid : Nat) :
    (c.buildResponse tid).requested = c.requested ++ [tid] := by
  simp only [buildResponse]; split <;> rfl

/-- `execute(request)` of either client protocol, with `build` its
`_build_response`: the request gets the next transaction id, its packet is
written, and the `Deferred` returned is the one `build` creates, the last of
`requested`. -/
def executeWith (build : AsyncClient → Nat → AsyncClient) (c : AsyncClient) (request : Pdu) :
    EStateM.Result Exc AsyncClient Unit :=
  let tid := getNextTid c.tid
  let c := { c with tid := tid }
  match SocketFramer.buildPacket { request with transactionId := tid } with
  | .error e => .error e c
  | .ok packet => .ok () (build { c with written := c.written ++ [packet] } tid)

/-- `ModbusClientProtocol.execute(request)`. -/
def execute (c : AsyncClient) (request : Pdu) : EStateM.Result Exc AsyncClient Unit :=
  executeWith buildResponse c request

/-- `data_received(data)`, with the client decoder `decode`. -/
def dataReceived (decode : Bytes → Except Exc (Option Pdu)) (c : AsyncClient) (data : Bytes) :
    AsyncClient × List Exc :=
  let p := processIncomingPacket socketFramer decode handleResponse data c.framer c.book
  ({ c with framer := p.framer, book := p.env }, p.raised)

/-- `list(self.transaction)` on a `DictTransactionManager`: its `__iter__`
returns `self.transactions.keys()`, a view and not an iterator, and `iter()`
raises `TypeError` on that. -/
def listTransactions (_ : TidDict Nat) : Except Exc (List Nat) := .error .typeError

/-- The loop of `connection_lost`: `get_transaction(tid).errback(...)` for each
listed `tid`; a `None` from `get_transaction` has no `errback`. -/
def errbackAll : List Nat → Book → Book × Option Exc
  | [], b => (b, none)
  | tid :: tids, b =>
    match b.transactions.pop tid with
    | (some d, t) => errbackAll tids
        { transactions := t,
          fired := b.fired ++ [(d, .failure (.connectionException "Connection lost during request"))] }
    | (none, t) => ({ b with transactions := t }, some .attributeError)

/-- `connection_lost(reason)`. -/
def connectionLost (c : AsyncClient) : EStateM.Result Exc AsyncClient Unit :=
  let c := { c with connected := false }
  match listTransactions c.book.transactions with
  | .error e => .error e c
  | .ok tids =>
    match errbackAll tids c.book with
    | (b, none) => .ok () { c with book := b }
    | (b, some e) => .error e { c with book := b }

end AsyncClient

open AsyncClient

/-- One event: the state after it, and what it raised. -/
def step (decode : Bytes → Except Exc (Option Pdu)) (c : AsyncClient) : Event → AsyncClient × List Exc
  | .connectionMade => (c.connectionMade, [])
  | .execute request =>
    match c.execute request with
    | .ok _ c => (c, [])
    | .error e c => (c, [e])
  | .dataReceived data => c.dataReceived decode data
  | .connectionLost =>
    match c.connectionLost with
    | .ok _ c => (c, [])
    | .error e c => (c, [e])

/-- A run: the events in order, each on the state the last one left. -/
def run (decode : Bytes → Except Exc (Option Pdu)) : AsyncClient → List Event → AsyncClient × List Exc
  | c, [] => (c, [])
  | c, ev :: evs =>
    let r₁ := step decode c ev
    let r₂ := run decode r₁.1 evs
    (r₂.1, r₁.2 ++ r₂.2)

/-! ## The book's invariant -/

/-- What the book of every run satisfies, given the transaction id each
`Deferred` was created for: no `Deferred` fired twice, every one fired was
created, the filed ones are distinct, unfired and filed under their own id, and
a reply went only to a `Deferred` created for its id. -/
structure Book.Sound (requested : List Nat) (b : Book) : Prop where
  fired_nodup : (b.fired.map Prod.fst).Nodup
  fired_lt : ∀ q ∈ b.fired, q.1 < requested.length
  filed_nodup : (b.transactions.1.map Prod.snd).Nodup
  filed : ∀ p ∈ b.transactions.1, p.2 ∉ b.fired.map Prod.fst ∧ requested[p.2]? = some p.1
  reply_tid : ∀ d x, (d, Outcome.reply x) ∈ b.fired → requested[d]? = some x.transactionId

namespace Book.Sound

variable {requested : List Nat} {b : Book}

theorem nil : Book.Sound [] {} :=
  ⟨List.nodup_nil, by simp, List.nodup_nil, by simp [TidDict.empty], by simp⟩

theorem filed_lt (h : b.Sound requested) {p : Nat × Nat} (hp : p ∈ b.transactions.1) :
    p.2 < requested.length :=
  (List.getElem?_eq_some_iff.mp (h.filed p hp).2).1

/-- Creating more `Deferred`s keeps the book sound. -/
theorem append (h : b.Sound requested) (more : List Nat) : b.Sound (requested ++ more) where
  fired_nodup := h.fired_nodup
  fired_lt q hq := by simpa using Nat.lt_add_right _ (h.fired_lt q hq)
  filed_nodup := h.filed_nodup
  filed p hp := ⟨(h.filed p hp).1, by rw [List.getElem?_append_left (h.filed_lt hp)]; exact (h.filed p hp).2⟩
  reply_tid d x hd := by
    have := h.reply_tid d x hd
    rwa [List.getElem?_append_left (List.getElem?_eq_some_iff.mp this).1]

end Book.Sound

section Steps

variable {decode : Bytes → Except Exc (Option Pdu)}

/-- Firing the `Deferred` filed under a reply's id keeps the book sound. -/
theorem handleResponse_sound {requested : List Nat} {b : Book} (h : b.Sound requested) (x : Pdu) :
    (handleResponse x b).1.Sound requested := by
  unfold handleResponse
  rcases hpop : b.transactions.pop x.transactionId with ⟨_ | d, t⟩
  · have ht := TidDict.pop_eq_none (show (b.transactions.pop x.transactionId).1 = none by rw [hpop])
    rw [hpop] at ht
    subst ht
    exact h
  · obtain ⟨l₁, l₂, hl, hrest⟩ :=
      TidDict.pop_eq_some (show (b.transactions.pop x.transactionId).1 = some d by rw [hpop])
    rw [hpop] at hrest
    have hmem : (x.transactionId, d) ∈ b.transactions.1 := by rw [hl]; simp
    have hnd : (d :: t.1.map Prod.snd).Nodup := by
      have := h.filed_nodup
      rw [hl, List.map_append, List.map_cons] at this
      rw [hrest, List.map_append]
      exact List.nodup_middle.mp this
    have hsub : ∀ p ∈ t.1, p ∈ b.transactions.1 := by
      intro p hp'; rw [hl]; rw [hrest] at hp'; simp only [List.mem_append, List.mem_cons] at hp' ⊢; tauto
    refine ⟨?_, ?_, ?_, ?_, ?_⟩
    · rw [List.map_append, List.nodup_append]
      exact ⟨h.fired_nodup, List.nodup_singleton _, by simpa using (h.filed _ hmem).1⟩
    · simp only [List.mem_append, List.mem_singleton]
      rintro q (hq | rfl)
      · exact h.fired_lt q hq
      · exact h.filed_lt hmem
    · exact (List.nodup_cons.mp hnd).2
    · intro p hp'
      refine ⟨?_, (h.filed p (hsub p hp')).2⟩
      simp only [List.map_append, List.map_cons, List.map_nil, List.mem_append, List.mem_singleton,
        not_or]
      refine ⟨(h.filed p (hsub p hp')).1, fun hpd => ?_⟩
      exact (List.nodup_cons.mp hnd).1 (hpd ▸ List.mem_map_of_mem Prod.snd hp')
    · simp only [List.mem_append, List.mem_singleton, Prod.mk.injEq, Outcome.reply.injEq]
      rintro d' x' (hd | ⟨rfl, rfl⟩)
      · exact h.reply_tid d' x' hd
      · exact (h.filed _ hmem).2

/-- A new `Deferred`, filed or failed at once, keeps the book sound. -/
theorem buildResponse_sound {c : AsyncClient} (h : c.book.Sound c.requested) (tid : Nat) :
    (c.buildResponse tid).book.Sound (c.buildResponse tid).requested := by
  have h' := h.append [tid]
  have hnew : c.requested.length ∉ c.book.fired.map Prod.fst := fun hm => by
    obtain ⟨q, hq, hq'⟩ := List.mem_map.mp hm
    exact absurd (h.fired_lt q hq) (by omega)
  by_cases hc : c.connected
  · simp only [buildResponse, hc, if_true]
    refine ⟨h'.fired_nodup, h'.fired_lt, ?_, ?_, h'.reply_tid⟩
    · exact nodup_values_setItems h.filed_nodup
        (fun hm => by
          obtain ⟨p, hp, hpe⟩ := List.mem_map.mp hm
          exact absurd (h.filed_lt hp) (by omega)) tid
    · intro p hp
      rcases mem_setItems hp with rfl | hp
      · exact ⟨hnew, by simp⟩
      · exact h'.filed p hp
  · simp only [buildResponse, hc, if_false, Bool.false_eq_true]
    refine ⟨?_, ?_, h'.filed_nodup, ?_, ?_⟩
    · rw [List.map_append, List.nodup_append]
      exact ⟨h.fired_nodup, List.nodup_singleton _, by simpa using hnew⟩
    · simp only [List.mem_append, List.mem_singleton, List.length_append, List.length_singleton]
      rintro q (hq | rfl)
      · exact Nat.lt_add_right 1 (h.fired_lt q hq)
      · exact Nat.lt_succ_self _
    · intro p hp
      refine ⟨?_, (h'.filed p hp).2⟩
      simp only [List.map_append, List.map_cons, List.map_nil, List.mem_append, List.mem_singleton, not_or]
      exact ⟨(h.filed p hp).1, by have := h.filed_lt hp; omega⟩
    · simp only [List.mem_append, List.mem_singleton, Prod.mk.injEq, reduceCtorEq, and_false, or_false]
      exact h'.reply_tid

/-- A property of the `Deferred`s created so far and of the book that
`_build_response` and `_handle_response` keep. Nothing else an event runs
touches the two, so such a property holds over every run (`Kept.holds_run`). -/
structure Kept (I : List Nat → Book → Prop) : Prop where
  build : ∀ c : AsyncClient, I c.requested c.book → ∀ tid,
    I (c.buildResponse tid).requested (c.buildResponse tid).book
  handle : ∀ requested b x, I requested b → I requested (handleResponse x b).1

variable {I : List Nat → Book → Prop}

/-- A pass of the framer fires only through `_handle_response`. -/
theorem Kept.holds_dataReceived (hI : Kept I) {c : AsyncClient} (h : I c.requested c.book)
    (data : Bytes) : I (c.dataReceived decode data).1.requested (c.dataReceived decode data).1.book :=
  processIncomingPacket_env (P := I c.requested) (fun x _ hb => hI.handle _ _ x hb) data c.framer h

/-- **Every event keeps a kept property.** -/
theorem Kept.holds_step (hI : Kept I) {c : AsyncClient} (h : I c.requested c.book) (ev : Event) :
    I (step decode c ev).1.requested (step decode c ev).1.book := by
  cases ev with
  | connectionMade | connectionLost => exact h
  | execute request =>
    simp only [step, AsyncClient.execute, AsyncClient.executeWith]
    split <;> rename_i heq <;> split at heq <;> cases heq
    · exact hI.build _ (by exact h) _
    · exact h
  | dataReceived data => exact hI.holds_dataReceived h data

/-- **Every run keeps a kept property.** -/
theorem Kept.holds_run (hI : Kept I) : ∀ (evs : List Event) (c : AsyncClient), I c.requested c.book →
    I (run decode c evs).1.requested (run decode c evs).1.book
  | [], _, h => h
  | ev :: evs, _, h => hI.holds_run evs _ (hI.holds_step h ev)

/-- The book's soundness is kept. -/
theorem sound_kept : Kept fun requested b => b.Sound requested :=
  ⟨fun _ h tid => buildResponse_sound h tid, fun _ _ x h => handleResponse_sound h x⟩

end Steps

/-- **No `Deferred` fires twice, and a reply goes only to its own request.**
Over every run of a fresh protocol (connections, requests, data carrying any
replies with any transaction ids in any order, and disconnects, interleaved in
any way), no `Deferred` is fired twice, and a `Deferred` is fired with a reply
only when the reply carries the transaction id `get_next_tid` gave its request. -/
theorem run_fires_once (decode : Bytes → Except Exc (Option Pdu)) (evs : List Event) :
    ((run decode {} evs).1.book.fired.map Prod.fst).Nodup ∧
    ∀ d x, (d, Outcome.reply x) ∈ (run decode {} evs).1.book.fired →
      (run decode {} evs).1.requested[d]? = some x.transactionId := by
  have h : (run decode {} evs).1.book.Sound (run decode {} evs).1.requested :=
    sound_kept.holds_run evs {} Book.Sound.nil
  exact ⟨h.fired_nodup, h.reply_tid⟩

/-! ## What the protocol delivers -/

/-- `_handle_response` never raises. -/
theorem handleResponse_snd (x : Pdu) (b : Book) : (handleResponse x b).2 = none := by
  unfold handleResponse
  split <;> rfl

/-- `_handle_response(reply)` takes the `Deferred` filed under the reply's id, if
any, out of the table and fires it with the reply. -/
theorem handleResponse_fst (x : Pdu) (b : Book) :
    (handleResponse x b).1 =
      { transactions := (b.transactions.pop x.transactionId).2
        fired := b.fired ++ ((b.transactions.lookup x.transactionId).map fun d => (d, .reply x)).toList } := by
  have hf := TidDict.pop_fst b.transactions x.transactionId
  unfold handleResponse
  rcases h : b.transactions.pop x.transactionId with ⟨_ | d, t⟩ <;> rw [h] at hf <;> simp [← hf]

/-- `_handle_response` on replies with distinct transaction ids fires, in the
replies' order, the `Deferred` filed under each one's id with that reply, and
drops the replies nobody waits for. -/
theorem afterCallbacks_handleResponse :
    ∀ (xs : List Pdu) (b : Book), (xs.map Pdu.transactionId).Nodup →
    (afterCallbacks handleResponse xs b).fired = b.fired ++
      xs.filterMap fun x => (b.transactions.lookup x.transactionId).map fun d => (d, .reply x)
  | [], _, _ => by simp [afterCallbacks]
  | x :: xs, b, hnd => by
    obtain ⟨hx, hnd⟩ := List.nodup_cons.mp hnd
    have hrest : xs.filterMap (fun y => ((b.transactions.pop x.transactionId).2.lookup y.transactionId).map
        fun d => (d, Outcome.reply y)) =
        xs.filterMap fun y => (b.transactions.lookup y.transactionId).map fun d => (d, .reply y) :=
      List.filterMap_congr fun y hy => by
        rw [TidDict.lookup_pop _ fun h => hx (by rw [← h]; exact List.mem_map_of_mem _ hy)]
    show (afterCallbacks handleResponse xs (handleResponse x b).1).fired = _
    rw [afterCallbacks_handleResponse xs _ hnd]
    simp only [handleResponse_fst, hrest, List.filterMap_cons]
    cases b.transactions.lookup x.transactionId <;> simp

/-- The client's `data_received` calls, one a chunk, are the framing of the
chunks with `_handle_response` as the callback. -/
theorem run_dataReceived (decode : Bytes → Except Exc (Option Pdu)) :
    ∀ (c : AsyncClient) (ds : List Bytes),
    run decode c (ds.map .dataReceived) =
      ({ c with framer := (feed socketFramer decode handleResponse c.framer c.book ds).framer,
                book := (feed socketFramer decode handleResponse c.framer c.book ds).env },
       (feed socketFramer decode handleResponse c.framer c.book ds).raised)
  | _, [] => rfl
  | c, d :: ds => by
    simp only [List.map_cons, run, step, dataReceived, run_dataReceived decode _ ds, feed_cons]

open SocketFramer in
/-- **Every reply reaches its own request.** A client protocol with an empty
buffer gets the packets of replies its decoder reads back, with distinct
transaction ids, in any order and cut into `data_received` calls in any way: it
raises nothing, ends with an empty buffer, and fires, in the order the replies
come, the `Deferred` filed under each reply's id with what the decoder made of
the reply and the reply's header; a reply nobody waits for is dropped. -/
theorem run_delivers (decode : Bytes → Except Exc (Option Pdu)) (D : Bytes → Pdu) (c : AsyncClient)
    (hbuf : c.framer.buffer = []) (Rs : List Pdu) (pkts : List Bytes)
    (hpk : Rs.map buildPacket = pkts.map .ok)
    (hdec : ∀ R ∈ Rs, decode (UInt8.ofNat R.functionCode :: R.encode) =
      .ok (some (D (UInt8.ofNat R.functionCode :: R.encode))))
    (hnd : (Rs.map Pdu.transactionId).Nodup) (cs : List Bytes) (hcs : cs.flatten = pkts.flatten) :
    (run decode c (cs.map .dataReceived)).2 = [] ∧
    (run decode c (cs.map .dataReceived)).1.framer.buffer = [] ∧
    (run decode c (cs.map .dataReceived)).1.book.fired = c.book.fired ++
      Rs.filterMap fun R => (c.book.transactions.lookup R.transactionId).map
        fun d => (d, .reply (handed D R)) := by
  obtain ⟨-, henv, hraised, hb⟩ := feed_built decode D handleResponse Rs pkts hpk hdec cs hcs c.framer hbuf
    c.book (quiet_of_forall (fun _ _ _ => handleResponse_snd _ _) _)
  rw [run_dataReceived]
  refine ⟨hraised, hb, ?_⟩
  rw [henv, afterCallbacks_handleResponse _ _ (by rw [List.map_map]; exact hnd), List.filterMap_map]
  rfl

/-- Two requests of a connected client are filed under transactions 1 and 2;
their replies come back the other way round, with a reply to transaction 7 in
between that nobody waits for, in three chunks cut across the packets: the
second `Deferred` fires first, then the first, each with its own reply. -/
theorem run_delivers_out_of_order :
    (run (ClientDecoder.new [ReadCoilsResponse.cls, ReadDiscreteInputsResponse.cls]).decode
      { connected := true, tid := 2, requested := [1, 2],
        book := { transactions := (TidDict.empty.set 1 0).set 2 1 } }
      [.dataReceived [0, 2, 0, 0], .dataReceived [0, 4, 0, 2, 1, 5, 0, 7, 0, 0, 0, 4, 0, 1, 1, 0, 0, 1, 0],
       .dataReceived [0, 0, 4, 0, 1, 1, 3]]).1.book.fired =
      [(1, .reply { functionCode := 2, transactionId := 2, encode := [1, 5] }),
       (0, .reply { functionCode := 1, transactionId := 1, encode := [1, 3] })] :=
  (run_delivers _ (fun frame => { functionCode := (frame.headD 0).toNat, encode := frame.tail }) _ rfl
    [{ functionCode := 2, transactionId := 2, encode := [1, 5] },
     { functionCode := 1, transactionId := 7, encode := [1, 0] },
     { functionCode := 1, transactionId := 1, encode := [1, 3] }]
    [[0, 2, 0, 0, 0, 4, 0, 2, 1, 5], [0, 7, 0, 0, 0, 4, 0, 1, 1, 0], [0, 1, 0, 0, 0, 4, 0, 1, 1, 3]]
    (by decide) (by decide) (by decide)
    [[0, 2, 0, 0], [0, 4, 0, 2, 1, 5, 0, 7, 0, 0, 0, 4, 0, 1, 1, 0, 0, 1, 0], [0, 0, 4, 0, 1, 1, 3]]
    (by decide)).2.2.trans (by decide)

/-! ## What the protocol loses -/

/-- `connection_lost` raises `TypeError` from every state before it fails any
`Deferred`: only `_connected` changes, and the table keeps every `Deferred`
still filed. -/
theorem step_connectionLost (decode : Bytes → Except Exc (Option Pdu)) (c : AsyncClient) :
    step decode c .connectionLost = ({ c with connected := false }, [.typeError]) := rfl

/-- While connected, a request given a transaction id already filed (the counter
wraps at `0x10000`, `getNextTid_eq`) displaces the `Deferred` filed there, which
is then neither filed nor fired. -/
theorem buildResponse_displaces {c : AsyncClient} (h : c.book.Sound c.requested)
    (hc : c.connected = true) {tid d : Nat} (hd : (tid, d) ∈ c.book.transactions.1) :
    d ∉ (c.buildResponse tid).book.transactions.1.map Prod.snd ∧
      d ∉ (c.buildResponse tid).book.fired.map Prod.fst := by
  simp only [buildResponse, hc, if_true]
  exact ⟨not_mem_values_setItems c.book.transactions.2 h.filed_nodup hd
    (by have := h.filed_lt hd; omega), (h.filed _ hd).1⟩

/-- A `Deferred` created but neither filed nor fired: no event can fire it any
more, since only `_handle_response` and `connection_lost` fire `Deferred`s, and
only filed ones. -/
structure Book.Lost (d : Nat) (requested : List Nat) (b : Book) : Prop where
  created : d < requested.length
  unfiled : d ∉ b.transactions.1.map Prod.snd
  unfired : d ∉ b.fired.map Prod.fst

theorem handleResponse_lost {d : Nat} {requested : List Nat} {b : Book} (h : b.Lost d requested)
    (x : Pdu) : (handleResponse x b).1.Lost d requested := by
  unfold handleResponse
  rcases hpop : b.transactions.pop x.transactionId with ⟨_ | d', t⟩
  · -- nothing filed under the reply's id: the table is as it was
    have ht := TidDict.pop_eq_none (show (b.transactions.pop x.transactionId).1 = none by rw [hpop])
    rw [hpop] at ht
    subst ht
    exact h
  · -- the `Deferred` fired is the one popped, which was filed
    obtain ⟨l₁, l₂, hl, hrest⟩ :=
      TidDict.pop_eq_some (show (b.transactions.pop x.transactionId).1 = some d' by rw [hpop])
    rw [hpop] at hrest
    have hd' : d' ≠ d := by
      rintro rfl; exact h.unfiled (by rw [hl, List.map_append, List.map_cons]; simp)
    refine ⟨h.created, fun hm => h.unfiled ?_, ?_⟩
    · rw [hrest, List.map_append] at hm
      rw [hl, List.map_append, List.map_cons]
      exact List.mem_append.mpr ((List.mem_append.mp hm).imp id (List.mem_cons_of_mem _))
    · simp only [List.map_append, List.map_cons, List.map_nil, List.mem_append, List.mem_singleton,
        not_or]
      exact ⟨h.unfired, hd'.symm⟩

theorem buildResponse_lost {d : Nat} {c : AsyncClient} (h : c.book.Lost d c.requested) (tid : Nat) :
    (c.buildResponse tid).book.Lost d (c.buildResponse tid).requested := by
  have hne : c.requested.length ≠ d := by have := h.created; omega
  have hlt : d < (c.requested ++ [tid]).length := by simpa using Nat.lt_add_right 1 h.created
  by_cases hc : c.connected
  · simp only [buildResponse, hc, if_true]
    refine ⟨hlt, fun hm => ?_, h.unfired⟩
    obtain ⟨p, hp, rfl⟩ := List.mem_map.mp hm
    rcases mem_setItems hp with rfl | hp
    · exact hne rfl
    · exact h.unfiled (List.mem_map_of_mem _ hp)
  · simp only [buildResponse, hc, if_false, Bool.false_eq_true]
    refine ⟨hlt, h.unfiled, ?_⟩
    simp only [List.map_append, List.map_cons, List.map_nil, List.mem_append, List.mem_singleton, not_or]
    exact ⟨h.unfired, hne.symm⟩

theorem lost_kept (d : Nat) : Kept (Book.Lost d) :=
  ⟨fun _ h tid => buildResponse_lost h tid, fun _ _ x h => handleResponse_lost h x⟩

/-- **A displaced `Deferred` is never fired.** On a connected protocol with a
sound book, `execute` gives a request the next transaction id, which wraps at
`0x10000`; when a `Deferred` is still filed under that id, the new one takes
its place, and whatever events come after, the displaced `Deferred` is never
fired, with a reply or with a failure. -/
theorem execute_displaced_never_fires (decode : Bytes → Except Exc (Option Pdu)) {c : AsyncClient}
    (h : c.book.Sound c.requested) (hc : c.connected = true) {request : Pdu} {q : Bytes}
    (hq : SocketFramer.buildPacket { request with transactionId := getNextTid c.tid } = .ok q)
    {d : Nat} (hd : (getNextTid c.tid, d) ∈ c.book.transactions.1) (evs : List Event) :
    d ∉ (run decode c (.execute request :: evs)).1.book.fired.map Prod.fst := by
  set c₁ : AsyncClient := { c with tid := getNextTid c.tid, written := c.written ++ [q] }
  have hstep : (step decode c (.execute request)).1 = c₁.buildResponse (getNextTid c.tid) := by
    simp [step, AsyncClient.execute, AsyncClient.executeWith, hq, c₁]
  obtain ⟨hunfiled, hunfired⟩ := buildResponse_displaces (c := c₁) h hc hd
  have hlost : (c₁.buildResponse (getNextTid c.tid)).book.Lost d
      (c₁.buildResponse (getNextTid c.tid)).requested := by
    exact ⟨by simpa using Nat.lt_add_right 1 (h.filed_lt hd), hunfiled, hunfired⟩
  show d ∉ (run decode (step decode c (.execute request)).1 evs).1.book.fired.map Prod.fst
  rw [hstep]
  exact ((lost_kept d).holds_run evs _ hlost).unfired

/-- A `Deferred` filed under transaction 0, which the counter gives after
`0xFFFF`: the next request displaces it, and the reply to transaction 0 that
comes fires the new `Deferred`, never the displaced one. -/
theorem execute_displaced_after_wrap :
    0 ∉ (run (fun _ => .ok (some { functionCode := 1 }))
      { connected := true, tid := 0xFFFF, book := { transactions := TidDict.empty.set 0 0 },
        requested := [0] }
      [.execute { functionCode := 1, encode := [0, 0, 0, 1] },
        .dataReceived [0, 0, 0, 0, 0, 4, 0, 1, 1, 1]]).1.book.fired.map Prod.fst :=
  by
  refine execute_displaced_never_fires _ ⟨by decide, by simp, by decide, by decide, by simp⟩ rfl
    (q := [0, 0, 0, 0, 0, 6, 0, 1, 0, 0, 0, 1]) ?_ (by decide) _
  rfl

/-- A request on a connection that is then lost: `connection_lost` raises
`TypeError`, and the request's `Deferred` is never fired and stays filed. -/
theorem connectionLost_keeps_deferred :
    run (fun _ => .ok none) {}
        [.connectionMade, .execute { functionCode := 1, encode := [0, 0, 0, 1] }, .connectionLost] =
      ({ tid := 1, book := { transactions := TidDict.empty.set 1 0 }, requested := [1],
         written := [[0, 1, 0, 0, 0, 6, 0, 1, 0, 0, 0, 1]] }, [.typeError]) := rfl

/-! ## The UDP client -/

/-- The calls a `ModbusUdpClientProtocol` gets: `execute` from its user, and
`datagram_received` from Twisted. -/
inductive UdpEvent where
  | execute (request : Pdu)
  | datagramReceived (data : Bytes)

namespace AsyncClient

/-- `ModbusUdpClientProtocol._build_response(tid)`: a new `Deferred`, filed under
`tid` by `add_transaction(d, tid)`; there is no `_connected` check. -/
def buildUdpResponse (c : AsyncClient) (tid : Nat) : AsyncClient :=
  let d := c.requested.length
  { c with requested := c.requested ++ [tid],
           book := { c.book with transactions := c.book.transactions.set tid d } }

/-- `ModbusUdpClientProtocol.execute(request)`. -/
def executeUdp (c : AsyncClient) (request : Pdu) : EStateM.Result Exc AsyncClient Unit :=
  executeWith buildUdpResponse c request

/-- `ModbusUdpClientProtocol.datagram_received(data, params)`: the same framing as
`data_received`, whatever the sender. -/
def datagramReceived (decode : Bytes → Except Exc (Option Pdu)) (c : AsyncClient) (data : Bytes) :
    AsyncClient × List Exc :=
  c.dataReceived decode data

/-- Where the two `_build_response`s differ: the UDP client's files the
`Deferred` as the TCP client's does on a connected protocol, also when it is not
connected. -/
theorem buildUdpResponse_eq (c : AsyncClient) (tid : Nat) :
    c.buildUdpResponse tid = { ({ c with connected := true }.buildResponse tid) with connected := c.connected } :=
  rfl

end AsyncClient

open AsyncClient

/-- One event of the UDP client. -/
def udpStep (decode : Bytes → Except Exc (Option Pdu)) (c : AsyncClient) : UdpEvent → AsyncClient × List Exc
  | .execute request =>
    match c.executeUdp request with
    | .ok _ c => (c, [])
    | .error e c => (c, [e])
  | .datagramReceived data => c.datagramReceived decode data

/-- A run of the UDP client. -/
def udpRun (decode : Bytes → Except Exc (Option Pdu)) : AsyncClient → List UdpEvent → AsyncClient × List Exc
  | c, [] => (c, [])
  | c, ev :: evs =>
    let r₁ := udpStep decode c ev
    let r₂ := udpRun decode r₁.1 evs
    (r₂.1, r₁.2 ++ r₂.2)

section Udp

variable {decode : Bytes → Except Exc (Option Pdu)} {I : List Nat → Book → Prop}

/-- The UDP client's `_build_response` is the TCP client's on a connected
protocol, so it keeps what that keeps. -/
theorem Kept.buildUdp (hI : Kept I) (c : AsyncClient) (h : I c.requested c.book) (tid : Nat) :
    I (c.buildUdpResponse tid).requested (c.buildUdpResponse tid).book :=
  hI.build { c with connected := true } h tid

/-- Every event of the UDP client keeps a kept property. -/
theorem Kept.holds_udpStep (hI : Kept I) {c : AsyncClient} (h : I c.requested c.book) (ev : UdpEvent) :
    I (udpStep decode c ev).1.requested (udpStep decode c ev).1.book := by
  cases ev with
  | execute request =>
    simp only [udpStep, AsyncClient.executeUdp, AsyncClient.executeWith]
    split <;> rename_i heq <;> split at heq <;> cases heq
    · exact hI.buildUdp _ (by exact h) _
    · exact h
  | datagramReceived data => exact hI.holds_dataReceived h data

theorem Kept.holds_udpRun (hI : Kept I) : ∀ (evs : List UdpEvent) (c : AsyncClient),
    I c.requested c.book → I (udpRun decode c evs).1.requested (udpRun decode c evs).1.book
  | [], _, h => h
  | ev :: evs, _, h => hI.holds_udpRun evs _ (hI.holds_udpStep h ev)

end Udp

/-- **The UDP client, too, fires no `Deferred` twice, and a reply only to its
own request.** Over every run of a fresh `ModbusUdpClientProtocol` (requests and
datagrams carrying any replies in any order, from any sender), no `Deferred` is
fired twice, and one is fired with a reply only when the reply carries the
transaction id `get_next_tid` gave its request. -/
theorem udpRun_fires_once (decode : Bytes → Except Exc (Option Pdu)) (evs : List UdpEvent) :
    ((udpRun decode {} evs).1.book.fired.map Prod.fst).Nodup ∧
    ∀ d x, (d, Outcome.reply x) ∈ (udpRun decode {} evs).1.book.fired →
      (udpRun decode {} evs).1.requested[d]? = some x.transactionId := by
  have h : (udpRun decode {} evs).1.book.Sound (udpRun decode {} evs).1.requested :=
    sound_kept.holds_udpRun evs {} Book.Sound.nil
  exact ⟨h.fired_nodup, h.reply_tid⟩

/-! ## A reply the decoder rejects -/

/-- The bytes an event of the UDP client hands its framer. -/
def UdpEvent.data : UdpEvent → Bytes
  | .execute _ => []
  | .datagramReceived data => data

section Rejected

variable {decode : Bytes → Except Exc (Option Pdu)} {q : Bytes} {x : Exc}

open SocketFramer in
/-- Data onto a buffer that stays a beginning of a rejected reply packet and
what follows it: appended, and no `Deferred` is fired. -/
theorem dataReceived_rejected (hq : Built q) (hrej : Rejects decode (q.drop 7) x) {rest : Bytes}
    {c : AsyncClient} {data : Bytes} (h : c.framer.buffer ++ data <+: q ++ rest) :
    (c.dataReceived decode data).1.book = c.book ∧
    (c.dataReceived decode data).1.framer.buffer = c.framer.buffer ++ data := by
  have hbuf := buffer_added (F := socketFramer) (fun _ _ => rfl) c.framer data
  obtain ⟨h1, h2, -⟩ := frameLoop_rejected handleResponse hq hrej (hbuf ▸ h) c.book
  exact ⟨h1, h2.trans hbuf⟩

/-- A request of the UDP client keeps the framer and fires nothing. -/
theorem udpStep_execute (decode : Bytes → Except Exc (Option Pdu)) (c : AsyncClient) (request : Pdu) :
    (udpStep decode c (.execute request)).1.framer = c.framer ∧
    (udpStep decode c (.execute request)).1.book.fired = c.book.fired := by
  simp only [udpStep, executeUdp, executeWith]
  split <;> rename_i heq <;> split at heq <;> cases heq <;> exact ⟨rfl, rfl⟩

end Rejected

/-- **One rejected reply starves the UDP client for good.** Over every run of a
`ModbusUdpClientProtocol`, requests and datagrams interleaved in any way, in
which the bytes of the datagrams follow what the framer holds to make up a
built reply packet whose frame the decoder rejects (`decode` raises, or returns
`None`) and then anything at all, no `Deferred` is fired: every later reply,
also one to a request of the run, is appended behind the rejected one, and the
buffer ends holding all of it. A `ClientDecoder` rejects a reply whose function
code it does not know (`ClientDecoder.decode_unknown`), and the exception
response to function code 0 or `0x80` (`ClientDecoder.decode_exceptionResponse`). -/
theorem udpRun_starved (decode : Bytes → Except Exc (Option Pdu)) {q : Bytes} (hq : SocketFramer.Built q)
    {x : Exc} (hrej : Rejects decode (q.drop 7) x) (rest : Bytes) :
    ∀ (c : AsyncClient) (evs : List UdpEvent), c.framer.buffer ++ (evs.map UdpEvent.data).flatten = q ++ rest →
      (udpRun decode c evs).1.book.fired = c.book.fired ∧ (udpRun decode c evs).1.framer.buffer = q ++ rest
  | _, [], h => ⟨rfl, by simpa using h⟩
  | c, .execute request :: evs, h => by
    obtain ⟨h1, h2⟩ := udpStep_execute decode c request
    obtain ⟨i1, i2⟩ := udpRun_starved decode hq hrej rest (udpStep decode c (.execute request)).1 evs
      (by simpa [h1, UdpEvent.data] using h)
    exact ⟨i1.trans h2, i2⟩
  | c, .datagramReceived data :: evs, h => by
    have hc : c.framer.buffer ++ data ++ (evs.map UdpEvent.data).flatten = q ++ rest := by
      simpa [UdpEvent.data] using h
    obtain ⟨h1, h2⟩ := dataReceived_rejected hq hrej ⟨_, hc⟩
    obtain ⟨i1, i2⟩ := udpRun_starved decode hq hrej rest (c.dataReceived decode data).1 evs
      (by rw [h2, hc])
    exact ⟨i1.trans (congrArg Book.fired h1), i2⟩

/-- A fresh UDP client asks for three coils (transaction 1); a reply with the
unknown function code `0x41` comes first, then the right reply: the second is
never read, and the request's `Deferred` is never fired. -/
theorem udpRun_starved_unknown_reply :
    (udpRun (ClientDecoder.new [ReadCoilsResponse.cls, ReadDiscreteInputsResponse.cls]).decode {}
      [.execute (ReadBitsRequestBase.toPdu 1 ⟨0, 3⟩), .datagramReceived [0, 1, 0, 0, 0, 3, 0, 0x41, 0],
       .datagramReceived [0, 1, 0, 0, 0, 4, 0, 1, 1, 3]]).1.book.fired = [] :=
  (udpRun_starved (q := [0, 1, 0, 0, 0, 3, 0, 0x41, 0]) (x := .ioException "Unable to decode request") _
    ⟨{ functionCode := 0x41, transactionId := 1, encode := [0] }, by decide⟩ (.inr ⟨by decide, rfl⟩)
    [0, 1, 0, 0, 0, 4, 0, 1, 1, 3] {} _ (by decide)).1

end Modbus
