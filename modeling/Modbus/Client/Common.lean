import Modbus.Client.Async
import Modbus.Server.Async

/-! # Modbus.Client.Common — `ModbusClientMixin`, and a bit read from end to end

`ModbusClientMixin` builds a typed request and hands it to `execute`. Its bit
reads, `read_coils` and `read_discrete_inputs`, are modelled here; its other
methods build classes that are not among the sources.

With them the whole path of a read can be followed over TCP: the Twisted client
protocol writes the request packet; a Twisted TCP server frames it out of its
bytes however they arrive, decodes it with its `ServerDecoder`, executes it
against its datastore and writes the response; the client frames that, decodes
it with its `ClientDecoder`, and fires the request's `Deferred`. Each step is
proved where its code is modelled, and this module composes them:

* `execute_connected` — `execute` on a connected protocol writes the request's
  packet and files a new `Deferred` under its transaction id;
* `exchange_tcp` — one request and its answer, however the bytes of either
  direction are cut: the server writes the answer once, and the client fires
  the request's `Deferred` with what its decoder reads back;
* `readBits_round_trip` — **a bit read returns what the datastore answers**:
  the `Deferred` of a `read_coils` or `read_discrete_inputs` call is fired, once,
  with the request's transaction and unit ids and `bitReadReply`, the
  `IllegalValue` or `IllegalAddress` response of a failed check, or else the
  datastore's values padded with zeros to whole bytes;
* `illegalFunction_round_trip` — a request of a function code no class of
  `ServerDecoder.__function_table` has, other than 0 and `0x80`, is decoded by
  the server as an `IllegalFunctionRequest`, and its `Deferred` is fired with
  the `IllegalFunction` exception response, whatever classes the client's
  decoder knows.

The server's datastore is one slave context for every unit id (`single` mode):
what `ModbusServerContext` does with a unit id is not among the sources. The
server runs a request's `execute` on what its class's `decode` read
(`bitReadExecute`).
-/

namespace Modbus

open Bytes SocketFramer AsyncClient

/-- The request `read_coils` and `read_discrete_inputs` build, by function code:
`ReadCoilsRequest(address, count, unit=unit)` or
`ReadDiscreteInputsRequest(address, count, unit=unit)`. -/
def readBitsRequest (functionCode address count unit : Nat) : Pdu :=
  { ReadBitsRequestBase.toPdu functionCode ⟨address, count⟩ with unitId := .int unit }

namespace AsyncClient

/-- `read_coils(address, count, unit=unit)`; `count` is 1 where the caller
gives none. -/
def readCoils (c : AsyncClient) (address count unit : Nat) : EStateM.Result Exc AsyncClient Unit :=
  c.execute (readBitsRequest 1 address count unit)

/-- `read_discrete_inputs(address, count, unit=unit)`; `count` is 1 where the
caller gives none. -/
def readDiscreteInputs (c : AsyncClient) (address count unit : Nat) :
    EStateM.Result Exc AsyncClient Unit :=
  c.execute (readBitsRequest 2 address count unit)

end AsyncClient

/-- `request.execute(context)` on a server whose store is the one slave
context `context` (`single` mode), for the requests of the bit read classes:
the class's `execute` on the address and count its `decode` read, which its
`encode()` wrote back into the frame. Bit reads write nothing, so the context
is kept. Every other request (of a class not among the sources, or an
`IllegalFunctionRequest`) runs `other`. -/
def bitReadExecute (other : Pdu → BitContext → EStateM.Result Exc BitContext Pdu) (request : Pdu)
    (context : BitContext) : EStateM.Result Exc BitContext Pdu :=
  if request.functionCode = 1 ∨ request.functionCode = 2 then
    match ReadBitsRequestBase.decode ⟨0, 0⟩ request.encode with
    | .ok r =>
      .ok (match r.executeFor request.functionCode context with
        | .inl response => response
        | .inr response => ReadBitsResponseBase.toPdu request.functionCode response) context
    | .error e => .error e context
  else other request context

/-- What the client's decoder makes of the server's answer to a bit read: the
exception response of a check that fails, or the response of the datastore's
values read back, padded with zeros to whole bytes. -/
def bitReadReply (context : BitContext) (functionCode address count : Nat) : Pdu :=
  match ReadBitsRequestBase.executeFor functionCode ⟨address, count⟩ context with
  | .inl response => response
  | .inr response => ReadBitsResponseBase.toPdu functionCode
      ⟨some ((response.bits.length + 7) / 8),
        response.bits ++ List.replicate ((8 - response.bits.length % 8) % 8) false⟩

/-! ## The pieces -/

/-- `execute` on a connected protocol: the request gets the next transaction
id, its packet is written, and a new `Deferred` is filed under that id. -/
theorem execute_connected {c : AsyncClient} (hc : c.connected = true) {request : Pdu} {pkt : Bytes}
    (hp : buildPacket { request with transactionId := getNextTid c.tid } = .ok pkt) :
    c.execute request = .ok ()
      { c with tid := getNextTid c.tid, written := c.written ++ [pkt],
               requested := c.requested ++ [getNextTid c.tid],
               book := { c.book with
                 transactions := c.book.transactions.set (getNextTid c.tid) c.requested.length } } := by
  simp [execute, executeWith, hp, buildResponse, hc]

/-- On the server a bit read request runs as its class's `execute`, on the
address and count its frame carries. -/
theorem bitReadExecute_readBits (other : Pdu → BitContext → EStateM.Result Exc BitContext Pdu)
    (context : BitContext) {functionCode : Nat}
    (hfc : functionCode = 1 ∨ functionCode = 2) {r : ReadBitsRequestBase} (ha : r.address < 65536)
    (hc : r.count < 65536) {request : Pdu} (hf : request.functionCode = functionCode)
    (he : request.encode = (ReadBitsRequestBase.toPdu functionCode r).encode) :
    bitReadExecute other request context = .ok (match r.executeFor functionCode context with
      | .inl response => response
      | .inr response => ReadBitsResponseBase.toPdu functionCode response) context := by
  cases r
  simp [bitReadExecute, hf, hfc, he, ReadBitsRequestBase.toPdu, ReadBitsRequestBase.decode, be16_packH ha,
    be16_packH hc]

/-- What `execute` of a bit read request answers: an exception response when a
check fails, the datastore's values once both checks pass. -/
theorem executeFor_cases (functionCode : Nat) (r : ReadBitsRequestBase) (context : BitContext) :
    (∃ code < 256, r.executeFor functionCode context = .inl (exceptionResponse functionCode code)) ∨
    ((1 ≤ r.count ∧ r.count ≤ 0x7d0) ∧ r.executeFor functionCode context =
      .inr (.new (context.getValues functionCode r.address r.count))) := by
  unfold ReadBitsRequestBase.executeFor
  by_cases h₁ : 1 ≤ r.count ∧ r.count ≤ 0x7d0
  · by_cases h₂ : context.validate functionCode r.address r.count
    · exact .inr ⟨h₁, by simp [h₁, h₂]⟩
    · exact .inl ⟨illegalAddress, by decide, by simp [h₁, h₂]⟩
  · exact .inl ⟨illegalValue, by decide, by simp [h₁]⟩

/-- A reply carrying the transaction id a `Deferred` was just filed under fires
that `Deferred`. -/
theorem handleResponse_filed (b : Book) {tid d : Nat} {x : Pdu} (hx : x.transactionId = tid) :
    (handleResponse x { b with transactions := b.transactions.set tid d }).1.fired =
      b.fired ++ [(d, .reply x)] := by
  have hpop := TidDict.pop_set_self b.transactions tid d
  unfold handleResponse
  rw [hx]
  rcases h : (b.transactions.set tid d).pop tid with ⟨_ | d', t⟩ <;> rw [h] at hpop <;> cases hpop
  rfl

/-! ## From end to end -/

/-- **One exchange over TCP.** A connected client protocol with an empty buffer
executes a request whose packet builds; the server's decoder reads its frame as
`X`, `execute` answers `A` on the server's store, which should respond and whose
packet builds, and the client's decoder reads the answer's frame as `Y`. Then,
however the bytes of either direction are cut into `data_received` calls, the
server writes the one answer, the client fires the request's `Deferred`, and
only it, with `Y` and the request's transaction and unit ids, and neither side
raises. -/
theorem exchange_tcp {δ : Type} (decodeS decodeC : Bytes → Except Exc (Option Pdu))
    (exec : Pdu → δ → EStateM.Result Exc δ Pdu) (store : δ)
    (c : AsyncClient) (hc : c.connected = true) (hbuf : c.framer.buffer = []) {request : Pdu}
    {pkt : Bytes} (hp : buildPacket { request with transactionId := getNextTid c.tid } = .ok pkt) {X : Pdu}
    (hS : decodeS (UInt8.ofNat request.functionCode :: request.encode) = .ok (some X)) {A : Pdu} {store' : δ}
    (hA : exec (handed (fun _ => X) { request with transactionId := getNextTid c.tid }) store = .ok A store')
    (hsr : A.shouldRespond = true) {q : Bytes}
    (hq : buildPacket { A with transactionId := getNextTid c.tid, unitId := request.unitId } = .ok q)
    {Y : Pdu} (hC : decodeC (UInt8.ofNat A.functionCode :: A.encode) = .ok (some Y)) :
    ∃ c₁, c.execute request = .ok () c₁ ∧ c₁.written = c.written ++ [pkt] ∧
      ∀ cs : List Bytes, cs.flatten = pkt →
        (TcpProtocol.receive decodeS exec false (.connectionMade store) cs).2 = [] ∧
        (TcpProtocol.receive decodeS exec false (.connectionMade store) cs).1.out.written = [q] ∧
        ∀ ds : List Bytes, ds.flatten = q →
          (run decodeC c₁ (ds.map .dataReceived)).2 = [] ∧
          (run decodeC c₁ (ds.map .dataReceived)).1.book.fired =
            c.book.fired ++ [(c.requested.length, .reply
              { Y with transactionId := getNextTid c.tid, protocolId := A.protocolId,
                       unitId := request.unitId })] := by
  set R : Pdu := { A with transactionId := getNextTid c.tid, unitId := request.unitId }
  have hR : respond exec (handed (fun _ => X) { request with transactionId := getNextTid c.tid }) store =
      (R, store') := by
    simp only [respond, hA]
    rfl
  refine ⟨_, execute_connected hc hp, rfl, fun cs hcs => ?_⟩
  obtain ⟨h1, h2⟩ := receive_one hp hS store (by rw [hR]; exact hsr) (by rw [hR]; exact hq) cs hcs
  refine ⟨h1, h2, fun ds hds => ?_⟩
  obtain ⟨-, henv, hraised, -⟩ := feed_built _ (fun _ => Y) handleResponse [R] [q] (by simp [hq])
    (by simpa using hC) ds (by simpa using hds) _ hbuf _ (quiet_of_forall (fun _ _ _ => handleResponse_snd _ _) _)
  rw [run_dataReceived]
  refine ⟨hraised, ?_⟩
  simp only [henv, afterCallbacks, List.map_cons, List.map_nil, List.foldl_cons, List.foldl_nil]
  exact handleResponse_filed c.book rfl

/-- **A bit read returns what the datastore answers.** A connected client
protocol with an empty buffer calls `read_coils` or `read_discrete_inputs` for
any address and count that fit their `>HH` fields, against a server whose store
is a slave context that gives as many values as asked for, whatever its other
classes do: `execute` writes one packet. Whatever `data_received` calls a
connection to that server gets those bytes in, it writes one packet back and
raises nothing; and whatever `data_received` calls the client gets those bytes
in, it raises nothing and fires the request's `Deferred`, and only it, with the
request's transaction and unit ids and `bitReadReply`: the `IllegalValue`
response for a count outside `1 .. 0x7d0`, the `IllegalAddress` response for a
range the context does not validate, and otherwise the context's values,
padded with zeros to whole bytes. The decoders need only know the bit read
classes by their function code. -/
theorem readBits_round_trip (context : BitContext) (hvalues : ∀ fc a n, (context.getValues fc a n).length = n)
    (other : Pdu → BitContext → EStateM.Result Exc BitContext Pdu)
    (serverTable clientTable : List PduClass) {functionCode : Nat} (hfc : functionCode = 1 ∨ functionCode = 2)
    (hS : buildLookup serverTable functionCode = some (ReadBitsRequestBase.cls functionCode))
    (hC : buildLookup clientTable functionCode = some (ReadBitsResponseBase.cls functionCode))
    {address count unit : Nat} (ha : address < 65536) (hcount : count < 65536) (hu : unit < 256)
    (c : AsyncClient) (hc : c.connected = true) (hbuf : c.framer.buffer = []) :
    ∃ c₁ pkt, c.execute (readBitsRequest functionCode address count unit) = .ok () c₁ ∧
      c₁.written = c.written ++ [pkt] ∧
      ∀ cs : List Bytes, cs.flatten = pkt →
        ∃ resp,
          (TcpProtocol.receive (ServerDecoder.new serverTable).decode (bitReadExecute other) false
            (.connectionMade context) cs).2 = [] ∧
          (TcpProtocol.receive (ServerDecoder.new serverTable).decode (bitReadExecute other) false
            (.connectionMade context) cs).1.out.written = [resp] ∧
          ∀ ds : List Bytes, ds.flatten = resp →
            (run (ClientDecoder.new clientTable).decode c₁ (ds.map .dataReceived)).2 = [] ∧
            (run (ClientDecoder.new clientTable).decode c₁ (ds.map .dataReceived)).1.book.fired =
              c.book.fired ++ [(c.requested.length, .reply
                { bitReadReply context functionCode address count with
                  transactionId := getNextTid c.tid, unitId := .int unit })] := by
  have hf : functionCode < 256 := by omega
  have htid : getNextTid c.tid < 65536 := by rw [getNextTid_eq]; omega
  -- the request, and what the server makes of it
  have hP := buildPacket_ok
    (m := { readBitsRequest functionCode address count unit with transactionId := getNextTid c.tid })
    rfl hu htid (show 0 < 65536 by decide) hf (by simp [readBitsRequest, ReadBitsRequestBase.toPdu])
  have hX := ServerDecoder.decode_readBits (d := ServerDecoder.new serverTable) hf hS
    (show (⟨address, count⟩ : ReadBitsRequestBase).address < 65536 from ha) hcount
  have hA : bitReadExecute other (handed (fun _ => ReadBitsRequestBase.toPdu functionCode ⟨address, count⟩)
      { readBitsRequest functionCode address count unit with transactionId := getNextTid c.tid }) context = _ :=
    bitReadExecute_readBits other context hfc (r := ⟨address, count⟩) ha hcount rfl rfl
  -- the answer, and what the client makes of it
  obtain ⟨A, Y, hA, hsr, hpid, hfA, hlA, hY, hYR⟩ : ∃ A Y : Pdu,
      bitReadExecute other (handed (fun _ => ReadBitsRequestBase.toPdu functionCode ⟨address, count⟩)
        { readBitsRequest functionCode address count unit with transactionId := getNextTid c.tid }) context =
        .ok A context ∧
      A.shouldRespond = true ∧ A.protocolId = 0 ∧ A.functionCode < 256 ∧ A.encode.length + 2 < 65536 ∧
      (ClientDecoder.new clientTable).decode (UInt8.ofNat A.functionCode :: A.encode) = .ok (some Y) ∧
      { Y with transactionId := getNextTid c.tid, protocolId := A.protocolId, unitId := .int unit } =
        { bitReadReply context functionCode address count with
          transactionId := getNextTid c.tid, unitId := .int unit } := by
    rcases executeFor_cases functionCode ⟨address, count⟩ context with
      ⟨code, -, hx⟩ | ⟨hcheck, hx⟩
    · -- a check fails: the exception response goes back
      rw [hx] at hA
      exact ⟨_, _, hA, rfl, rfl, exceptionResponse_functionCode_lt hf code, by simp [exceptionResponse],
        ClientDecoder.decode_exception _ hf (by omega) code, by simp [bitReadReply, hx, exceptionResponse]⟩
    · -- the datastore answers
      rw [hx] at hA
      dsimp only at hA hcheck
      have hlen := hvalues functionCode address count
      refine ⟨_, _, hA, rfl, rfl, hf, by simp [ReadBitsResponseBase.toPdu, ReadBitsResponseBase.new, hlen]; omega,
        ClientDecoder.decode_readBits (show functionCode ≤ 0x80 by omega) hC (by omega), ?_⟩
      simp [bitReadReply, hx, ReadBitsResponseBase.toPdu, ReadBitsResponseBase.new]
  obtain ⟨c₁, h₁, h₂, h₃⟩ := exchange_tcp _ _ _ context c hc hbuf hP hX hA hsr
    (buildPacket_ok (m := { A with transactionId := getNextTid c.tid, unitId := .int unit }) rfl hu htid
      (by simp [hpid]) hfA hlA) hY
  exact ⟨c₁, _, h₁, h₂, fun cs hcs => ⟨_, (h₃ cs hcs).1, (h₃ cs hcs).2.1, fun ds hds =>
    ⟨((h₃ cs hcs).2.2 ds hds).1, by rw [((h₃ cs hcs).2.2 ds hds).2, ← hYR]; rfl⟩⟩⟩

/-- `read_coils(0x13, 3, unit=1)` on a fresh connected client, against a
context whose coils alternate: one packet is written for it. -/
theorem readCoils_round_trip_written :
    ∃ c₁ pkt, ({ connected := true } : AsyncClient).readCoils 0x13 3 1 = .ok () c₁ ∧ c₁.written = [] ++ [pkt] :=
  let ⟨c₁, pkt, h₁, h₂, _⟩ := readBits_round_trip
    ⟨fun _ _ _ => true, fun _ a n => (List.range n).map fun i => (a + i) % 2 == 1⟩ (fun _ _ _ => by simp)
    (fun request context => .ok (IllegalFunctionRequest.execute request) context)
    [ReadCoilsRequest.cls, ReadDiscreteInputsRequest.cls] [ReadCoilsResponse.cls, ReadDiscreteInputsResponse.cls]
    (.inl rfl) rfl rfl (by decide) (by decide) (by decide) { connected := true } rfl rfl
  ⟨c₁, pkt, h₁, h₂⟩

/-- **A function the server's table does not hold is answered with
`IllegalFunction`.** A connected client protocol with an empty buffer executes a
request whose packet builds, with a function code that no class of
`ServerDecoder.__function_table` has (`ServerDecoder.functionCodes`), and that
is neither 0 nor `0x80`. The server's decoder holds classes of that table's
function codes only (the real table, or the part of it among the sources), and
its `execute` runs, as Python dispatches on the class the decoder made, an
`IllegalFunctionRequest`'s `execute` on what the decoder made of such a code,
with the store lookup succeeding (`single` mode). Then whatever `data_received`
calls the server gets the bytes in, it writes one packet back and raises
nothing; whatever calls the client gets those bytes in, it raises nothing and
fires the request's `Deferred`, and only it, with the `IllegalFunction`
exception response to the request's function code and the request's
transaction and unit ids, whatever classes its own decoder knows. -/
theorem illegalFunction_round_trip {δ : Type} (serverTable clientTable : List PduClass)
    (hS : ∀ f ∈ serverTable, f.functionCode ∈ ServerDecoder.functionCodes)
    (exec : Pdu → δ → EStateM.Result Exc δ Pdu)
    (hexec : ∀ P store, P.functionCode ∉ ServerDecoder.functionCodes →
      exec P store = .ok (IllegalFunctionRequest.execute P) store)
    (store : δ) (c : AsyncClient) (hc : c.connected = true) (hbuf : c.framer.buffer = []) (request : Pdu)
    (hfc : request.functionCode ∉ ServerDecoder.functionCodes) (h0 : request.functionCode % 0x80 ≠ 0)
    {pkt : Bytes} (hp : buildPacket { request with transactionId := getNextTid c.tid } = .ok pkt) :
    ∃ c₁, c.execute request = .ok () c₁ ∧ c₁.written = c.written ++ [pkt] ∧
      ∀ cs : List Bytes, cs.flatten = pkt →
        ∃ resp,
          (TcpProtocol.receive (ServerDecoder.new serverTable).decode exec false (.connectionMade store)
            cs).2 = [] ∧
          (TcpProtocol.receive (ServerDecoder.new serverTable).decode exec false (.connectionMade store)
            cs).1.out.written = [resp] ∧
          ∀ ds : List Bytes, ds.flatten = resp →
            (run (ClientDecoder.new clientTable).decode c₁ (ds.map .dataReceived)).2 = [] ∧
            (run (ClientDecoder.new clientTable).decode c₁ (ds.map .dataReceived)).1.book.fired =
              c.book.fired ++ [(c.requested.length, .reply
                { exceptionResponse request.functionCode illegalFunction with
                  transactionId := getNextTid c.tid, unitId := request.unitId })] := by
  obtain ⟨u, hu, hu', ht, -, (hf : request.functionCode < 256), -, -⟩ := buildPacket_eq_ok hp
  -- no class of the server's table has the code: an `IllegalFunctionRequest`
  have hX := ServerDecoder.decode_unknown (d := ServerDecoder.new serverTable)
    (b := UInt8.ofNat request.functionCode)
    (by
      rw [toNat_ofNat_byte hf]
      exact buildLookup_eq_none fun f hf' h => hfc (h ▸ hS f hf')) request.encode
  rw [toNat_ofNat_byte hf] at hX
  -- its answer builds, and every client decoder reads it back
  obtain ⟨c₁, h₁, h₂, h₃⟩ := exchange_tcp _ _ _ store c hc hbuf hp hX (hexec _ store hfc) rfl
    (buildPacket_ok (m := { exceptionResponse request.functionCode illegalFunction with
      transactionId := getNextTid c.tid, unitId := request.unitId }) hu hu' ht (show 0 < 65536 by decide)
      (exceptionResponse_functionCode_lt hf illegalFunction) (show 1 + 2 < 65536 by decide))
    (ClientDecoder.decode_exception _ hf h0 illegalFunction)
  exact ⟨c₁, h₁, h₂, fun cs hcs => ⟨_, h₃ cs hcs⟩⟩

/-- Function code 9 belongs to no class of the server's table: its request,
on a fresh connected client, writes one packet, against a server holding the
bit read classes. -/
theorem unknownFunction_illegalFunction :
    ∃ c₁, ({ connected := true } : AsyncClient).execute { functionCode := 9, encode := [0, 1] } =
      .ok () c₁ ∧ c₁.written = [] ++ [[0, 1, 0, 0, 0, 4, 0, 9, 0, 1]] :=
  let ⟨c₁, h₁, h₂, _⟩ := illegalFunction_round_trip [ReadCoilsRequest.cls, ReadDiscreteInputsRequest.cls] []
    (by decide) (bitReadExecute fun request context => .ok (IllegalFunctionRequest.execute request) context)
    (fun P _ hP => if_neg fun h => hP (by rcases h with h | h <;> simp [h, ServerDecoder.functionCodes]))
    ⟨fun _ _ _ => true, fun _ _ n => List.replicate n false⟩ { connected := true } rfl rfl
    { functionCode := 9, encode := [0, 1] } (by decide) (by decide) rfl
  ⟨c₁, h₁, h₂⟩

end Modbus
