import Modbus.Framer.Socket
import Modbus.Message.Factory

/-! # Modbus.Server.Async — the Twisted TCP and UDP servers

Both servers hand every request the framer decodes to `_execute`, which runs
it against the datastore, answers `SlaveFailure` when that raises, copies the
request's transaction and unit ids into the response, and sends it.

* `ModbusTcpProtocol` has a framer of its own per connection, made in
  `connection_made`, and `send` writes only a response that should respond;
* `ModbusUdpProtocol` has one framer for every peer, and `send` writes every
  response to the address of the datagram being framed.

What a request class does on `execute`, and the datastore it reads and writes,
are not among the sources: they are the parameter `exec`, which runs a request
on the store `δ` and returns the response, or the exception raised, with the
store it leaves. The store is threaded through every call, so that a request sees what the ones before it
wrote (`respondAll`). A TCP connection is modelled on its own, over the store
of its factory as the connection finds it.

* `serve_tcp` — over any sequence of request frames and any split of their
  bytes into `data_received` calls, the TCP server writes one packet per
  request whose response should respond, in order, each the response computed
  on the store the requests before left, with its request's transaction and
  unit ids;
* `udp_crosstalk` — the UDP server frames a peer's datagram together with
  what another peer left in the shared buffer;
* `serve_udp_jammed` — once the shared buffer holds a request packet the
  decoder rejects, the UDP server answers no peer again.
-/

namespace Modbus

open Bytes SocketFramer

section Execute

variable {δ : Type} (exec : Pdu → δ → EStateM.Result Exc δ Pdu)

/-- The response `_execute(request)` sends, and the store after it:
`request.execute(store[unit_id])`, or `request.do_exception(SlaveFailure)`
when the lookup or the execution raises, with the request's `transaction_id`
and `unit_id`. -/
def respond (request : Pdu) (store : δ) : Pdu × δ :=
  match exec request store with
  | .ok response store =>
    ({ response with transactionId := request.transactionId, unitId := request.unitId }, store)
  | .error _ store =>
    ({ doException request slaveFailure with
        transactionId := request.transactionId
        unitId := request.unitId }, store)

/-- The responses `_execute` sends for requests handled in turn, each on the
store the ones before left, and the store after the last. -/
def respondAll : List Pdu → δ → List Pdu × δ
  | [], store => ([], store)
  | request :: requests, store =>
    let r := respond exec request store
    let rs := respondAll requests r.2
    (r.1 :: rs.1, rs.2)

@[simp] theorem respond_transactionId (request : Pdu) (store : δ) :
    (respond exec request store).1.transactionId = request.transactionId := by
  unfold respond; split <;> rfl

@[simp] theorem respond_unitId (request : Pdu) (store : δ) :
    (respond exec request store).1.unitId = request.unitId := by
  unfold respond; split <;> rfl

/-- A store that raises: the `SlaveFailure` exception response to the request's
function code, with its ids, and the store as the failed call left it. -/
theorem respond_of_error {request : Pdu} {store store' : δ} {e : Exc}
    (h : exec request store = .error e store') :
    respond exec request store =
      ({ exceptionResponse request.functionCode slaveFailure with
          transactionId := request.transactionId, unitId := request.unitId }, store') := by
  simp [respond, h, doException]

/-- The response frames when the request's ids and function code fit their
formats and every response the store gives does: the `SlaveFailure` response
has the request's function code with the high bit set and one byte of payload. -/
theorem buildPacket_respond {request : Pdu} {u : Nat} (hu : request.unitId = .int u) (hu' : u < 256)
    (ht : request.transactionId < 65536) (hf : request.functionCode < 256) (store : δ)
    (hexec : ∀ r store', exec request store = .ok r store' →
      r.protocolId < 65536 ∧ r.functionCode < 256 ∧ r.encode.length + 2 < 65536) :
    ∃ q, SocketFramer.buildPacket (respond exec request store).1 = .ok q := by
  have hr : (respond exec request store).1.protocolId < 65536 ∧
      (respond exec request store).1.functionCode < 256 ∧
      (respond exec request store).1.encode.length + 2 < 65536 := by
    cases h : exec request store with
    | ok r _ => simpa [respond, h] using hexec r _ h
    | error e _ =>
      simpa [respond_of_error exec h, exceptionResponse] using exceptionResponse_functionCode_lt hf slaveFailure
  exact ⟨_, SocketFramer.buildPacket_ok (by rw [respond_unitId, hu]) hu' (by rwa [respond_transactionId])
    hr.1 hr.2.1 hr.2.2⟩

/-- The response to a request read off a built packet frames, when the decoded
function code and every response the store gives fit their formats. -/
theorem buildPacket_respond_handed {D : Bytes → Pdu} {P : Pdu} {p : Bytes}
    (hp : SocketFramer.buildPacket P = .ok p)
    (hD : (D (UInt8.ofNat P.functionCode :: P.encode)).functionCode < 256) (store : δ)
    (hexec : ∀ x store r store', exec x store = .ok r store' →
      r.protocolId < 65536 ∧ r.functionCode < 256 ∧ r.encode.length + 2 < 65536) :
    ∃ q, SocketFramer.buildPacket (respond exec (handed D P) store).1 = .ok q := by
  obtain ⟨u, hu, hu', ht, -⟩ := SocketFramer.buildPacket_eq_ok hp
  exact buildPacket_respond exec (show (handed D P).unitId = .int u from hu) hu' ht hD store (hexec _ _)

end Execute

/-- The packet `q` answers the request `P` with the response `R`: it is `R`
framed, and its MBAP header carries `P`'s transaction and unit ids. -/
def Answer (P R : Pdu) (q : Bytes) : Prop :=
  SocketFramer.buildPacket R = .ok q ∧
    (unpackHeader q).tid = P.transactionId ∧ UnitId.int (unpackHeader q).uid = P.unitId

/-- A framed response carries the ids of the request it answers. -/
theorem answer_respond {δ : Type} {exec : Pdu → δ → EStateM.Result Exc δ Pdu} {request : Pdu}
    {store : δ} {q : Bytes} (hq : SocketFramer.buildPacket (respond exec request store).1 = .ok q) :
    Answer request (respond exec request store).1 q := by
  have h := unpackHeader_of_buildPacket hq
  simp only [respond_transactionId, respond_unitId] at h
  exact ⟨hq, h⟩

/-! ## TCP -/

/-- What the calls of a TCP connection change besides its framer: the
factory's datastore, the packets written, and the control block's
`Counter.BusMessage`. -/
structure TcpOut (δ : Type) where
  store : δ
  written : List Bytes := []
  busMessages : Nat := 0

section Tcp

variable {δ : Type}

/-- `ModbusTcpProtocol.send(message)`: count and write the framed message if it
should respond. -/
def tcpSend (message : Pdu) (o : TcpOut δ) : TcpOut δ × Option Exc :=
  if message.shouldRespond then
    match SocketFramer.buildPacket message with
    | .ok pdu => ({ o with written := o.written ++ [pdu], busMessages := o.busMessages + 1 }, none)
    | .error e => ({ o with busMessages := o.busMessages + 1 }, some e)
  else (o, none)

/-- A response that frames, or should not respond, is sent without raising. -/
theorem tcpSend_snd {message : Pdu} (h : message.shouldRespond → ∃ q, SocketFramer.buildPacket message = .ok q)
    (o : TcpOut δ) : (tcpSend message o).2 = none := by
  unfold tcpSend
  split
  · obtain ⟨q, hq⟩ := h ‹_›
    simp [hq]
  · rfl

/-- `ModbusTcpProtocol._execute(request)`. -/
def tcpExecute (exec : Pdu → δ → EStateM.Result Exc δ Pdu) (request : Pdu) (o : TcpOut δ) :
    TcpOut δ × Option Exc :=
  let r := respond exec request o.store
  tcpSend r.1 { o with store := r.2 }

/-- The state of a TCP connection: its framer, and what its calls change
besides. -/
structure TcpProtocol (δ : Type) where
  framer : SocketFramer := {}
  out : TcpOut δ

/-- `connection_made()`: a fresh framer, over the factory's datastore `store`. -/
def TcpProtocol.connectionMade (store : δ) : TcpProtocol δ := { out := { store := store } }

@[simp] theorem TcpProtocol.connectionMade_framer (store : δ) :
    (TcpProtocol.connectionMade store).framer = {} := rfl

@[simp] theorem TcpProtocol.connectionMade_out (store : δ) :
    (TcpProtocol.connectionMade store).out = ⟨store, [], 0⟩ := rfl

/-- `data_received(data)` with `ListenOnly` given. -/
def TcpProtocol.dataReceived (decode : Bytes → Except Exc (Option Pdu))
    (exec : Pdu → δ → EStateM.Result Exc δ Pdu) (listenOnly : Bool) (p : TcpProtocol δ) (data : Bytes) :
    TcpProtocol δ × List Exc :=
  if listenOnly then (p, [])
  else
    let r := processIncomingPacket socketFramer decode (tcpExecute exec) data p.framer p.out
    (⟨r.framer, r.env⟩, r.raised)

/-- The `data_received` calls of a connection, one a chunk. -/
def TcpProtocol.receive (decode : Bytes → Except Exc (Option Pdu))
    (exec : Pdu → δ → EStateM.Result Exc δ Pdu) (listenOnly : Bool) :
    TcpProtocol δ → List Bytes → TcpProtocol δ × List Exc
  | p, [] => (p, [])
  | p, c :: cs =>
    let r₁ := p.dataReceived decode exec listenOnly c
    let r₂ := TcpProtocol.receive decode exec listenOnly r₁.1 cs
    (r₂.1, r₁.2 ++ r₂.2)

variable {decode : Bytes → Except Exc (Option Pdu)} {exec : Pdu → δ → EStateM.Result Exc δ Pdu}

/-- With `ListenOnly` off, a connection's `data_received` calls are the framing
of its chunks. -/
theorem receive_eq_feed : ∀ (p : TcpProtocol δ) (cs : List Bytes),
    TcpProtocol.receive decode exec false p cs =
      (⟨(feed socketFramer decode (tcpExecute exec) p.framer p.out cs).framer,
        (feed socketFramer decode (tcpExecute exec) p.framer p.out cs).env⟩,
       (feed socketFramer decode (tcpExecute exec) p.framer p.out cs).raised)
  | _, [] => rfl
  | p, c :: cs => by
    simp only [TcpProtocol.receive, TcpProtocol.dataReceived, Bool.false_eq_true, if_false,
      receive_eq_feed _ cs, feed_cons]

/-- Sending responses that all frame writes exactly their packets, in order:
each request is answered by its response on the store the ones before left,
and the store ends as `respondAll` leaves it. -/
theorem afterCallbacks_tcpExecute (requests : List Pdu) (o : TcpOut δ)
    (hsend : ∀ x ∈ requests, ∀ store, (respond exec x store).1.shouldRespond →
      ∃ q, SocketFramer.buildPacket (respond exec x store).1 = .ok q) :
    (afterCallbacks (tcpExecute exec) requests o).store = (respondAll exec requests o.store).2 ∧
    ∃ qs, (afterCallbacks (tcpExecute exec) requests o).written = o.written ++ qs ∧
      List.Forall₂ (fun pr q => Answer pr.1 pr.2 q)
        ((requests.zip (respondAll exec requests o.store).1).filter fun pr => pr.2.shouldRespond) qs := by
  induction requests generalizing o with
  | nil => exact ⟨rfl, [], by simp [afterCallbacks], .nil⟩
  | cons x xs ih =>
    have hxs := fun o' => ih o' fun y hy => hsend y (List.mem_cons_of_mem x hy)
    by_cases hr : (respond exec x o.store).1.shouldRespond
    · obtain ⟨q, hq⟩ := hsend x (List.mem_cons_self x xs) o.store hr
      obtain ⟨h₀, qs, h₁, h₂⟩ := hxs
        { o with
          store := (respond exec x o.store).2
          written := o.written ++ [q]
          busMessages := o.busMessages + 1 }
      refine ⟨by simpa [afterCallbacks, tcpExecute, tcpSend, hr, hq] using h₀, q :: qs,
        by simpa [afterCallbacks, tcpExecute, tcpSend, hr, hq] using h₁, ?_⟩
      simpa only [respondAll, List.zip_cons_cons, List.filter_cons, hr, if_true]
        using .cons (answer_respond hq) h₂
    · obtain ⟨h₀, qs, h₁, h₂⟩ := hxs { o with store := (respond exec x o.store).2 }
      refine ⟨by simpa [afterCallbacks, tcpExecute, tcpSend, hr] using h₀, qs,
        by simpa [afterCallbacks, tcpExecute, tcpSend, hr] using h₁, ?_⟩
      simpa only [respondAll, List.zip_cons_cons, List.filter_cons, hr] using h₂

/-- **The TCP server answers each request once, in order, with its ids.** On a
connection made over any store, with `ListenOnly` off, the packets
`build_packet` writes for requests `P₁ … Pₖ`, cut into `data_received` calls in
any way, each with a frame the decoder reads as `D`, are answered by exactly one
written packet for each request whose response should respond, in request
order: the response to the request on the store the requests before it left,
framed with the request's transaction and unit ids, also where the store raises
and the `SlaveFailure` response goes out (`respond_of_error`). The store ends
as the requests left it, and nothing is raised, as long as the decoded function
codes and the store's responses fit their formats. -/
theorem serve_tcp (decode : Bytes → Except Exc (Option Pdu)) (D : Bytes → Pdu)
    (exec : Pdu → δ → EStateM.Result Exc δ Pdu) (store : δ) (Ps : List Pdu) (pkts : List Bytes)
    (hpk : Ps.map SocketFramer.buildPacket = pkts.map .ok)
    (hdec : ∀ P ∈ Ps, decode (UInt8.ofNat P.functionCode :: P.encode) =
      .ok (some (D (UInt8.ofNat P.functionCode :: P.encode))))
    (hD : ∀ P ∈ Ps, (D (UInt8.ofNat P.functionCode :: P.encode)).functionCode < 256)
    (hexec : ∀ x store r store', exec x store = .ok r store' →
      r.protocolId < 65536 ∧ r.functionCode < 256 ∧ r.encode.length + 2 < 65536)
    (cs : List Bytes) (hcs : cs.flatten = pkts.flatten) :
    (TcpProtocol.receive decode exec false (.connectionMade store) cs).2 = [] ∧
    List.Forall₂ (fun pr q => Answer pr.1 pr.2 q)
      ((Ps.zip (respondAll exec (Ps.map (handed D)) store).1).filter fun pr => pr.2.shouldRespond)
      (TcpProtocol.receive decode exec false (.connectionMade store) cs).1.out.written ∧
    (TcpProtocol.receive decode exec false (.connectionMade store) cs).1.out.store =
      (respondAll exec (Ps.map (handed D)) store).2 := by
  have hsend : ∀ P ∈ Ps, ∀ s, ∃ q, SocketFramer.buildPacket (respond exec (handed D P) s).1 = .ok q := by
    intro P hP s
    obtain ⟨p, -, hp⟩ := List.mem_map.mp (hpk ▸ List.mem_map_of_mem SocketFramer.buildPacket hP)
    exact buildPacket_respond_handed exec hp.symm (hD P hP) s hexec
  obtain ⟨-, henv, hraised, -⟩ := feed_built decode D (tcpExecute exec) Ps pkts hpk hdec cs hcs {} rfl
    ⟨store, [], 0⟩ (quiet_of_forall (fun x hx o => by
      obtain ⟨P, hP, rfl⟩ := List.mem_map.mp hx
      exact tcpSend_snd (fun _ => hsend P hP o.store) _) _)
  obtain ⟨hst, qs, hw, hqs⟩ := afterCallbacks_tcpExecute (Ps.map (handed D)) ⟨store, [], 0⟩
    (by simpa using fun P hP s _ => hsend P hP s)
  rw [List.zip_map_left, List.filter_map, List.forall₂_map_left_iff] at hqs
  rw [receive_eq_feed, TcpProtocol.connectionMade_framer, TcpProtocol.connectionMade_out]
  exact ⟨hraised, by rwa [henv, hw, List.nil_append], henv ▸ hst⟩

/-- Request `00 07 00 00 00 06 01 03 00 00 00 01` (unit 1, function code 3),
delivered in two chunks to a store that raises: the `SlaveFailure` response
`00 07 00 00 00 03 01 83 04` is written. -/
theorem serve_tcp_slave_failure :
    (TcpProtocol.receive (fun _ => .ok (some { functionCode := 3 })) (fun _ s => .error .keyError s) false
      (.connectionMade ()) [[0, 7, 0], [0, 0, 6, 1, 3, 0, 0, 0, 1]]).2 = [] ∧
    (TcpProtocol.receive (fun _ => .ok (some { functionCode := 3 })) (fun _ s => .error .keyError s) false
      (.connectionMade ()) [[0, 7, 0], [0, 0, 6, 1, 3, 0, 0, 0, 1]]).1.out.written =
      [[0, 7, 0, 0, 0, 3, 1, 0x83, 4]] := by
  obtain ⟨h₁, h₂, -⟩ := serve_tcp (fun _ => .ok (some { functionCode := 3 })) (fun _ => { functionCode := 3 })
    (fun _ s => .error .keyError s) ()
    [{ functionCode := 3, transactionId := 7, unitId := .int 1, encode := [0, 0, 0, 1] }]
    [[0, 7, 0, 0, 0, 6, 1, 3, 0, 0, 0, 1]] (by decide) (by simp) (by simp) (fun _ _ _ _ h => nomatch h)
    [[0, 7, 0], [0, 0, 6, 1, 3, 0, 0, 0, 1]] (by decide)
  refine ⟨h₁, ?_⟩
  rcases h₂ with _ | ⟨⟨hq, -⟩, h₃⟩
  rw [List.forall₂_nil_left_iff.mp h₃]
  exact congrArg (· :: []) (Except.ok.inj (hq.symm.trans rfl)).symm

/-- One request packet on a connection made over `store`, cut into
`data_received` calls in any way: the response to it on `store` is written
once, and nothing is raised. -/
theorem receive_one {P : Pdu} {p : Bytes} (hp : SocketFramer.buildPacket P = .ok p) {D : Bytes → Pdu}
    (hdec : decode (UInt8.ofNat P.functionCode :: P.encode) =
      .ok (some (D (UInt8.ofNat P.functionCode :: P.encode))))
    (store : δ) (hr : (respond exec (handed D P) store).1.shouldRespond = true) {q : Bytes}
    (hq : SocketFramer.buildPacket (respond exec (handed D P) store).1 = .ok q) (cs : List Bytes)
    (hcs : cs.flatten = p) :
    (TcpProtocol.receive decode exec false (.connectionMade store) cs).2 = [] ∧
    (TcpProtocol.receive decode exec false (.connectionMade store) cs).1.out.written = [q] := by
  obtain ⟨-, henv, hraised, -⟩ := feed_built decode D (tcpExecute exec) [P] [p] (by simp [hp])
    (by simpa using hdec) cs (by simpa using hcs) {} rfl ⟨store, [], 0⟩
    ⟨tcpSend_snd (fun _ => ⟨q, hq⟩) _, trivial⟩
  rw [receive_eq_feed, TcpProtocol.connectionMade_framer, TcpProtocol.connectionMade_out]
  exact ⟨hraised, by simp [henv, afterCallbacks, tcpExecute, tcpSend, hr, hq]⟩

end Tcp

/-! ## UDP -/

/-- What the calls of a UDP server change besides its framer: its datastore,
the packets written, each with the address it went to, and the control block's
`Counter.BusMessage`. -/
structure UdpOut (δ : Type) where
  store : δ
  written : List (Nat × Bytes) := []
  busMessages : Nat := 0

section UdpModel

variable {δ : Type}

/-- `ModbusUdpProtocol.send(message, addr)`: count, frame and write every
message, with no look at `should_respond`. -/
def udpSend (message : Pdu) (addr : Nat) (o : UdpOut δ) : UdpOut δ × Option Exc :=
  match SocketFramer.buildPacket message with
  | .ok pdu => ({ o with written := o.written ++ [(addr, pdu)], busMessages := o.busMessages + 1 }, none)
  | .error e => ({ o with busMessages := o.busMessages + 1 }, some e)

/-- `ModbusUdpProtocol._execute(request, addr)`. -/
def udpExecute (exec : Pdu → δ → EStateM.Result Exc δ Pdu) (addr : Nat) (request : Pdu) (o : UdpOut δ) :
    UdpOut δ × Option Exc :=
  let r := respond exec request o.store
  udpSend r.1 addr { o with store := r.2 }

/-- The state of a `ModbusUdpProtocol`: the one framer every peer's datagrams go
through, and what its calls change besides. -/
structure UdpProtocol (δ : Type) where
  framer : SocketFramer := {}
  out : UdpOut δ

/-- `ModbusUdpProtocol(store)`: a fresh framer, over the datastore `store`. -/
def UdpProtocol.new (store : δ) : UdpProtocol δ := { out := { store := store } }

@[simp] theorem UdpProtocol.new_framer (store : δ) : (UdpProtocol.new store).framer = {} := rfl

@[simp] theorem UdpProtocol.new_out (store : δ) : (UdpProtocol.new store).out = ⟨store, [], 0⟩ := rfl

/-- `datagram_received(data, addr)` with `ListenOnly` given: the continuation
sends what it is handed to `addr`. -/
def UdpProtocol.datagramReceived (decode : Bytes → Except Exc (Option Pdu))
    (exec : Pdu → δ → EStateM.Result Exc δ Pdu) (listenOnly : Bool) (p : UdpProtocol δ) (data : Bytes)
    (addr : Nat) : UdpProtocol δ × List Exc :=
  if listenOnly then (p, [])
  else
    let r := processIncomingPacket socketFramer decode (udpExecute exec addr) data p.framer p.out
    (⟨r.framer, r.env⟩, r.raised)

/-- The `datagram_received` calls of a server, one a datagram and its sender. -/
def UdpProtocol.receive (decode : Bytes → Except Exc (Option Pdu))
    (exec : Pdu → δ → EStateM.Result Exc δ Pdu) (listenOnly : Bool) :
    UdpProtocol δ → List (Bytes × Nat) → UdpProtocol δ × List Exc
  | p, [] => (p, [])
  | p, (data, addr) :: ds =>
    let r₁ := p.datagramReceived decode exec listenOnly data addr
    let r₂ := UdpProtocol.receive decode exec listenOnly r₁.1 ds
    (r₂.1, r₁.2 ++ r₂.2)

/-- Where the two `send`s differ: a response that should not respond, and
frames, is written by the UDP server and not by the TCP server. -/
theorem send_not_shouldRespond {message : Pdu} (h : message.shouldRespond = false) {p : Bytes}
    (hp : SocketFramer.buildPacket message = .ok p) (addr : Nat) (o : TcpOut δ) (o' : UdpOut δ) :
    (tcpSend message o).1 = o ∧ (udpSend message addr o').1.written = o'.written ++ [(addr, p)] := by
  simp [tcpSend, udpSend, h, hp]

end UdpModel

section Udp

variable {δ : Type} {decode : Bytes → Except Exc (Option Pdu)} {D : Bytes → Pdu}
  {exec : Pdu → δ → EStateM.Result Exc δ Pdu}

/-- A datagram that is one request frame, on an empty buffer: the response on
the server's store is written to the sender, the store is left as the request
left it, and the buffer ends empty. -/
theorem datagramReceived_built {P : Pdu} {p : Bytes} (hp : SocketFramer.buildPacket P = .ok p)
    (hdec : decode (UInt8.ofNat P.functionCode :: P.encode) =
      .ok (some (D (UInt8.ofNat P.functionCode :: P.encode))))
    (u : UdpProtocol δ) (hu : u.framer.buffer = []) {q : Bytes}
    (hq : SocketFramer.buildPacket (respond exec (handed D P) u.out.store).1 = .ok q) (addr : Nat) :
    (u.datagramReceived decode exec false p addr).2 = [] ∧
    (u.datagramReceived decode exec false p addr).1.framer.buffer = [] ∧
    (u.datagramReceived decode exec false p addr).1.out.written = u.out.written ++ [(addr, q)] ∧
    (u.datagramReceived decode exec false p addr).1.out.store = (respond exec (handed D P) u.out.store).2 := by
  obtain ⟨-, henv, hraised, hbuf⟩ := feed_built decode D (udpExecute exec addr) [P] [p]
    (by simp [hp]) (by simpa using hdec) [p] rfl u.framer hu u.out
    ⟨by simp [udpExecute, udpSend, hq], trivial⟩
  simp only [feed, List.append_nil] at henv hraised hbuf
  simp only [UdpProtocol.datagramReceived, Bool.false_eq_true, if_false, hraised, hbuf, henv, true_and]
  simp [afterCallbacks, udpExecute, udpSend, hq]

/-- The run lemma: from an empty buffer, datagrams that are each one request
frame are answered, each to its sender, in order, each request on the store
the ones before left. -/
theorem receive_built {reqs : List (Pdu × Nat)} {dgs : List (Bytes × Nat)}
    (hpk : List.Forall₂ (fun r d => SocketFramer.buildPacket r.1 = .ok d.1 ∧ d.2 = r.2) reqs dgs)
    (hdec : ∀ r ∈ reqs, decode (UInt8.ofNat r.1.functionCode :: r.1.encode) =
      .ok (some (D (UInt8.ofNat r.1.functionCode :: r.1.encode))))
    (hD : ∀ r ∈ reqs, (D (UInt8.ofNat r.1.functionCode :: r.1.encode)).functionCode < 256)
    (hexec : ∀ x store r store', exec x store = .ok r store' →
      r.protocolId < 65536 ∧ r.functionCode < 256 ∧ r.encode.length + 2 < 65536)
    (u : UdpProtocol δ) (hu : u.framer.buffer = []) :
    (UdpProtocol.receive decode exec false u dgs).2 = [] ∧
    (UdpProtocol.receive decode exec false u dgs).1.out.store =
      (respondAll exec (reqs.map fun r => handed D r.1) u.out.store).2 ∧
    ∃ ws, (UdpProtocol.receive decode exec false u dgs).1.out.written = u.out.written ++ ws ∧
      List.Forall₂ (fun pr w => w.1 = pr.1.2 ∧ Answer pr.1.1 pr.2 w.2)
        (reqs.zip (respondAll exec (reqs.map fun r => handed D r.1) u.out.store).1) ws := by
  induction hpk generalizing u with
  | nil => exact ⟨rfl, rfl, [], by simp [UdpProtocol.receive], .nil⟩
  | @cons r d rs ds hrd _ ih =>
    obtain ⟨hp, hd⟩ := hrd
    obtain ⟨q, hq⟩ := buildPacket_respond_handed exec hp (hD r (List.mem_cons_self r rs)) u.out.store hexec
    obtain ⟨h₁, h₂, h₃, h₄⟩ := datagramReceived_built hp (hdec r (List.mem_cons_self r rs)) u hu hq d.2
    obtain ⟨i₁, i₂, ws, i₃, i₄⟩ := ih (fun r' h => hdec r' (List.mem_cons_of_mem r h))
      (fun r' h => hD r' (List.mem_cons_of_mem r h)) _ h₂
    rw [h₄] at i₂ i₄
    refine ⟨by simp [UdpProtocol.receive, h₁, i₁], i₂, (d.2, q) :: ws, by simp [UdpProtocol.receive, i₃, h₃],
      .cons ⟨hd, answer_respond hq⟩ i₄⟩

/-- **A UDP server whose peers send only whole request frames keeps them
apart.** When every datagram, from every address, is one request frame the
decoder reads as `D`, a server over any store answers every request to its
sender, in order, with the response on the store the requests before it left
and the request's transaction and unit ids; the store ends as the requests
left it, and nothing is raised, as long as the decoded function codes and the
store's responses fit their formats. Unlike the TCP server's, this holds of
every request, also of one whose response should not respond
(`send_not_shouldRespond`). -/
theorem serve_udp (decode : Bytes → Except Exc (Option Pdu)) (D : Bytes → Pdu)
    (exec : Pdu → δ → EStateM.Result Exc δ Pdu) (store : δ) (reqs : List (Pdu × Nat))
    (dgs : List (Bytes × Nat))
    (hpk : List.Forall₂ (fun r d => SocketFramer.buildPacket r.1 = .ok d.1 ∧ d.2 = r.2) reqs dgs)
    (hdec : ∀ r ∈ reqs, decode (UInt8.ofNat r.1.functionCode :: r.1.encode) =
      .ok (some (D (UInt8.ofNat r.1.functionCode :: r.1.encode))))
    (hD : ∀ r ∈ reqs, (D (UInt8.ofNat r.1.functionCode :: r.1.encode)).functionCode < 256)
    (hexec : ∀ x store r store', exec x store = .ok r store' →
      r.protocolId < 65536 ∧ r.functionCode < 256 ∧ r.encode.length + 2 < 65536) :
    (UdpProtocol.receive decode exec false (.new store) dgs).2 = [] ∧
    List.Forall₂ (fun pr w => w.1 = pr.1.2 ∧ Answer pr.1.1 pr.2 w.2)
      (reqs.zip (respondAll exec (reqs.map fun r => handed D r.1) store).1)
      (UdpProtocol.receive decode exec false (.new store) dgs).1.out.written ∧
    (UdpProtocol.receive decode exec false (.new store) dgs).1.out.store =
      (respondAll exec (reqs.map fun r => handed D r.1) store).2 := by
  obtain ⟨h₁, h₂, ws, h₃, h₄⟩ := receive_built hpk hdec hD hexec (.new store) rfl
  exact ⟨h₁, by simpa [h₃] using h₄, h₂⟩

/-- Two peers, 1 and 2, each send one read request (transactions 7 and 8, units
1 and 2) to a store that implements no function: each gets its own
`IllegalFunction` response. -/
theorem serve_udp_two_peers :
    (UdpProtocol.receive (fun _ => .ok (some { functionCode := 3 }))
      (fun _ s => .ok (exceptionResponse 3 illegalFunction) s) false (.new ())
      [([0, 7, 0, 0, 0, 6, 1, 3, 0, 0, 0, 1], 1), ([0, 8, 0, 0, 0, 6, 2, 3, 0, 0, 0, 1], 2)]).2 = [] ∧
    (UdpProtocol.receive (fun _ => .ok (some { functionCode := 3 }))
      (fun _ s => .ok (exceptionResponse 3 illegalFunction) s) false (.new ())
      [([0, 7, 0, 0, 0, 6, 1, 3, 0, 0, 0, 1], 1), ([0, 8, 0, 0, 0, 6, 2, 3, 0, 0, 0, 1], 2)]).1.out.written =
      [(1, [0, 7, 0, 0, 0, 3, 1, 0x83, 1]), (2, [0, 8, 0, 0, 0, 3, 2, 0x83, 1])] := by
  obtain ⟨h₁, h₂, -⟩ := serve_udp (fun _ => .ok (some { functionCode := 3 })) (fun _ => { functionCode := 3 })
    (fun _ s => .ok (exceptionResponse 3 illegalFunction) s) ()
    [({ functionCode := 3, transactionId := 7, unitId := .int 1, encode := [0, 0, 0, 1] }, 1),
     ({ functionCode := 3, transactionId := 8, unitId := .int 2, encode := [0, 0, 0, 1] }, 2)]
    [([0, 7, 0, 0, 0, 6, 1, 3, 0, 0, 0, 1], 1), ([0, 8, 0, 0, 0, 6, 2, 3, 0, 0, 0, 1], 2)]
    (.cons ⟨by decide, rfl⟩ (.cons ⟨by decide, rfl⟩ .nil)) (by simp) (by simp)
    (fun _ _ _ _ h => by cases h; decide)
  refine ⟨h₁, ?_⟩
  rcases h₂ with _ | @⟨-, w₁, -, -, ⟨ha₁, hq₁, -⟩, _ | @⟨-, w₂, -, -, ⟨ha₂, hq₂, -⟩, h₃⟩⟩
  rw [List.forall₂_nil_left_iff.mp h₃]
  exact congrArg₂ (· :: [·]) (Prod.ext ha₁ (Except.ok.inj (hq₁.symm.trans rfl)))
    (Prod.ext ha₂ (Except.ok.inj (hq₂.symm.trans rfl)))

end Udp

/-- **The UDP server frames one peer's datagram with another's leftovers.**
Peer 1 sends the MBAP header `00 09 00 00 00 06 01` alone; peer 2 then sends
the whole request `00 01 00 00 00 06 00 01 00 00 00 01` (transaction 1, unit 0,
function code 1). The shared framer reads peer 1's header over peer 2's first
five bytes, and the store (which implements no function) answers that frame
(function code 0) with `IllegalFunction`: peer 2 gets one packet, with
transaction id 9 and unit id 1, and seven of its bytes stay buffered. -/
theorem udp_crosstalk :
    UdpProtocol.receive (fun frame => .ok (some { functionCode := (frame.headD 0).toNat, encode := frame.tail }))
      (fun request s => .ok (exceptionResponse request.functionCode illegalFunction) s) false (.new ())
      [([0, 9, 0, 0, 0, 6, 1], 1), ([0, 1, 0, 0, 0, 6, 0, 1, 0, 0, 0, 1], 2)] =
    (⟨⟨[6, 0, 1, 0, 0, 0, 1], {}⟩, ⟨(), [(2, [0, 9, 0, 0, 0, 3, 1, 0x80, 1])], 1⟩⟩, []) :=
  rfl

/-! ## A request the decoder rejects -/

section Rejected

variable {decode : Bytes → Except Exc (Option Pdu)} {q : Bytes} {x : Exc}

/-- A datagram, from any peer, onto a shared buffer that stays a beginning of a
rejected request packet and what follows it: it is appended, nothing is
written, and all that is raised is the rejection. -/
theorem datagramReceived_rejected {δ : Type} (exec : Pdu → δ → EStateM.Result Exc δ Pdu) (hq : Built q)
    (hrej : Rejects decode (q.drop 7) x) {rest : Bytes} {u : UdpProtocol δ} {data : Bytes}
    (h : u.framer.buffer ++ data <+: q ++ rest) (addr : Nat) :
    (u.datagramReceived decode exec false data addr).1.out = u.out ∧
    (u.datagramReceived decode exec false data addr).1.framer.buffer = u.framer.buffer ++ data ∧
    ∀ y ∈ (u.datagramReceived decode exec false data addr).2, y = x := by
  have hbuf := buffer_added (F := socketFramer) (fun _ _ => rfl) u.framer data
  obtain ⟨h1, h2, -, h4⟩ := frameLoop_rejected (udpExecute exec addr) hq hrej (hbuf ▸ h) u.out
  simp only [UdpProtocol.datagramReceived, Bool.false_eq_true, if_false, processIncomingPacket]
  exact ⟨h1, h2.trans hbuf, h4⟩

/-- **One rejected request stops the UDP server for every peer.** When the
bytes of the datagrams a server receives, from any peers in any order, follow
what its shared buffer holds to make up a built request packet whose frame the
decoder rejects (`decode` raises, or returns `None`) and then anything at all,
the server writes nothing to anyone: every later request, whoever sends it, is
appended behind the rejected one, the buffer ends holding all of it, and each
call raises the rejection or nothing. A `ServerDecoder` rejects a bit read
request whose payload is not four bytes (`ServerDecoder.decode_malformed`). -/
theorem serve_udp_jammed {δ : Type} (decode : Bytes → Except Exc (Option Pdu))
    (exec : Pdu → δ → EStateM.Result Exc δ Pdu) {q : Bytes} (hq : Built q) {x : Exc}
    (hrej : Rejects decode (q.drop 7) x) (rest : Bytes) :
    ∀ (u : UdpProtocol δ) (dgs : List (Bytes × Nat)), u.framer.buffer ++ (dgs.map Prod.fst).flatten = q ++ rest →
      (UdpProtocol.receive decode exec false u dgs).1.out = u.out ∧
      (UdpProtocol.receive decode exec false u dgs).1.framer.buffer = q ++ rest ∧
      ∀ y ∈ (UdpProtocol.receive decode exec false u dgs).2, y = x
  | _, [], h => ⟨rfl, by simpa using h, by simp [UdpProtocol.receive]⟩
  | u, (data, addr) :: dgs, h => by
    have hu : u.framer.buffer ++ data ++ (dgs.map Prod.fst).flatten = q ++ rest := by simpa using h
    obtain ⟨h1, h2, h3⟩ := datagramReceived_rejected exec hq hrej ⟨_, hu⟩ addr
    obtain ⟨i1, i2, i3⟩ := serve_udp_jammed decode exec hq hrej rest _ dgs (by rw [h2, hu])
    simp only [UdpProtocol.receive, List.mem_append]
    exact ⟨i1.trans h1, i2, fun y hy => hy.elim (h3 y) (i3 y)⟩

/-- Peer 1 sends a `ReadCoils` request whose payload has a fifth byte, and peer 2
then a well-formed one: the server's decoder raises `struct.error` on the first,
and neither gets an answer. -/
theorem serve_udp_jammed_malformed_read :
    (UdpProtocol.receive (ServerDecoder.new [ReadCoilsRequest.cls, ReadDiscreteInputsRequest.cls]).decode
      (fun request s => .ok (IllegalFunctionRequest.execute request) s) false (.new ())
      [([0, 1, 0, 0, 0, 7, 1, 1, 0, 0, 0, 1, 0], 1), ([0, 2, 0, 0, 0, 6, 1, 1, 0, 0, 0, 1], 2)]).1.out =
      { store := () } :=
  (serve_udp_jammed (q := [0, 1, 0, 0, 0, 7, 1, 1, 0, 0, 0, 1, 0]) (x := .structError) _ _
    ⟨{ functionCode := 1, transactionId := 1, unitId := .int 1, encode := [0, 0, 0, 1, 0] }, by decide⟩
    (.inl (by decide)) [0, 2, 0, 0, 0, 6, 1, 1, 0, 0, 0, 1] (.new ()) _ (by decide)).1

end Rejected

end Modbus
