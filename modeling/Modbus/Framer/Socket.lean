import Modbus.Framer.Stream

/-! # Modbus.Framer.Socket — `ModbusSocketFramer`, the MBAP framer

Every TCP message is preceded by a seven-byte MBAP header
`>HHHB` = `{tid, pid, len, uid}`, where `len` counts the unit id, the function
code and the data. The framer

* reads the header once seven bytes are buffered (`checkFrame`), skips a header
  whose `len` is below 2, and accepts once `len - 1` bytes follow it;
* hands `buffer[7 : 7 + len - 1]`, the function code and data, to the decoder
  (`getFrame`), copies `tid`, `pid` and `uid` into the result
  (`populateResult`), and drops the frame (`advanceFrame`);
* writes `>HHHBB` then the payload (`buildPacket`).

`socket_reads` proves the framing facts of `Modbus.Framer.Stream` for packets
`buildPacket` writes, and `feed_socket` is the resulting transparency theorem:
any chunking of any sequence of built packets is framed back into exactly those
messages, with their header fields restored. `processIncomingPacket_bad_header`
shows what a header with `len < 2` does to a pass: it is dropped, and the pass
ends there. `frameLoop_rejected` shows what a packet whose frame the decoder
rejects does: the exception is raised before `advance_frame`, and every later
pass meets the same packet.
-/

namespace Modbus

open Bytes

/-- The MBAP header dictionary `{'tid', 'pid', 'len', 'uid'}`. -/
structure MbapHeader where
  tid : Nat := 0
  pid : Nat := 0
  len : Nat := 0
  uid : Nat := 0
  deriving DecidableEq, Repr

/-- The state of a `ModbusSocketFramer`. -/
structure SocketFramer where
  buffer : Bytes := []
  header : MbapHeader := {}
  deriving DecidableEq, Repr

namespace SocketFramer

/-- `struct.unpack('>HHHB', buffer[0:7])`, on a buffer of at least seven bytes. -/
def unpackHeader : Bytes → MbapHeader
  | t₀ :: t₁ :: p₀ :: p₁ :: l₀ :: l₁ :: u :: _ => ⟨be16 t₀ t₁, be16 p₀ p₁, be16 l₀ l₁, u.toNat⟩
  | _ => {}

/-- `get_frame_size()`: `header_size + max(0, len - 1)`. -/
def getFrameSize (s : SocketFramer) : Nat := 7 + (s.header.len - 1)

/-- `advance_frame()`: drop the current frame and reset the header. -/
def advanceFrame (s : SocketFramer) : SocketFramer :=
  { buffer := s.buffer.drop s.getFrameSize, header := {} }

/-- The framer with its header read from the buffer. -/
def withHeader (s : SocketFramer) : SocketFramer := { s with header := unpackHeader s.buffer }

/-- `check_frame()`: parse the header once seven bytes are in; a `len` below 2
is skipped with `advance_frame()`; true once the whole frame is buffered. -/
def checkFrame (s : SocketFramer) : EStateM.Result Exc SocketFramer Bool :=
  if 7 ≤ s.buffer.length then
    if s.withHeader.header.len < 2 then .ok false s.withHeader.advanceFrame
    else if s.withHeader.header.len ≤ s.buffer.length - 7 + 1 then .ok true s.withHeader
    else .ok false s.withHeader
  else .ok false s

/-- `header_size`. -/
def headerSize : Nat := 7

/-- `get_frame()`: `buffer[header_size : get_frame_size()]`. -/
def getFrame (s : SocketFramer) : Bytes := slice s.buffer headerSize s.getFrameSize

/-- `populate_result(result)`: copy `tid`, `pid` and `uid` from the header. -/
def populateResult (s : SocketFramer) (result : Pdu) : Pdu :=
  { result with transactionId := s.header.tid, protocolId := s.header.pid,
                unitId := .int s.header.uid }

/-- `build_packet(message)`: `struct.pack('>HHHBB', tid, pid, len(data) + 2, uid,
function_code) + data`. -/
def buildPacket (m : Pdu) : Except Exc Bytes := do
  let tid ← packH m.transactionId
  let pid ← packH m.protocolId
  let len ← packH (m.encode.length + 2)
  let uid ← packUnit m.unitId
  let fc ← packB m.functionCode
  return tid ++ pid ++ len ++ uid ++ fc ++ m.encode

@[simp] theorem withHeader_buffer (s : SocketFramer) : s.withHeader.buffer = s.buffer := rfl

@[simp] theorem withHeader_header (s : SocketFramer) :
    s.withHeader.header = unpackHeader s.buffer := rfl

/-- A frame checks out exactly when a header with `len ≥ 2` and its whole frame
are buffered; the header is then read and the buffer kept. -/
theorem checkFrame_eq_true {s s₁ : SocketFramer} :
    checkFrame s = .ok true s₁ ↔ 7 ≤ s.buffer.length ∧ 2 ≤ (unpackHeader s.buffer).len ∧
      (unpackHeader s.buffer).len ≤ s.buffer.length - 6 ∧ s₁ = s.withHeader := by
  unfold checkFrame
  split_ifs with h₁ h₂ h₃ <;> simp_all [eq_comm] <;> omega

/-- A header with `len ≥ 2` whose frame is not yet all buffered is read and the
buffer kept. -/
theorem checkFrame_of_short {s : SocketFramer} (h₁ : 7 ≤ s.buffer.length)
    (h₂ : 2 ≤ (unpackHeader s.buffer).len) (h₃ : s.buffer.length - 6 < (unpackHeader s.buffer).len) :
    checkFrame s = .ok false s.withHeader := by
  unfold checkFrame
  rw [if_pos h₁, if_neg (by simpa using Nat.not_lt.mpr h₂), if_neg (by simp; omega)]

/-- A header whose `len` is below 2 is skipped on its own: `advance_frame()`
drops its seven bytes, and `check_frame()` answers false. -/
theorem checkFrame_of_bad_len {s : SocketFramer} (h₁ : 7 ≤ s.buffer.length)
    (h₂ : (unpackHeader s.buffer).len < 2) :
    checkFrame s = .ok false ⟨s.buffer.drop 7, {}⟩ := by
  simp [checkFrame, h₁, h₂, advanceFrame, getFrameSize, Nat.sub_eq_zero_of_le (Nat.le_of_lt_succ h₂)]

theorem advance_shrinks (s s₁ : SocketFramer) (h : checkFrame s = .ok true s₁) :
    (advanceFrame s₁).buffer.length < s.buffer.length := by
  obtain ⟨h₁, h₂, h₃, rfl⟩ := checkFrame_eq_true.mp h
  simp only [advanceFrame, getFrameSize, withHeader_header, withHeader_buffer, List.length_drop]
  omega

end SocketFramer

open SocketFramer in
/-- `ModbusSocketFramer`, with `header_size = 7`; `reset_frame()` is
`advance_frame()`. -/
def socketFramer : Framer SocketFramer where
  buffer := SocketFramer.buffer
  headerSize := 7
  addToFrame s m := { s with buffer := s.buffer ++ m }
  isFrameReady s := decide (7 < s.buffer.length)
  checkFrame := checkFrame
  getFrame s := .ok (getFrame s)
  populateResult := populateResult
  advanceFrame := advanceFrame
  resetFrame := advanceFrame
  getFrameSize := getFrameSize
  buildPacket := buildPacket
  advance_shrinks := advance_shrinks

/-- A read into an MBAP framer keeps the header, and with it the frame size. -/
theorem socketFramer_grows : socketFramer.Grows where
  buffer_add _ _ := rfl
  frameSize_add _ _ _ _ := rfl

namespace SocketFramer

/-! ## Built packets -/

/-- The MBAP header of a packet `build_packet` wrote for `m`. -/
def headerOf (m : Pdu) (u : Nat) : Bytes :=
  [UInt8.ofNat (m.transactionId / 256), UInt8.ofNat (m.transactionId % 256),
   UInt8.ofNat (m.protocolId / 256), UInt8.ofNat (m.protocolId % 256),
   UInt8.ofNat ((m.encode.length + 2) / 256), UInt8.ofNat ((m.encode.length + 2) % 256),
   UInt8.ofNat u]

/-- `build_packet` succeeds exactly on messages whose fields fit their `struct`
formats, and writes the header, the function code and the payload. -/
theorem buildPacket_eq_ok {m : Pdu} {p : Bytes} (h : buildPacket m = .ok p) :
    ∃ u : Nat, m.unitId = .int u ∧ u < 256 ∧ m.transactionId < 65536 ∧
      m.protocolId < 65536 ∧ m.functionCode < 256 ∧ m.encode.length + 2 < 65536 ∧
      p = headerOf m u ++ UInt8.ofNat m.functionCode :: m.encode := by
  simp only [buildPacket, bind_eq_ok, pure, Except.pure, Except.ok.injEq] at h
  obtain ⟨_, ht, _, hp, _, hl, _, hu, _, hf, rfl⟩ := h
  obtain ⟨u, hu₁, hu₂, rfl⟩ := packUnit_eq_ok.mp hu
  obtain ⟨ht₁, rfl⟩ := packH_eq_ok.mp ht
  obtain ⟨hp₁, rfl⟩ := packH_eq_ok.mp hp
  obtain ⟨hl₁, rfl⟩ := packH_eq_ok.mp hl
  obtain ⟨hf₁, rfl⟩ := packB_eq_ok.mp hf
  exact ⟨u, hu₁, hu₂, ht₁, hp₁, hf₁, hl₁, by simp [headerOf]⟩

theorem unpackHeader_append {a : Bytes} (h : 7 ≤ a.length) (b : Bytes) :
    unpackHeader (a ++ b) = unpackHeader a := by
  match a, h with
  | _ :: _ :: _ :: _ :: _ :: _ :: _ :: _, _ => rfl

theorem unpackHeader_headerOf {m : Pdu} {u : Nat} (hu : u < 256) (ht : m.transactionId < 65536)
    (hp : m.protocolId < 65536) (hl : m.encode.length + 2 < 65536) (b : Bytes) :
    unpackHeader (headerOf m u ++ b) = ⟨m.transactionId, m.protocolId, m.encode.length + 2, u⟩ := by
  simp [headerOf, unpackHeader, be16_packH ht, be16_packH hp, be16_packH hl, toNat_ofNat_byte hu]

@[simp] theorem length_headerOf (m : Pdu) (u : Nat) : (headerOf m u).length = 7 := rfl

/-- Conversely, a message whose fields fit their formats builds. -/
theorem buildPacket_ok {m : Pdu} {u : Nat} (hu : m.unitId = .int u) (hu' : u < 256)
    (ht : m.transactionId < 65536) (hp : m.protocolId < 65536) (hf : m.functionCode < 256)
    (hl : m.encode.length + 2 < 65536) :
    buildPacket m = .ok (headerOf m u ++ UInt8.ofNat m.functionCode :: m.encode) := by
  simp only [buildPacket, hu, packH_ok ht, packH_ok hp, packH_ok hl, packUnit_ok hu', packB_ok hf]
  rfl

/-- A built packet's MBAP header carries its message's transaction and unit ids. -/
theorem unpackHeader_of_buildPacket {m : Pdu} {p : Bytes} (h : buildPacket m = .ok p) :
    (unpackHeader p).tid = m.transactionId ∧ UnitId.int (unpackHeader p).uid = m.unitId := by
  obtain ⟨u, hu, hu', ht, hp, -, hl, rfl⟩ := buildPacket_eq_ok h
  rw [unpackHeader_headerOf hu' ht hp hl]
  exact ⟨rfl, hu.symm⟩

/-- A packet `build_packet` wrote. -/
def Built (p : Bytes) : Prop := ∃ m, buildPacket m = .ok p

/-- What `populate_result` copies into a result once the buffer starts with `p`. -/
def fillOf (p : Bytes) (result : Pdu) : Pdu :=
  populateResult { buffer := p, header := unpackHeader p } result

end SocketFramer

open SocketFramer in
/-- The framing facts for built MBAP packets. There is no noise: the framer has
no start marker to resynchronise on. -/
theorem socket_reads : Reads socketFramer (· = []) Built (·.drop 7) fillOf where
  junk_nil := rfl
  junk_append := by rintro a b rfl rfl; rfl
  junk_left _ _ h := (List.append_eq_nil.mp h).1
  junk_right _ _ h := (List.append_eq_nil.mp h).2
  good_ne_nil := by
    rintro p ⟨m, hm⟩ rfl
    obtain ⟨u, -, -, -, -, -, -, hp⟩ := buildPacket_eq_ok hm
    simp [headerOf] at hp
  buffer_add _ _ := rfl
  extract := by
    rintro s g p rest rfl ⟨m, hm⟩ hs
    obtain ⟨u, -, hu, ht, hp, -, hl, rfl⟩ := buildPacket_eq_ok hm
    change s.buffer = [] ++ (headerOf m u ++ _) ++ rest at hs
    simp only [List.nil_append, List.append_assoc] at hs
    have hh : unpackHeader s.buffer = ⟨m.transactionId, m.protocolId, m.encode.length + 2, u⟩ := by
      rw [hs]; exact unpackHeader_headerOf hu ht hp hl _
    have hlen : s.buffer.length = m.encode.length + 8 + rest.length := by simp [hs]; omega
    refine ⟨by simp only [socketFramer, decide_eq_true_eq]; omega, s.withHeader,
      checkFrame_eq_true.mpr ⟨by omega, by simp [hh], by simp [hh]; omega, rfl⟩, ?_, ?_, ?_⟩
    · simp only [socketFramer, getFrame, getFrameSize, withHeader_header, withHeader_buffer, hh]
      rw [hs, slice_natCast, show headerSize = (headerOf m u).length from rfl, List.drop_left' rfl]
      simp [List.drop_append_eq_append_drop]
    · funext r
      simp [socketFramer, fillOf, populateResult, hh, unpackHeader_headerOf hu ht hp hl]
    · simp only [socketFramer, advanceFrame, getFrameSize, withHeader_header, withHeader_buffer, hh]
      rw [hs, ← List.append_assoc, List.drop_left' (by simp)]
  wait := by
    rintro s g r rfl hr hs hready
    change s.buffer = [] ++ r at hs
    simp only [List.nil_append] at hs
    have hlen : 7 < r.length := by simpa [socketFramer, hs] using hready
    rcases hr with rfl | ⟨p, ⟨m, hm⟩, ⟨t, rfl⟩, hlt⟩
    · simp at hlen
    obtain ⟨u, -, hu, ht, hp, -, hl, hpk⟩ := buildPacket_eq_ok hm
    have hh : unpackHeader s.buffer = ⟨m.transactionId, m.protocolId, m.encode.length + 2, u⟩ := by
      rw [hs, ← unpackHeader_append hlen.le t, hpk, unpackHeader_headerOf hu ht hp hl]
    have hpl := congrArg List.length hpk
    simp only [List.length_append, List.length_cons, length_headerOf] at hlt hpl
    exact ⟨s.withHeader, checkFrame_of_short (by rw [hs]; omega) (by simp [hh])
      (by rw [hh, hs]; simp only; omega), .inl (by simp [socketFramer, hs])⟩

/-- The message handed to the callback for a built packet of `P`: what the
decoder made of its frame, with `P`'s header fields copied in. -/
def SocketFramer.handed (D : Bytes → Pdu) (P : Pdu) : Pdu :=
  { D (UInt8.ofNat P.functionCode :: P.encode) with
    transactionId := P.transactionId, protocolId := P.protocolId, unitId := P.unitId }

namespace SocketFramer

theorem drop_built {R : Pdu} {p : Bytes} (hp : buildPacket R = .ok p) :
    p.drop 7 = UInt8.ofNat R.functionCode :: R.encode := by
  obtain ⟨u, -, -, -, -, -, -, rfl⟩ := buildPacket_eq_ok hp
  exact List.drop_left' rfl

/-- What `populate_result` copies from a built packet's header is its message's. -/
theorem fillOf_built {R : Pdu} {p : Bytes} (hp : buildPacket R = .ok p) (d : Pdu) :
    fillOf p d = { d with transactionId := R.transactionId, protocolId := R.protocolId,
                          unitId := R.unitId } := by
  obtain ⟨u, hu, hu', ht, hpp, -, hl, rfl⟩ := buildPacket_eq_ok hp
  simp [fillOf, populateResult, unpackHeader_headerOf hu' ht hpp hl, hu]

theorem fillOf_handed (D : Bytes → Pdu) {P : Pdu} {p : Bytes} (hp : buildPacket P = .ok p) :
    fillOf p (D (p.drop 7)) = handed D P := by
  rw [fillOf_built hp, drop_built hp]; rfl

end SocketFramer

open SocketFramer in
/-- MBAP framing over any chunking, for a callback that raises on none of the
messages it is handed in turn. -/
theorem feed_built {γ : Type} (decode : Bytes → Except Exc (Option Pdu)) (D : Bytes → Pdu)
    (callback : Pdu → γ → γ × Option Exc) (Ps : List Pdu) (pkts : List Bytes)
    (hpk : Ps.map buildPacket = pkts.map .ok)
    (hdec : ∀ P ∈ Ps, decode (UInt8.ofNat P.functionCode :: P.encode) =
      .ok (some (D (UInt8.ofNat P.functionCode :: P.encode))))
    (cs : List Bytes) (hcs : cs.flatten = pkts.flatten) (s : SocketFramer) (hs : s.buffer = [])
    (e : γ) (hcb : Quiet callback (Ps.map (handed D)) e) :
    (feed socketFramer decode callback s e cs).decoded =
      Ps.map (fun P => UInt8.ofNat P.functionCode :: P.encode) ∧
    (feed socketFramer decode callback s e cs).env =
      afterCallbacks callback (Ps.map (handed D)) e ∧
    (feed socketFramer decode callback s e cs).raised = [] ∧
    (feed socketFramer decode callback s e cs).framer.buffer = [] := by
  have hps : ∀ q ∈ pkts, Built q ∧ decode (q.drop 7) = .ok (some (D (q.drop 7))) := by
    intro q hq
    obtain ⟨P, hP, hb⟩ := exists_of_map_ok hpk hq
    exact ⟨⟨P, hb⟩, by rw [drop_built hb]; exact hdec P hP⟩
  have hfill : pkts.map (fun q => fillOf q (D (q.drop 7))) = Ps.map (handed D) :=
    map_eq_of_map_ok hpk fun _ _ => fillOf_handed D
  obtain ⟨h1, h2, h3, h4, -⟩ := feed_reads socket_reads pkts hps [] rfl cs (by simpa using hcs) s hs e
    (by rw [hfill]; exact hcb)
  refine ⟨by rw [h1]; exact map_eq_of_map_ok hpk fun _ _ => drop_built, by rw [h2, envAfter, hfill], h3, h4⟩

open SocketFramer in
/-- **MBAP framing is transparent over any chunking.** The packets
`build_packet` writes for `P₁ … Pₖ`, cut into chunks in any way and fed to a
framer with an empty buffer, one `process_incoming_packet` call a chunk, give
the decoder `[Pᵢ.function_code] ++ Pᵢ.encode()` once each, in order; the callback
is handed each decoded result with `Pᵢ`'s `tid`, `pid` and `uid`; nothing is
raised, and the buffer ends empty. `build_packet` succeeding is exactly the
fields fitting their formats (`buildPacket_eq_ok`). -/
theorem feed_socket {γ : Type} (decode : Bytes → Except Exc (Option Pdu)) (D : Bytes → Pdu)
    (callback : Pdu → γ → γ × Option Exc) (hcb : ∀ x e, (callback x e).2 = none)
    (Ps : List Pdu) (pkts : List Bytes) (hpk : Ps.map buildPacket = pkts.map .ok)
    (hdec : ∀ P ∈ Ps, decode (UInt8.ofNat P.functionCode :: P.encode) =
      .ok (some (D (UInt8.ofNat P.functionCode :: P.encode))))
    (cs : List Bytes) (hcs : cs.flatten = pkts.flatten) (s : SocketFramer) (hs : s.buffer = [])
    (e : γ) :
    (feed socketFramer decode callback s e cs).decoded =
      Ps.map (fun P => UInt8.ofNat P.functionCode :: P.encode) ∧
    (feed socketFramer decode callback s e cs).env =
      afterCallbacks callback (Ps.map (handed D)) e ∧
    (feed socketFramer decode callback s e cs).raised = [] ∧
    (feed socketFramer decode callback s e cs).framer.buffer = [] :=
  feed_built decode D callback Ps pkts hpk hdec cs hcs s hs e (quiet_of_forall (fun _ _ e => hcb _ e) e)

/-- The request `12 34 00 00 00 06 FF 01 00 01 00 01` cut after its protocol id:
the callback is handed one message, with transaction id `0x1234` and unit id
`0xFF`. -/
theorem feed_socket_split_after_pid :
    (feed socketFramer (fun _ => .ok (some { functionCode := 1 })) (fun x l => (l ++ [x], none)) {} []
      [[0x12, 0x34, 0, 0], [0, 6, 0xFF, 1, 0, 1, 0, 1]]).env =
      [{ functionCode := 1, transactionId := 0x1234, unitId := .int 0xFF }] :=
  (feed_socket (fun _ => .ok (some { functionCode := 1 })) (fun _ => { functionCode := 1 })
    (fun x l => (l ++ [x], none)) (fun _ _ => rfl)
    [{ functionCode := 1, transactionId := 0x1234, unitId := .int 0xFF, encode := [0, 1, 0, 1] }]
    [[0x12, 0x34, 0, 0, 0, 6, 0xFF, 1, 0, 1, 0, 1]] (by decide) (by simp) _ (by decide) {} rfl []).2.1

open SocketFramer in
/-- **A malformed MBAP header ends the pass that meets it.** Built packets for
`P₁ … Pₖ`, then seven bytes whose `len` field is 0 or 1, then anything at all,
handed to a framer with an empty buffer in one `process_incoming_packet` call:
the packets reach the decoder in order and the callback as `feed_socket` says,
nothing is raised, and the bad header is dropped; but `check_frame()` answers
false after dropping it, so the loop stops there, and whatever follows the
header stays buffered undecoded until the next call. -/
theorem processIncomingPacket_bad_header {γ : Type} (decode : Bytes → Except Exc (Option Pdu))
    (D : Bytes → Pdu) (callback : Pdu → γ → γ × Option Exc) (hcb : ∀ x e, (callback x e).2 = none)
    (Ps : List Pdu) (pkts : List Bytes) (hpk : Ps.map buildPacket = pkts.map .ok)
    (hdec : ∀ P ∈ Ps, decode (UInt8.ofNat P.functionCode :: P.encode) =
      .ok (some (D (UInt8.ofNat P.functionCode :: P.encode))))
    (h : Bytes) (hh : h.length = 7) (hlen : (unpackHeader h).len < 2) (rest : Bytes) (hrest : rest ≠ [])
    (s : SocketFramer) (hs : s.buffer = []) (e : γ) :
    (processIncomingPacket socketFramer decode callback (pkts.flatten ++ h ++ rest) s e).decoded =
      Ps.map (fun P => UInt8.ofNat P.functionCode :: P.encode) ∧
    (processIncomingPacket socketFramer decode callback (pkts.flatten ++ h ++ rest) s e).env =
      afterCallbacks callback (Ps.map (handed D)) e ∧
    (processIncomingPacket socketFramer decode callback (pkts.flatten ++ h ++ rest) s e).raised = [] ∧
    (processIncomingPacket socketFramer decode callback (pkts.flatten ++ h ++ rest) s e).framer.buffer =
      rest := by
  have hps : ∀ q ∈ pkts, Built q ∧ decode (q.drop 7) = .ok (some (D (q.drop 7))) := by
    intro q hq
    obtain ⟨P, hP, hb⟩ := exists_of_map_ok hpk hq
    exact ⟨⟨P, hb⟩, by rw [drop_built hb]; exact hdec P hP⟩
  have hne : pkts.flatten ++ h ++ rest ≠ [] := by simp [hrest]
  obtain ⟨s', hs', hloop⟩ := frameLoop_append socket_reads (h ++ rest) pkts hps
    (fun _ _ e => hcb _ e) (socketFramer.addToFrame s (pkts.flatten ++ h ++ rest)) e
    (by simp [socketFramer, hs])
  have hb : s'.buffer = h ++ rest := hs'
  have hrl : 0 < rest.length := List.length_pos.mpr hrest
  have hready : socketFramer.isFrameReady s' = true := by
    simp [socketFramer, hb, hh]; omega
  have hc : checkFrame s' = .ok false ⟨rest, {}⟩ := by
    rw [checkFrame_of_bad_len (by simp [hb, hh]) (by rw [hb, unpackHeader_append (by omega)]; exact hlen),
      hb, List.drop_left' hh]
  simp only [processIncomingPacket, if_neg hne, hloop, frameLoop_check_false hready hc]
  rw [List.append_nil, envAfter, map_eq_of_map_ok hpk fun _ _ => drop_built,
    map_eq_of_map_ok hpk fun _ _ => fillOf_handed D]
  exact ⟨rfl, rfl, trivial, trivial⟩

/-- A packet then a header with `len = 0`, then a second packet, in one call:
only the first packet is decoded, and the second waits in the buffer. -/
theorem processIncomingPacket_bad_header_between :
    (processIncomingPacket socketFramer (fun _ => .ok (some { functionCode := 1 }))
      (fun x l => (l ++ [x], none))
      ([0, 1, 0, 0, 0, 6, 0, 1, 0, 0, 0, 1] ++ [0, 0, 0, 0, 0, 0, 0] ++ [0, 2, 0, 0, 0, 6, 0, 1, 0, 0, 0, 1])
      {} []).framer.buffer = [0, 2, 0, 0, 0, 6, 0, 1, 0, 0, 0, 1] :=
  (processIncomingPacket_bad_header (fun _ => .ok (some { functionCode := 1 }))
    (fun _ => { functionCode := 1 }) (fun x l => (l ++ [x], none)) (fun _ _ => rfl)
    [{ functionCode := 1, transactionId := 1, unitId := .int 0, encode := [0, 0, 0, 1] }]
    [[0, 1, 0, 0, 0, 6, 0, 1, 0, 0, 0, 1]] (by decide) (by simp) [0, 0, 0, 0, 0, 0, 0] rfl (by decide)
    _ (by simp) {} rfl []).2.2.2

/-- A header with `len = 0` then a valid request, in one call: nothing is
decoded, and the request waits in the buffer. -/
theorem processIncomingPacket_skips_once :
    (processIncomingPacket socketFramer (fun _ => .ok (some { functionCode := 1 }))
      (fun x l => (l ++ [x], none)) [0, 0, 0, 0, 0, 0, 0, 0, 1, 0, 0, 0, 6, 0, 1, 0, 0, 0, 1] {} []).decoded =
      [] ∧
    (processIncomingPacket socketFramer (fun _ => .ok (some { functionCode := 1 }))
      (fun x l => (l ++ [x], none)) [0, 0, 0, 0, 0, 0, 0, 0, 1, 0, 0, 0, 6, 0, 1, 0, 0, 0, 1] {} []).framer.buffer =
      [0, 1, 0, 0, 0, 6, 0, 1, 0, 0, 0, 1] :=
  ⟨rfl, rfl⟩

/-! ## A frame the decoder rejects -/

namespace SocketFramer

variable {γ : Type} {decode : Bytes → Except Exc (Option Pdu)}

/-- **A built packet whose frame the decoder rejects jams the framer.** A pass
over any beginning of the packet, or over the packet and anything after it,
keeps the buffer and the callback's state: while the packet is unfinished the
framer waits, and once it is whole its frame is read and rejected before
`advance_frame`, every time. -/
theorem frameLoop_rejected (callback : Pdu → γ → γ × Option Exc) {q : Bytes} (hq : Built q) {x : Exc}
    (hrej : Rejects decode (q.drop 7) x) {rest : Bytes} {s : SocketFramer} (hs : s.buffer <+: q ++ rest)
    (e : γ) :
    (frameLoop socketFramer decode callback s e).env = e ∧
    (frameLoop socketFramer decode callback s e).framer.buffer = s.buffer ∧
    (∀ d ∈ (frameLoop socketFramer decode callback s e).decoded, d = q.drop 7) ∧
    ∀ y ∈ (frameLoop socketFramer decode callback s e).raised, y = x := by
  rcases Nat.lt_or_ge s.buffer.length q.length with hlt | hge
  · have hpre := List.prefix_of_prefix_length_le hs (List.prefix_append q rest) hlt.le
    cases hready : socketFramer.isFrameReady s
    · simp [frameLoop_not_ready hready]
    · obtain ⟨s₁, hc, hb⟩ := socket_reads.wait s [] s.buffer rfl (.inr ⟨q, hq, hpre, hlt⟩) rfl hready
      rw [frameLoop_check_false hready hc]
      exact ⟨rfl, by rcases hb with h | h <;> simpa using h, by simp, by simp⟩
  · obtain ⟨rest', hrest⟩ := List.prefix_of_prefix_length_le (List.prefix_append q rest) hs hge
    obtain ⟨hready, s₁, hc, hf, -⟩ := socket_reads.extract s [] q rest' rfl hq (by simpa using hrest.symm)
    rw [frameLoop_rejects hready hc hf hrej, (checkFrame_eq_true.mp hc).2.2.2]
    exact ⟨rfl, rfl, by simp, by simp⟩

end SocketFramer

end Modbus
