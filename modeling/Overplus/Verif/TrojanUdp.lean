import Overplus.Library.Stream
import Overplus.Server.SessionOutcome

/-!
# Packets of the Trojan UDP mode

A session in UDP mode parses its buffer once after each read. While no read leaves more than
one complete packet in the buffer, every complete packet of the client's stream has been sent
whenever the session waits for the client. Two packets that arrive together break this: the
second one stays in the buffer until the client sends something else.
-/
namespace Overplus.Verif.TrojanUdp

open Server

/-- The client's UDP stream so far: the request's payload and everything read after it. -/
def stream (session : Session) : Bytes :=
  session.trojanReq.payload ++ receivedBytes .down session.trace

/-- Payloads of the datagrams sent so far. -/
def sentPayloads (trace : List Effect) : List Bytes :=
  trace.filterMap fun effect => match effect with
    | .datagram _ payload => some payload
    | _ => none

/-- Operations of the client-to-target direction in UDP mode. -/
def isUplink : Op → Bool
  | .udpFirstRead | .udpResolve _ _ _ | .udpSend _ | .udpRead => true
  | _ => false

/-- The only operation of the client-to-target direction is the next read of the client. -/
def WaitsForClient (session : Session) : Prop :=
  session.pending.filter isUplink = [.udpFirstRead] ∨
    session.pending.filter isUplink = [.udpRead]

instance (session : Session) : Decidable (WaitsForClient session) :=
  inferInstanceAs (Decidable (_ ∨ _))

/-- Every complete packet of the stream has been sent as a datagram, and the unparsed bytes
hold no complete packet. -/
def AllSent (session : Session) : Prop :=
  UDPPacket.parse session.remaining = none ∧
    sentPayloads session.trace = (decodeStream UDPPacket.parse (stream session)).map (·.payload)

/-- No second complete packet follows a complete packet at the front. -/
def OnePacket (data : Bytes) : Prop :=
  ∀ packet len, UDPPacket.parse data = some (packet, len) → UDPPacket.parse (data.drop len) = none

instance (data : Bytes) : Decidable (OnePacket data) :=
  decidable_of_iff (∀ found ∈ UDPPacket.parse data, UDPPacket.parse (data.drop found.2) = none)
    ⟨fun none packet len parsed => none (packet, len) parsed,
      fun none found parsed => none found.1 found.2 parsed⟩

/-- The step does not leave two complete packets to parse: neither the payload of a UDP
request, nor the unparsed bytes together with a chunk read. -/
def OnePacketAtATime (session : Session) (event : Event) : Prop :=
  match event.op, event.result with
  | .firstRead, .read data =>
    VRequest.isVProtocol (session.fill .down data).inBuf = false →
      (session.trojanReq.parse data).2.command = some .udpAssociate →
        OnePacket (session.trojanReq.parse data).2.payload
  | .udpFirstRead, .read data => OnePacket (session.remaining ++ data)
  | .udpRead, .read data => OnePacket (session.remaining ++ data)
  | _, _ => True

instance (session : Session) (event : Event) : Decidable (OnePacketAtATime session event) := by
  unfold OnePacketAtATime
  split <;> infer_instance

/-- Packets delimit themselves. -/
theorem parse_selfDelimiting : SelfDelimiting UDPPacket.parse := UDPPacket.parse_spec

/-- Operations of the UDP mode behind the first packet. -/
def isSteady : Op → Bool
  | .udpResolve _ _ _ | .udpSend _ | .udpRead | .udpReceive | .udpWrite => true
  | _ => false

/-- What an operation of the client-to-target direction has still to send. -/
def outstanding : Op → List Bytes
  | .udpResolve _ packet _ => [packet.payload]
  | _ => []

/-- The operation goes on to read the client. -/
def resumes : Op → Prop
  | .udpSend directions => .down ∈ directions
  | _ => True

/-- All packets up to the unparsed bytes are accounted for by the payloads. -/
structure Accounted (session : Session) (payloads : List Bytes) : Prop where
  /-- The offset is inside the buffer. -/
  bounded : session.udpBuffOffset ≤ session.upstreamUdpBuff.length
  /-- The packets in front of the unparsed bytes have these payloads. -/
  decoded : ∃ packets, Decoded UDPPacket.parse (stream session) packets session.remaining ∧
    packets.map (·.payload) = payloads

/-- A live session in UDP mode between handlers: one operation of the client-to-target
direction, and every packet sent or carried by that operation. -/
structure Streaming (session : Session) : Prop where
  /-- The session was not destroyed. -/
  alive : session.state ≠ .destroy
  /-- The first read is alone; later only operations of the steady state are in flight. -/
  modes : session.pending = [.udpFirstRead] ∨ ∀ op ∈ session.pending, isSteady op = true
  /-- Nothing complete is left unparsed. -/
  parsed : UDPPacket.parse session.remaining = none
  /-- Every packet is sent or on its way. -/
  uplink : ∃ op, session.pending.filter isUplink = [op] ∧ resumes op ∧
    Accounted session (sentPayloads session.trace ++ outstanding op)

/-- A live session in UDP mode inside a handler of the client-to-target direction. -/
structure Between (session : Session) (payloads : List Bytes) : Prop where
  /-- The session was not destroyed. -/
  alive : session.state ≠ .destroy
  /-- Only operations of the steady state are in flight. -/
  steady : ∀ op ∈ session.pending, isSteady op = true
  /-- None of them is of the client-to-target direction. -/
  idle : session.pending.filter isUplink = []
  /-- The packets parsed so far. -/
  accounted : Accounted session payloads

/-- A destroyed session in UDP mode. -/
structure Dead (session : Session) : Prop where
  /-- The session was destroyed. -/
  dead : session.state = .destroy
  /-- Only operations of the steady state are left. -/
  steady : ∀ op ∈ session.pending, isSteady op = true

variable {session : Session} {payloads : List Bytes} {packet : UDPPacket}

@[simp]
theorem sentPayloads_append (before after : List Effect) :
    sentPayloads (before ++ after) = sentPayloads before ++ sentPayloads after :=
  List.filterMap_append

/-- The accounts are about the buffer, the request and the bytes received. -/
theorem Accounted.congr {other : Session} (accounted : Accounted session payloads)
    (buff : other.upstreamUdpBuff = session.upstreamUdpBuff)
    (offset : other.udpBuffOffset = session.udpBuffOffset)
    (same : stream other = stream session) : Accounted other payloads := by
  obtain ⟨bounded, packets, decoded, mapped⟩ := accounted
  refine ⟨by rw [offset, buff]; exact bounded, packets, ?_, mapped⟩
  rw [same, Session.remaining, offset, buff]
  exact decoded

/-- Destroying a session in UDP mode leaves operations of the steady state. -/
theorem Between.destroy (between : Between session payloads) : Dead session.destroy where
  dead := Session.destroy_state
  steady := by simpa using between.steady

/-- Starting an operation of the client-to-target direction ends a handler. -/
theorem Between.await (between : Between session payloads) (op : Op) (uplink : isUplink op = true)
    (steady : isSteady op = true) (resumed : resumes op)
    (parsed : UDPPacket.parse session.remaining = none)
    (accounted : payloads = sentPayloads session.trace ++ outstanding op) :
    Streaming (session.await op) where
  alive := between.alive
  modes := by
    refine .inr fun other member => ?_
    rcases List.mem_append.mp member with old | new
    · exact between.steady other old
    · rwa [List.mem_singleton.mp new]
  parsed := parsed
  uplink := by
    refine ⟨op, ?_, resumed, ?_⟩
    · change (session.pending ++ [op]).filter isUplink = [op]
      rw [List.filter_append, between.idle, List.filter_cons_of_pos uplink]
      rfl
    · have kept := between.accounted
      rw [accounted] at kept
      exact kept.congr rfl rfl rfl

/-- Recording something other than bytes of the client leaves the stream. -/
theorem stream_emit {effect : Effect} (other : receivedBytes .down [effect] = []) :
    stream (session.emit effect) = stream session := by
  change session.trojanReq.payload ++ receivedBytes .down (session.trace ++ [effect]) = _
  rw [receivedBytes_append, other, List.append_nil]
  rfl

/-- Starting an operation leaves the stream. -/
theorem stream_await {op : Op} : stream (session.await op) = stream session := rfl

/-- Recording something inside a handler. -/
theorem Between.emit (between : Between session payloads) {effect : Effect}
    (other : receivedBytes .down [effect] = []) : Between (session.emit effect) payloads where
  alive := between.alive
  steady := between.steady
  idle := between.idle
  accounted := between.accounted.congr rfl rfl (stream_emit other)

/-- A packet parsed and not yet sent is sent. -/
theorem Between.asyncSendTo {sent : List Bytes} {payload : Bytes}
    (between : Between session (sent ++ [payload])) (exact : sent = sentPayloads session.trace)
    (parsed : UDPPacket.parse session.remaining = none) (endpoint : Endpoint)
    {directions : List Direction} (resumed : .down ∈ directions) :
    Streaming (session.asyncSendTo payload endpoint directions) := by
  refine (between.emit rfl).await _ rfl rfl resumed parsed ?_
  change _ = sentPayloads (session.trace ++ [.datagram endpoint payload]) ++ []
  rw [sentPayloads_append, exact, List.append_nil]
  rfl

/-- A packet parsed and not yet sent is resolved. -/
theorem Between.resolve (between : Between session (sentPayloads session.trace ++ [packet.payload]))
    (parsed : UDPPacket.parse session.remaining = none) (first : Bool) (host service key : Bytes) :
    Streaming ((session.emit (.udpResolve host service)).await (.udpResolve first packet key)) := by
  refine (between.emit rfl).await _ rfl rfl trivial parsed ?_
  change _ = sentPayloads (session.trace ++ [.udpResolve host service]) ++ [packet.payload]
  rw [sentPayloads_append]
  simp [sentPayloads]

/-- The first packet is sent, or the session ends. -/
theorem Between.openAndSend {payload : Bytes}
    (between : Between session (sentPayloads session.trace ++ [payload]))
    (parsed : UDPPacket.parse session.remaining = none) (world : World) (endpoint : Endpoint) :
    Streaming (session.openAndSend world payload endpoint) ∨
      Dead (session.openAndSend world payload endpoint) := by
  unfold Session.openAndSend
  split
  · exact .inl (between.asyncSendTo rfl parsed endpoint (by simp [dirBoth]))
  · split
    · have opened : Between { session with udpOpen := true }
          (sentPayloads session.trace ++ [payload]) :=
        ⟨between.alive, between.steady, between.idle, between.accounted.congr rfl rfl rfl⟩
      exact .inl (opened.asyncSendTo rfl parsed endpoint (by simp [dirBoth]))
    · exact .inr between.destroy

/-- A parsed packet is sent or resolved, or the session ends. -/
theorem Between.dispatch
    (between : Between session (sentPayloads session.trace ++ [packet.payload]))
    (parsed : UDPPacket.parse session.remaining = none) (world : World) (first : Bool)
    {send : Session → Endpoint → Session}
    (sends : ∀ endpoint, Streaming (send session endpoint) ∨ Dead (send session endpoint)) :
    Streaming (session.dispatch world first packet send) ∨
      Dead (session.dispatch world first packet send) := by
  unfold Session.dispatch
  dsimp only
  split
  · exact sends _
  · exact .inl (between.resolve parsed first _ _ _)

/-- Stepping over the parsed packet accounts for it. -/
theorem Between.advance {len : Nat} (between : Between session payloads)
    (found : UDPPacket.parse session.remaining = some (packet, len)) :
    Between (session.advance len) (payloads ++ [packet.payload]) ∧
      (session.advance len).remaining = session.remaining.drop len := by
  obtain ⟨alive, steady, idle, bounded, packets, decoded, mapped⟩ := between
  have inside := (UDPPacket.parse_spec found).2.1
  rw [Session.remaining, List.length_drop] at inside
  obtain ⟨buff, offset, moved, within, left⟩ := session.advance_spec len (by omega)
  rw [moved]
  refine ⟨⟨alive, steady, idle, within, packets ++ [packet], ?_, by simp [mapped]⟩, left⟩
  have next := decoded.next found
  rw [← left] at next
  exact next

/-- The first-packet path sends what it parses and waits when it parses nothing. -/
theorem Between.handleTrojanUdpProxy (between : Between session (sentPayloads session.trace))
    (alone : session.pending = []) (once : OnePacket session.remaining) (world : World) :
    Streaming (session.handleTrojanUdpProxy world) ∨ Dead (session.handleTrojanUdpProxy world) := by
  have forward : Between { session with state := .forward } (sentPayloads session.trace) :=
    ⟨by simp, between.steady, between.idle, between.accounted.congr rfl rfl rfl⟩
  unfold Session.handleTrojanUdpProxy
  dsimp only
  split
  · rename_i none
    split
    · exact .inr forward.destroy
    · refine .inl ⟨by simp [Session.await], .inl ?_, none, .udpFirstRead, ?_, trivial, ?_⟩
      · simp [Session.await, alone]
      · simp [Session.await, alone, isUplink]
      · change Accounted _ (sentPayloads session.trace ++ [])
        rw [List.append_nil]
        exact forward.accounted.congr rfl rfl rfl
  · rename_i packet len found
    obtain ⟨advanced, left⟩ := forward.advance found
    have parsed : UDPPacket.parse ({ session with state := .forward }.advance len).remaining =
        none := by
      rw [left]
      exact once packet len found
    have trace : sentPayloads session.trace =
        sentPayloads ({ session with state := .forward }.advance len).trace := by
      rw [Session.advance_trace]
    rw [trace] at advanced
    exact advanced.dispatch parsed world true fun endpoint =>
      advanced.openAndSend parsed world endpoint

/-- The steady path sends what it parses and waits when it parses nothing. -/
theorem Between.onUdpRead (between : Between session (sentPayloads session.trace))
    (once : OnePacket session.remaining) (world : World) :
    Streaming (session.onUdpRead world) ∨ Dead (session.onUdpRead world) := by
  unfold Session.onUdpRead
  split
  · rename_i none
    split
    · exact .inr between.destroy
    · refine .inl (between.await .udpRead rfl rfl trivial none ?_)
      simp [outstanding]
  · rename_i packet len found
    obtain ⟨advanced, left⟩ := between.advance found
    have parsed : UDPPacket.parse (session.advance len).remaining = none := by
      rw [left]
      exact once packet len found
    have trace : sentPayloads session.trace = sentPayloads (session.advance len).trace := by
      rw [Session.advance_trace]
    rw [trace] at advanced
    refine advanced.dispatch parsed world false fun endpoint => .inl ?_
    exact advanced.asyncSendTo rfl parsed endpoint (by simp)

/-- A resolved packet is sent, or the session ends. -/
theorem Between.onUdpResolved
    (between : Between session (sentPayloads session.trace ++ [packet.payload]))
    (parsed : UDPPacket.parse session.remaining = none) (world : World) (first : Bool)
    (dnsKey : Bytes) (results : List Endpoint) :
    Streaming (session.onUdpResolved world first packet dnsKey results) ∨
      Dead (session.onUdpResolved world first packet dnsKey results) := by
  unfold Session.onUdpResolved
  split
  · exact .inr between.destroy
  · rename_i endpoint _
    have cached : Between (session.emit (.putUdp dnsKey endpoint))
        (sentPayloads (session.emit (.putUdp dnsKey endpoint)).trace ++ [packet.payload]) := by
      change Between _ (sentPayloads (session.trace ++ [_]) ++ _)
      rw [sentPayloads_append]
      simpa [sentPayloads] using between.emit rfl
    dsimp only
    split
    · exact cached.openAndSend parsed world endpoint
    · exact .inl (cached.asyncSendTo rfl parsed endpoint (by simp))

/-- A chunk read from the client joins the unparsed bytes. -/
theorem Between.receive (between : Between session payloads) (data : Bytes) :
    Between ((session.receive .down data).appendUdp data.length) payloads ∧
      ((session.receive .down data).appendUdp data.length).remaining =
        session.remaining ++ data := by
  obtain ⟨alive, steady, idle, bounded, packets, decoded, mapped⟩ := between
  have taken : ((session.receive .down data).buffer .down).take data.length = data :=
    Session.receive_buffer_take
  have joined : ((session.receive .down data).appendUdp data.length).upstreamUdpBuff =
      session.upstreamUdpBuff ++ data :=
    congrArg (session.upstreamUdpBuff ++ ·) taken
  have left : ((session.receive .down data).appendUdp data.length).remaining =
      session.remaining ++ data := by
    rw [Session.remaining, joined]
    exact List.drop_append_of_le_length bounded
  refine ⟨⟨alive, steady, idle, ?_, packets, ?_, mapped⟩, left⟩
  · rw [joined, List.length_append]
    exact Nat.le_add_right_of_le bounded
  · have longer := decoded.append parse_selfDelimiting data
    have received : stream ((session.receive .down data).appendUdp data.length) =
        stream session ++ data := by
      change _ ++ receivedBytes .down (session.trace ++ [.received .down data]) = _
      rw [receivedBytes_received, if_pos rfl, ← List.append_assoc]
      rfl
    rwa [received, left]

/-- What is started behind the first packet is of the steady state. -/
theorem isSteady_of_isLater {op : Op} (later : op.IsLater) : isSteady op = true := by
  cases op <;> first | rfl | cases later

/-- A destroyed session stays destroyed, whatever it starts of the steady state. -/
theorem Dead.goes {next : Session} (dead : Dead session) (records : Effect → Prop)
    (goes : session.Goes records Op.IsLater next) : Dead next where
  dead := by
    rcases goes.state with same | ended
    · rw [same]
      exact dead.dead
    · exact ended
  steady := fun op member => (goes.pending member).elim (dead.steady op) isSteady_of_isLater

/-- Stepping over a packet does not revive a session. -/
theorem Dead.skipPacket (dead : Dead session) : Dead session.skipPacket := by
  obtain ⟨buff, offset, same⟩ := session.skipPacket_eq
  rw [same]
  exact ⟨dead.dead, dead.steady⟩

/-- A destroyed session handles what is still in flight and stays destroyed. -/
theorem Dead.handle {config : ServerConfig} {op : Op} (dead : Dead session) (world : World)
    (result : Result) (steady : isSteady op = true) :
    Dead (session.handle config world op result) := by
  have quiet {other : Session} (state : other.state = session.state)
      (pending : other.pending = session.pending) : Dead other :=
    ⟨state.trans dead.dead, by rw [pending]; exact dead.steady⟩
  cases result with
  | failed =>
    rw [Session.handle_failed]
    exact dead.goes Effect.IsPlain .destroy
  | done =>
    cases op with
    | udpSend directions =>
      exact dead.goes Effect.IsPlain (session.udpAsyncBidirectionalRead_goes directions)
    | udpWrite => exact dead.goes Effect.IsPlain (session.udpAsyncBidirectionalRead_goes [.up])
    | udpResolve | udpRead | udpReceive => exact dead
    | _ => cases steady
  | read data =>
    cases op with
    | udpRead =>
      have held : Dead ((session.receive .down data).appendUdp data.length) := quiet rfl rfl
      exact held.skipPacket.goes _ (Session.onUdpRead_goes _ world)
    | udpSend | udpWrite | udpResolve | udpReceive => exact dead
    | _ => cases steady
  | sent count =>
    cases op with
    | udpSend | udpWrite | udpResolve | udpReceive | udpRead => exact dead
    | _ => cases steady
  | resolved results =>
    cases op with
    | udpResolve first packet dnsKey =>
      cases chosen : Session.chooseEndpoint results with
      | none =>
        simp only [Session.handle, Session.onUdpResolved, chosen]
        exact dead.goes Effect.IsPlain .destroy
      | some endpoint =>
        have cached : Dead (session.emit (.putUdp dnsKey endpoint)) := quiet rfl rfl
        exact cached.goes _ (session.onUdpResolved_goes world first packet dnsKey chosen)
    | udpSend | udpWrite | udpReceive | udpRead => exact dead
    | _ => cases steady
  | received sender data =>
    cases op with
    | udpReceive =>
      let replied := ((session.fill .up data).emit (.udpReceived sender data)).emit
        (.udpReply (UDPPacket.generate .unspecified
          ((session.fill .up data).outBuf.take data.length)))
      have replying : Dead replied := quiet rfl rfl
      have goes : replied.Goes Effect.IsPlain Op.IsLater (replied.await .udpWrite) := .await trivial
      exact replying.goes _ goes
    | udpSend | udpWrite | udpResolve | udpRead => exact dead
    | _ => cases steady

/-- Behind a completed operation only operations of the steady state are left. -/
theorem Streaming.rest {op : Op} (streaming : Streaming session) (member : op ∈ session.pending) :
    ∀ other ∈ (session.complete op).pending, isSteady other = true := by
  rcases streaming.modes with alone | steady
  · rw [alone, List.mem_singleton] at member
    intro other left
    simp [Session.complete, alone, member] at left
  · intro other left
    exact steady other (List.mem_of_mem_erase left)

/-- Completing the operation of the client-to-target direction enters a handler. -/
theorem Streaming.complete {op : Op} (streaming : Streaming session) (member : op ∈ session.pending)
    (uplink : isUplink op = true) :
    Between (session.complete op) (sentPayloads session.trace ++ outstanding op) ∧ resumes op := by
  obtain ⟨only, filtered, resumed, accounted⟩ := streaming.uplink
  have same : op = only := by
    have among : op ∈ session.pending.filter isUplink := List.mem_filter.mpr ⟨member, uplink⟩
    rwa [filtered, List.mem_singleton] at among
  subst same
  refine ⟨⟨streaming.alive, streaming.rest member, ?_, accounted.congr rfl rfl rfl⟩, resumed⟩
  change (session.pending.erase op).filter isUplink = []
  rw [← List.erase_filter, filtered, List.erase_cons_head]

/-- Work of the target-to-client direction leaves the client-to-target direction alone. -/
theorem Streaming.background {next : Session} (streaming : Streaming session)
    (state : next.state = session.state)
    (pending : next.pending.filter isUplink = session.pending.filter isUplink)
    (steady : ∀ op ∈ next.pending, isSteady op = true)
    (buff : next.upstreamUdpBuff = session.upstreamUdpBuff)
    (offset : next.udpBuffOffset = session.udpBuffOffset) (same : stream next = stream session)
    (sent : sentPayloads next.trace = sentPayloads session.trace) : Streaming next where
  alive := by rw [state]; exact streaming.alive
  modes := .inr steady
  parsed := by rw [Session.remaining, buff, offset]; exact streaming.parsed
  uplink := by
    obtain ⟨op, filtered, resumed, accounted⟩ := streaming.uplink
    refine ⟨op, pending.trans filtered, resumed, ?_⟩
    rw [sent]
    exact accounted.congr buff offset same

/-- Completing an operation of the target-to-client direction and starting another one. -/
theorem Streaming.downlink {op other : Op} (streaming : Streaming session)
    (member : op ∈ session.pending) (notUp : isUplink op = false)
    (otherNotUp : isUplink other = false) (steady : isSteady other = true) :
    Streaming ((session.complete op).await other) := by
  refine streaming.background rfl ?_ ?_ rfl rfl rfl rfl
  · change (session.pending.erase op ++ [other]).filter isUplink = _
    have absent : op ∉ session.pending.filter isUplink := by simp [notUp]
    rw [List.filter_append, ← List.erase_filter, List.erase_of_not_mem absent]
    simp [otherNotUp]
  · intro third left
    rcases List.mem_append.mp left with old | new
    · exact streaming.rest member third old
    · rwa [List.mem_singleton.mp new]

/-- After a send the client is read again, and at first the target too. -/
theorem Between.udpAsyncBidirectionalRead (between : Between session (sentPayloads session.trace))
    (parsed : UDPPacket.parse session.remaining = none) {directions : List Direction}
    (resumed : .down ∈ directions) : Streaming (session.udpAsyncBidirectionalRead directions) := by
  have reading : Streaming (session.await .udpRead) :=
    between.await .udpRead rfl rfl trivial parsed (by simp [outstanding])
  have steady (op : Op) (member : op ∈ (session.await .udpRead).pending) : isSteady op = true := by
    rcases List.mem_append.mp member with old | new
    · exact between.steady op old
    · rw [List.mem_singleton.mp new]
      rfl
  unfold Session.udpAsyncBidirectionalRead
  rw [if_pos resumed]
  dsimp only
  split
  · refine reading.background rfl ?_ ?_ rfl rfl rfl rfl
    · change ((session.await .udpRead).pending ++ [Op.udpReceive]).filter isUplink = _
      rw [List.filter_append]
      simp [isUplink]
    · intro op member
      rcases List.mem_append.mp member with old | new
      · exact steady op old
      · rw [List.mem_singleton.mp new]
        rfl
  · exact reading

@[simp]
theorem outstanding_udpSend (directions : List Direction) :
    outstanding (.udpSend directions) = [] := rfl

@[simp]
theorem outstanding_udpFirstRead : outstanding .udpFirstRead = [] := rfl

@[simp]
theorem outstanding_udpRead : outstanding .udpRead = [] := rfl

/-- Reading a chunk sends nothing by itself. -/
theorem sentPayloads_receive (data : Bytes) (length : Nat) :
    sentPayloads ((session.receive .down data).appendUdp length).trace =
      sentPayloads session.trace := by
  change sentPayloads (session.trace ++ [.received .down data]) = _
  rw [sentPayloads_append]
  simp [sentPayloads]

/-- **One step of the UDP mode** keeps every packet sent or on its way, or ends the session. -/
theorem Streaming.step {config : ServerConfig} {next : Session} {event : Event}
    (streaming : Streaming session) (once : OnePacketAtATime session event)
    (stepped : session.step config event = some next) : Streaming next ∨ Dead next := by
  obtain ⟨member, admitted, rfl⟩ := Session.step_some stepped
  obtain ⟨op, result, world⟩ := event
  dsimp only at member admitted ⊢
  have known : op = .udpFirstRead ∨ isSteady op = true := by
    rcases streaming.modes with alone | steady
    · rw [alone, List.mem_singleton] at member
      exact .inl member
    · exact .inr (steady op member)
  cases result with
  | failed =>
    rw [Session.handle_failed]
    refine .inr ⟨Session.destroy_state, ?_⟩
    rw [Session.destroy_pending]
    exact streaming.rest member
  | done =>
    cases op with
    | udpSend directions =>
      obtain ⟨between, resumed⟩ := streaming.complete member rfl
      rw [outstanding_udpSend, List.append_nil] at between
      exact .inl (between.udpAsyncBidirectionalRead streaming.parsed resumed)
    | udpWrite => exact .inl (streaming.downlink member rfl rfl rfl)
    | udpFirstRead | udpResolve | udpRead | udpReceive => cases admitted
    | _ => rcases known with first | steady <;> contradiction
  | read data =>
    cases op with
    | udpFirstRead =>
      obtain ⟨between, -⟩ := streaming.complete member rfl
      rw [outstanding_udpFirstRead, List.append_nil] at between
      obtain ⟨received, left⟩ := between.receive data
      have alone : (session.complete .udpFirstRead).pending = [] := by
        rcases streaming.modes with alone | steady
        · simp [Session.complete, alone]
        · cases steady _ member
      refine Between.handleTrojanUdpProxy ?_ ?_ ?_ world
      · rw [sentPayloads_receive]
        exact received
      · exact alone
      · rw [left]
        exact once
    | udpRead =>
      obtain ⟨between, -⟩ := streaming.complete member rfl
      rw [outstanding_udpRead, List.append_nil] at between
      obtain ⟨received, left⟩ := between.receive data
      refine Between.onUdpRead ?_ ?_ world
      · rw [sentPayloads_receive]
        exact received
      · rw [left]
        exact once
    | udpSend | udpWrite | udpResolve | udpReceive => cases admitted
    | _ => rcases known with first | steady <;> contradiction
  | sent count =>
    cases op with
    | udpFirstRead | udpSend | udpWrite | udpResolve | udpReceive | udpRead => cases admitted
    | _ => rcases known with first | steady <;> contradiction
  | resolved results =>
    cases op with
    | udpResolve first packet dnsKey =>
      obtain ⟨between, -⟩ := streaming.complete member rfl
      exact between.onUdpResolved streaming.parsed world first dnsKey results
    | udpFirstRead | udpSend | udpWrite | udpReceive | udpRead => cases admitted
    | _ => rcases known with first | steady <;> contradiction
  | received sender data =>
    cases op with
    | udpReceive =>
      have replying : Streaming ((session.complete .udpReceive).await .udpWrite) :=
        streaming.downlink member rfl rfl rfl
      have steady (op : Op)
          (among : op ∈ ((session.complete .udpReceive).await .udpWrite).pending) :
          isSteady op = true := by
        rcases List.mem_append.mp among with old | new
        · exact streaming.rest member op old
        · rw [List.mem_singleton.mp new]
          rfl
      refine .inl (replying.background rfl rfl steady rfl rfl ?_ ?_)
      · change stream (Session.await (Session.emit (Session.emit _ _) _) _) = _
        rw [stream_await, stream_emit rfl, stream_emit rfl]
        rfl
      · change sentPayloads ((session.trace ++ [_]) ++ [_]) = sentPayloads session.trace
        simp [sentPayloads]
    | udpFirstRead | udpSend | udpWrite | udpResolve | udpRead => cases admitted
    | _ => rcases known with first | steady <;> contradiction

/-- A live session that has done nothing for its client yet. -/
structure Blank (session : Session) : Prop where
  /-- The session was not destroyed. -/
  alive : session.state ≠ .destroy
  /-- The UDP buffer is parsed from its start. -/
  offset : session.udpBuffOffset = 0
  /-- Nothing was read behind a first message. -/
  received : receivedBytes .down session.trace = []
  /-- Nothing was sent. -/
  sent : sentPayloads session.trace = []

/-- A session before its first message. -/
structure Fresh (session : Session) : Prop extends Blank session where
  /-- One operation of the greeting is in flight. -/
  greeting : ∃ op, session.pending = [op] ∧ op.isGreeting = true

/-- Where a session stands with respect to the UDP mode. -/
def Mode (session : Session) : Prop :=
  Fresh session ∨ session.OnlyTcp ∨ Streaming session ∨ Dead session

/-- The choice of the service enters the UDP mode with the payload as its stream. -/
theorem Blank.authenticate {config : ServerConfig} (blank : Blank session)
    (alone : session.pending = [])
    (once : session.vprotocol = false → session.trojanReq.command = some .udpAssociate →
      OnePacket session.trojanReq.payload) (world : World) (valid : Bool) :
    Mode (session.authenticate config world valid) := by
  obtain ⟨alive, offset, received, sent⟩ := blank
  have tcp : session.OnlyTcp := by simp [Session.OnlyTcp, alone]
  have ended : session.destroy.OnlyTcp := tcp.congr Session.destroy_pending
  unfold Session.authenticate
  split
  · split
    · split
      · rename_i udp
        have start : Between { session with upstreamUdpBuff := session.trojanReq.payload }
            (sentPayloads session.trace) := by
          refine ⟨alive, by simp [alone], by simp [alone], by simp [offset], [], ?_, by simp [sent]⟩
          simp only [stream, received, List.append_nil, Session.remaining, offset, List.drop_zero]
          exact .start _
        refine .inr (.inr (start.handleTrojanUdpProxy alone ?_ world))
        simpa [Session.remaining, offset] using once udp.1 udp.2
      · obtain ⟨state, goes⟩ := Session.doResolve_goes session world
        exact .inr (.inl fun op member => (goes.pending member).elim (tcp op) id)
    · exact .inr (.inl ended)
  · exact .inr (.inl ended)

/-- The first message leads to one of the modes. -/
theorem Blank.onFirstMessage {config : ServerConfig} {data : Bytes} (blank : Blank session)
    (alone : session.pending = []) (taken : session.inBuf.take data.length = data)
    (once : VRequest.isVProtocol session.inBuf = false →
      (session.trojanReq.parse data).2.command = some .udpAssociate →
        OnePacket (session.trojanReq.parse data).2.payload) (world : World) :
    Mode (session.onFirstMessage config world data.length) := by
  unfold Session.onFirstMessage
  dsimp only
  rw [taken]
  split
  · split
    · exact .inr (.inl (by simp [Session.OnlyTcp, Session.crash, alone]))
    · refine Blank.authenticate ?_ ?_ ?_ world _
      · exact ⟨blank.alive, blank.offset, blank.received, blank.sent⟩
      · exact alone
      · intro noV
        cases noV
  · rename_i noV
    refine Blank.authenticate ?_ ?_ ?_ world _
    · exact ⟨blank.alive, blank.offset, blank.received, blank.sent⟩
    · exact alone
    · intro _ udp
      exact once (by simpa using noV) udp

/-- The greeting leads to one of the modes. -/
theorem Fresh.step {config : ServerConfig} {next : Session} {event : Event}
    (fresh : Fresh session) (once : OnePacketAtATime session event)
    (stepped : session.step config event = some next) : Mode next := by
  obtain ⟨member, admitted, rfl⟩ := Session.step_some stepped
  obtain ⟨op, result, world⟩ := event
  dsimp only at member admitted ⊢
  obtain ⟨⟨alive, offset, received, sent⟩, only, pending, greeting⟩ := fresh
  rw [pending, List.mem_singleton] at member
  subst member
  have alone : (session.complete op).pending = [] := by simp [Session.complete, pending]
  have waiting (other : Op) (isNext : other.isGreeting = true) :
      Mode ((session.complete op).await other) :=
    .inl ⟨⟨alive, offset, received, sent⟩, other, by simp [Session.await, alone], isNext⟩
  cases result with
  | failed =>
    rw [Session.handle_failed]
    exact .inr (.inl (by simp [Session.OnlyTcp, alone]))
  | done =>
    cases op with
    | handshake =>
      simp only [Session.handle]
      split
      · exact waiting .firstRead rfl
      · exact waiting .accept rfl
    | accept => exact waiting .firstRead rfl
    | firstRead => cases admitted
    | _ => cases greeting
  | read data =>
    cases op with
    | firstRead =>
      have taken : (((session.complete .firstRead).fill .down data).buffer .down).take data.length =
          data := Session.fill_buffer_take
      refine Blank.onFirstMessage ?_ ?_ ?_ ?_ world
      · refine ⟨alive, offset, ?_, ?_⟩
        · change receivedBytes .down (session.trace ++ [.firstMessage data]) = []
          rw [receivedBytes_append, received]
          rfl
        · change sentPayloads (session.trace ++ [.firstMessage data]) = []
          rw [sentPayloads_append, sent]
          rfl
      · exact alone
      · exact taken
      · exact once
    | handshake | accept => cases admitted
    | _ => cases greeting
  | _ =>
    cases op with
    | handshake | accept | firstRead => cases admitted
    | _ => cases greeting

/-- **One step** keeps every packet of the UDP mode sent or on its way. -/
theorem step_mode {config : ServerConfig} {next : Session} {event : Event} (mode : Mode session)
    (once : OnePacketAtATime session event) (stepped : session.step config event = some next) :
    Mode next := by
  rcases mode with fresh | tcp | streaming | dead
  · exact fresh.step once stepped
  · obtain ⟨member, -, outcome⟩ := Session.step_outcome stepped
    have rest : (session.complete event.op).OnlyTcp := fun op left =>
      tcp op (List.mem_of_mem_erase left)
    exact .inr (.inl (rest.outcome (tcp _ member) outcome))
  · exact .inr (.inr (streaming.step once stepped))
  · obtain ⟨member, _, rfl⟩ := Session.step_some stepped
    have rest : Dead (session.complete event.op) :=
      ⟨dead.dead, fun op left => dead.steady op (List.mem_of_mem_erase left)⟩
    exact .inr (.inr (.inr (rest.handle event.world event.result (dead.steady _ member))))

/-- A waiting session in UDP mode has sent everything. -/
theorem Streaming.allSent (streaming : Streaming session) (waits : WaitsForClient session) :
    AllSent session := by
  obtain ⟨op, filtered, _, _, packets, decoded, mapped⟩ := streaming.uplink
  have nothing : outstanding op = [] := by
    rcases waits with first | later
    · rw [filtered] at first
      rw [List.singleton_inj.mp first]
      rfl
    · rw [filtered] at later
      rw [List.singleton_inj.mp later]
      rfl
  rw [nothing, List.append_nil] at mapped
  exact ⟨streaming.parsed, by
    rw [decoded.decodeStream_eq parse_selfDelimiting streaming.parsed, mapped]⟩

/-- **Chunk independence of the UDP mode.** Along every run in which no read leaves two complete
packets to parse, a live session that waits for its client has sent every complete packet of the
client's stream, and its unparsed bytes hold none. -/
theorem trojan_udp_all_sent (config : ServerConfig) (kind : SessionKind) (events : List Event)
    (session : Session) (ran : run (Session.step config) (Session.start kind) events = some session)
    (once : Meets (Session.step config) OnePacketAtATime (Session.start kind) events)
    (alive : session.state ≠ .destroy) (waits : WaitsForClient session) : AllSent session := by
  have start : Mode (Session.start kind) :=
    .inl ⟨⟨by simp [Session.start], rfl, rfl, rfl⟩, .handshake, rfl, rfl⟩
  have mode : Mode session := run_invariant_of_meets
    (fun _ _ _ mode once stepped => step_mode mode once stepped) start once ran
  rcases mode with fresh | tcp | streaming | dead
  · obtain ⟨op, pending, greeting⟩ := fresh.greeting
    cases op <;> simp [WaitsForClient, pending, isUplink, Op.isGreeting] at waits greeting
  · have none : session.pending.filter isUplink = [] := by
      refine List.filter_eq_nil_iff.mpr fun op member => ?_
      have own := tcp op member
      cases op <;> simp_all [Op.isTcp, isUplink]
    simp [WaitsForClient, none] at waits
  · exact streaming.allSent waits
  · exact absurd dead.dead alive

/-- A packet for port 53 of 127.0.0.1 that carries one byte. -/
def samplePacket (byte : UInt8) : Bytes := [1, 127, 0, 0, 1, 0, 53, 0, 1, 13, 10, byte]

/-- A client with password `p` asks for UDP and sends the given payload along; its first packet
has been sent. -/
def sampleEvents (payload : Bytes) : List Event :=
  [⟨.handshake, .done, {}⟩,
    ⟨.firstRead, .read ([0x70, 13, 10, 3, 1, 0, 0, 0, 0, 0, 0, 13, 10] ++ payload),
      { cachedUdp := fun _ => some ⟨.ofWord 0x7f000001, 53⟩, openOk := true }⟩,
    ⟨.udpSend dirBoth, .done, {}⟩]

/-- Three packets in three reads, the second and the third packet cut in the middle. -/
def cutEvents : List Event :=
  sampleEvents (samplePacket 7 ++ (samplePacket 8).take 5) ++
    [⟨.udpRead, .read ((samplePacket 8).drop 5 ++ (samplePacket 9).take 3),
        { cachedUdp := fun _ => some ⟨.ofWord 0x7f000001, 53⟩ }⟩,
      ⟨.udpSend [.down], .done, {}⟩,
      ⟨.udpRead, .read ((samplePacket 9).drop 3),
        { cachedUdp := fun _ => some ⟨.ofWord 0x7f000001, 53⟩ }⟩,
      ⟨.udpSend [.down], .done, {}⟩]

/-- A client whose reads end inside packets has all three packets sent. -/
theorem trojan_udp_all_sent_cut : ∃ session,
    run (Session.step ⟨[[0x70]]⟩) (Session.start .tls) cutEvents = some session ∧
      stream session = samplePacket 7 ++ samplePacket 8 ++ samplePacket 9 ∧
      sentPayloads session.trace = [[7], [8], [9]] ∧ AllSent session := by
  have checked : (run (Session.step ⟨[[0x70]]⟩) (Session.start .tls) cutEvents).any (fun session =>
      decide (session.state ≠ .destroy ∧ WaitsForClient session ∧
        stream session = samplePacket 7 ++ samplePacket 8 ++ samplePacket 9 ∧
        sentPayloads session.trace = [[7], [8], [9]])) = true := by
    decide +kernel
  obtain ⟨session, ran, good⟩ := exists_of_run checked
  obtain ⟨alive, waits, whole, sent⟩ := of_decide_eq_true good
  have once : Meets (Session.step ⟨[[0x70]]⟩) OnePacketAtATime (Session.start .tls) cutEvents := by
    decide +kernel
  exact ⟨session, ran, whole, sent, trojan_udp_all_sent _ _ _ _ ran once alive waits⟩

/-- A client that sends two packets at once has only the first one sent: the session is alive
and waits for the client with a complete packet in its buffer. -/
theorem second_packet_waits : ∃ session,
    run (Session.step ⟨[[0x70]]⟩) (Session.start .tls)
      (sampleEvents (samplePacket 7 ++ samplePacket 8)) = some session ∧
      stream session = samplePacket 7 ++ samplePacket 8 ∧ session.state ≠ .destroy ∧
      WaitsForClient session ∧ session.remaining = samplePacket 8 ∧ ¬ AllSent session := by
  have checked : (run (Session.step ⟨[[0x70]]⟩) (Session.start .tls)
      (sampleEvents (samplePacket 7 ++ samplePacket 8))).any (fun session =>
        decide (stream session = samplePacket 7 ++ samplePacket 8 ∧ session.state ≠ .destroy ∧
          WaitsForClient session ∧ session.remaining = samplePacket 8)) = true := by
    decide +kernel
  obtain ⟨session, ran, good⟩ := exists_of_run checked
  obtain ⟨whole, alive, waits, left⟩ := of_decide_eq_true good
  refine ⟨session, ran, whole, alive, waits, left, ?_⟩
  rintro ⟨parsed, -⟩
  have complete : (UDPPacket.parse (samplePacket 8)).isSome = true := by decide +kernel
  rw [← left, parsed] at complete
  cases complete

end Overplus.Verif.TrojanUdp
