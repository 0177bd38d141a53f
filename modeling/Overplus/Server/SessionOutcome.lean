import Overplus.Server.SessionSteps

/-!
# What a session step does

A handler records effects, starts operations, leaves the buffer of the UDP mode alone but for
the bytes it stores and the packet it steps over, and keeps the session's state or destroys
it. One relation says this for every function of the session, and one case analysis says it
for the steps; what a step can record or start is read off there.
-/
namespace Overplus.Server

/-- The key under which the target of a packet is cached. -/
def packetKey (packet : UDPPacket) : Bytes :=
  Session.dnsKey packet.address.address (decimal packet.address.port.toNat)

/-- Operations of the UDP mode; a resolution carries the key of its packet. -/
def Op.IsUdp : Op → Prop
  | .udpResolve _ packet key => key = packetKey packet
  | .udpFirstRead | .udpSend _ | .udpRead | .udpReceive | .udpWrite => True
  | _ => False

/-- Operations of the UDP mode behind the first packet. -/
def Op.IsLater : Op → Prop
  | .udpFirstRead => False
  | op => op.IsUdp

/-- Operations behind the first packet are of the UDP mode. -/
theorem Op.IsLater.isUdp {op : Op} (later : op.IsLater) : op.IsUdp := by
  cases op <;> first | exact later | cases later

/-- An operation of the TCP mode is not of the greeting or the UDP mode. -/
theorem Op.isTcp_exclusive {op : Op} (own : op.isTcp = true) :
    ¬ op.isGreeting = true ∧ ¬ op.IsUdp := by
  cases op <;> simp_all [isTcp, isGreeting, IsUdp]

/-- An operation of the UDP mode is not of the greeting. -/
theorem Op.isUdp_exclusive {op : Op} (own : op.IsUdp) : ¬ op.isGreeting = true := by
  cases op <;> simp_all [isGreeting, IsUdp]

/-- Effects that are not of the UDP mode, except that it starts resolutions. -/
def Effect.IsPlain : Effect → Prop
  | .datagram _ _ | .udpReceived _ _ | .udpReply _ | .putUdp _ _ => False
  | _ => True

/-- Effects of a handler that parses unparsed bytes: plain ones, and the datagram of a parsed
packet to the cached endpoint of its target. -/
def Effect.IsFrom (world : World) (unparsed : Bytes) : Effect → Prop
  | .datagram endpoint payload => ∃ packet len, UDPPacket.parse unparsed = some (packet, len) ∧
      packet.payload = payload ∧ world.cachedUdp (packetKey packet) = some endpoint
  | effect => effect.IsPlain

namespace Session

/-- The session went on: it recorded effects of one sort, started operations of one sort, left
the buffer of the UDP mode alone, and kept its state unless it was destroyed. -/
structure Goes (records : Effect → Prop) (starts : Op → Prop) (session next : Session) : Prop where
  /-- The trace grows by effects of the sort. -/
  recorded : ∃ effects, next.trace = session.trace ++ effects ∧ ∀ effect ∈ effects, records effect
  /-- The pending operations grow by operations of the sort. -/
  started : ∃ ops, next.pending = session.pending ++ ops ∧ ∀ op ∈ ops, starts op
  /-- The buffer is the same. -/
  buff : next.upstreamUdpBuff = session.upstreamUdpBuff
  /-- The offset is the same. -/
  offset : next.udpBuffOffset = session.udpBuffOffset
  /-- The state is the same, or the session was destroyed. -/
  state : next.state = session.state ∨ next.state = .destroy

/-- Step over the packet at the front of the unparsed bytes, if there is one. -/
def skipPacket (session : Session) : Session :=
  match UDPPacket.parse session.remaining with
  | none => session
  | some (_, len) => session.advance len

/-- Stepping over a packet changes only the buffer and the offset. -/
theorem advance_eq (session : Session) (len : Nat) : ∃ buff offset, session.advance len =
    { session with upstreamUdpBuff := buff, udpBuffOffset := offset } := by
  unfold advance
  dsimp only
  split <;> exact ⟨_, _, rfl⟩

/-- Stepping over a packet changes only the buffer and the offset. -/
theorem skipPacket_eq (session : Session) : ∃ buff offset, session.skipPacket =
    { session with upstreamUdpBuff := buff, udpBuffOffset := offset } := by
  unfold skipPacket
  split
  · exact ⟨_, _, rfl⟩
  · exact advance_eq session _

@[simp]
theorem skipPacket_trace (session : Session) : session.skipPacket.trace = session.trace := by
  obtain ⟨buff, offset, same⟩ := skipPacket_eq session
  rw [same]

@[simp]
theorem skipPacket_pending (session : Session) : session.skipPacket.pending = session.pending := by
  obtain ⟨buff, offset, same⟩ := skipPacket_eq session
  rw [same]

section Relation

variable {session middle next : Session} {records other : Effect → Prop} {starts also : Op → Prop}
  {effect : Effect} {op : Op} {direction : Direction} {data : Bytes} {lane : Lane}

/-- A session that differs in other fields only. -/
theorem Goes.of_same (trace : next.trace = session.trace) (pending : next.pending = session.pending)
    (buff : next.upstreamUdpBuff = session.upstreamUdpBuff)
    (offset : next.udpBuffOffset = session.udpBuffOffset)
    (state : next.state = session.state ∨ next.state = .destroy) :
    session.Goes records starts next where
  recorded := ⟨[], by simp [trace], by simp⟩
  started := ⟨[], by simp [pending], by simp⟩
  buff := buff
  offset := offset
  state := state

/-- Doing nothing. -/
theorem Goes.refl : session.Goes records starts session := .of_same rfl rfl rfl rfl (.inl rfl)

/-- Doing one thing after another. -/
theorem Goes.trans (first : session.Goes records starts middle)
    (second : middle.Goes records starts next) : session.Goes records starts next := by
  obtain ⟨before, traced, fine⟩ := first.recorded
  obtain ⟨after, tracedAfter, fineAfter⟩ := second.recorded
  obtain ⟨ops, pending, own⟩ := first.started
  obtain ⟨more, pendingAfter, ownAfter⟩ := second.started
  refine ⟨⟨before ++ after, ?_, ?_⟩, ⟨ops ++ more, ?_, ?_⟩, second.buff.trans first.buff,
    second.offset.trans first.offset, ?_⟩
  · rw [tracedAfter, traced, List.append_assoc]
  · intro effect member
    exact (List.mem_append.mp member).elim (fine effect) (fineAfter effect)
  · rw [pendingAfter, pending, List.append_assoc]
  · intro op member
    exact (List.mem_append.mp member).elim (own op) (ownAfter op)
  · rcases second.state with same | ended
    · rw [same]
      exact first.state
    · exact .inr ended

/-- Sorts may be widened. -/
theorem Goes.mono (goes : session.Goes records starts next)
    (wider : ∀ effect, records effect → other effect) (more : ∀ op, starts op → also op) :
    session.Goes other also next where
  recorded := by
    obtain ⟨effects, traced, fine⟩ := goes.recorded
    exact ⟨effects, traced, fun effect member => wider effect (fine effect member)⟩
  started := by
    obtain ⟨ops, pending, own⟩ := goes.started
    exact ⟨ops, pending, fun op member => more op (own op member)⟩
  buff := goes.buff
  offset := goes.offset
  state := goes.state

/-- Operations behind the first packet are of the UDP mode. -/
theorem Goes.udp (goes : session.Goes records Op.IsLater next) :
    session.Goes records Op.IsUdp next :=
  goes.mono (fun _ fine => fine) fun _ later => later.isUdp

/-- What is recorded and started extends the trace. -/
theorem Goes.extends (goes : session.Goes records starts next) : session.trace <+: next.trace := by
  obtain ⟨effects, traced, _⟩ := goes.recorded
  exact ⟨effects, traced.symm⟩

/-- A property of what was recorded before, and of the sort recorded, is one of all that was
recorded. -/
theorem Goes.traced {property : Effect → Prop} {old first : List Effect}
    (goes : session.Goes records starts next) (trace : session.trace = old ++ first)
    (before : ∀ effect ∈ first, property effect)
    (each : ∀ effect, records effect → property effect) :
    ∃ effects, next.trace = old ++ effects ∧ ∀ effect ∈ effects, property effect := by
  obtain ⟨effects, traced, own⟩ := goes.recorded
  refine ⟨first ++ effects, by rw [traced, trace, List.append_assoc], ?_⟩
  intro effect recorded
  rcases List.mem_append.mp recorded with early | late
  · exact before effect early
  · exact each effect (own effect late)

/-- An operation in flight afterwards was in flight or is of the sort started. -/
theorem Goes.pending (goes : session.Goes records starts next) (member : op ∈ next.pending) :
    op ∈ session.pending ∨ starts op := by
  obtain ⟨ops, pending, own⟩ := goes.started
  rw [pending] at member
  exact (List.mem_append.mp member).imp_right (own op)

/-- Starting an operation. -/
theorem Goes.await (own : starts op) : session.Goes records starts (session.await op) where
  recorded := ⟨[], (List.append_nil _).symm, by simp⟩
  started := ⟨[op], rfl, by simp [own]⟩
  buff := rfl
  offset := rfl
  state := .inl rfl

/-- Recording an effect. -/
theorem Goes.emit (fine : records effect) : session.Goes records starts (session.emit effect) where
  recorded := ⟨[effect], rfl, by simp [fine]⟩
  started := ⟨[], (List.append_nil _).symm, by simp⟩
  buff := rfl
  offset := rfl
  state := .inl rfl

/-- Changing a lane. -/
theorem Goes.setLane : session.Goes records starts (session.setLane direction lane) := by
  cases direction <;> exact .of_same rfl rfl rfl rfl (.inl rfl)

/-- Storing bytes in a read buffer. -/
theorem Goes.fill : session.Goes records starts (session.fill direction data) := by
  cases direction <;> exact .of_same rfl rfl rfl rfl (.inl rfl)

/-- Being destroyed. -/
theorem Goes.destroy : session.Goes records starts session.destroy := by
  have ended : session.destroy.state = .destroy := destroy_state
  unfold Session.destroy at ended ⊢
  split
  · exact .refl
  · exact .of_same rfl rfl rfl rfl (.inr rfl)

end Relation

section Tcp

variable {session : Session} {records : Effect → Prop} {direction : Direction}

/-- Starting reads of the tunnel. -/
theorem asyncBidirectionalRead_goes (session : Session) (directions : List Direction) :
    session.Goes records (·.isTcp = true) (session.asyncBidirectionalRead directions) := by
  unfold asyncBidirectionalRead
  dsimp only
  split <;> split
  · refine Goes.trans ?_ (.await rfl)
    exact .await rfl
  · exact .await rfl
  · exact .await rfl
  · exact .refl

/-- Sending from a ring. -/
theorem doSend_goes (session : Session) (direction : Direction) :
    session.Goes records (·.isTcp = true) (session.doSend direction) := by
  unfold doSend
  dsimp only
  split
  · split
    · exact Goes.setLane.trans (asyncBidirectionalRead_goes _ _)
    · exact .setLane
  · exact .await rfl

/-- Queueing a chunk. -/
theorem asyncBidirectionalWrite_goes (session : Session) (direction : Direction) (len : Nat) :
    session.Goes records (·.isTcp = true) (session.asyncBidirectionalWrite direction len) := by
  have queued (data : Bytes) :
      session.Goes records (·.isTcp = true) (session.enqueueWrite direction data) := by
    unfold enqueueWrite
    dsimp only
    split
    · exact .setLane
    · exact Goes.setLane.trans (doSend_goes _ _)
  unfold asyncBidirectionalWrite
  dsimp only
  split
  · exact (queued _).trans (asyncBidirectionalRead_goes _ _)
  · exact (queued _).trans .setLane

/-- Starting to forward. -/
theorem startForwarding_goes (session : Session) :
    session.Goes Effect.IsPlain (·.isTcp = true) session.startForwarding :=
  (Goes.emit trivial).trans (asyncBidirectionalRead_goes _ _)

/-- The handler of the connection. -/
theorem onConnected_goes (session : Session) (world : World) :
    session.Goes Effect.IsPlain (·.isTcp = true) (session.onConnected world) := by
  unfold onConnected
  split
  · split
    · exact startForwarding_goes session
    · exact .await rfl
  · exact .of_same rfl rfl rfl rfl (.inl rfl)

/-- Connecting starts to forward whatever the state was. -/
theorem doConnect_goes (session : Session) (endpoint : Endpoint) :
    { session with state := .forward }.Goes Effect.IsPlain (·.isTcp = true)
      (session.doConnect endpoint) :=
  (Goes.emit trivial).trans (.await rfl)

/-- Resolving a TCP target, or connecting to its cached endpoint. -/
theorem doResolve_goes (session : Session) (world : World) :
    ∃ state, { session with state := state }.Goes Effect.IsPlain (·.isTcp = true)
      (session.doResolve world) := by
  unfold doResolve
  dsimp only
  split
  · refine ⟨.forward, Goes.trans ?_ (doConnect_goes _ _)⟩
    exact .of_same rfl rfl rfl rfl (.inl rfl)
  · refine ⟨session.state, Goes.trans ?_ ((Goes.emit trivial).trans (.await rfl))⟩
    exact .of_same rfl rfl rfl rfl (.inl rfl)

/-- The handler of the TCP resolution. -/
theorem onResolved_goes (session : Session) (dnsKey : Bytes) (results : List Endpoint) :
    ∃ state, { session with state := state }.Goes Effect.IsPlain (·.isTcp = true)
      (session.onResolved dnsKey results) := by
  unfold onResolved
  split
  · exact ⟨session.state, .destroy⟩
  · refine ⟨.forward, Goes.trans ?_ (doConnect_goes _ _)⟩
    exact Goes.emit trivial

end Tcp

section Udp

variable {session : Session} {records : Effect → Prop}

/-- Starting reads of the UDP mode. -/
theorem udpAsyncBidirectionalRead_goes (session : Session) (directions : List Direction) :
    session.Goes records Op.IsLater (session.udpAsyncBidirectionalRead directions) := by
  unfold udpAsyncBidirectionalRead
  dsimp only
  split <;> split
  · exact (Goes.await trivial).trans (.await trivial)
  · exact .await trivial
  · exact .await trivial
  · exact .refl

/-- Sending a datagram. -/
theorem asyncSendTo_goes (session : Session) {payload : Bytes} {endpoint : Endpoint}
    (fine : records (.datagram endpoint payload)) (directions : List Direction) :
    session.Goes records Op.IsLater (session.asyncSendTo payload endpoint directions) :=
  (Goes.emit fine).trans (.await trivial)

/-- Sending the first datagram. -/
theorem openAndSend_goes (session : Session) (world : World) {payload : Bytes}
    {endpoint : Endpoint} (fine : records (.datagram endpoint payload)) :
    session.Goes records Op.IsLater (session.openAndSend world payload endpoint) := by
  unfold openAndSend
  split
  · exact asyncSendTo_goes session fine _
  · split
    · refine Goes.trans ?_ (asyncSendTo_goes _ fine _)
      exact .of_same rfl rfl rfl rfl (.inl rfl)
    · exact .destroy

/-- A parsed packet is sent to the cached endpoint of its target, or its name is resolved. -/
theorem dispatch_goes (session : Session) (world : World) (first : Bool) {packet : UDPPacket}
    {unparsed : Bytes} {len : Nat} (found : UDPPacket.parse unparsed = some (packet, len))
    {send : Session → Endpoint → Session}
    (sends : ∀ endpoint, Effect.IsFrom world unparsed (.datagram endpoint packet.payload) →
      session.Goes (Effect.IsFrom world unparsed) Op.IsLater (send session endpoint)) :
    session.Goes (Effect.IsFrom world unparsed) Op.IsLater
      (session.dispatch world first packet send) := by
  unfold dispatch
  dsimp only
  split
  · rename_i endpoint cached
    exact sends endpoint ⟨packet, len, found, rfl, cached⟩
  · refine (Goes.emit ?_).trans (.await rfl)
    exact trivial

/-- The first-packet path behind the packet it parses. -/
theorem handleTrojanUdpProxy_goes (session : Session) (world : World) :
    { session with state := .forward }.skipPacket.Goes (Effect.IsFrom world session.remaining)
      Op.IsUdp (session.handleTrojanUdpProxy world) := by
  have same : { session with state := .forward }.remaining = session.remaining := rfl
  cases found : UDPPacket.parse session.remaining with
  | none =>
    simp only [handleTrojanUdpProxy, skipPacket, same, found]
    split
    · exact .destroy
    · exact .await trivial
  | some read =>
    simp only [handleTrojanUdpProxy, skipPacket, same, found]
    refine Goes.udp (dispatch_goes _ world true found fun endpoint fine => ?_)
    exact openAndSend_goes _ world fine

/-- The steady path behind the packet it parses. -/
theorem onUdpRead_goes (session : Session) (world : World) :
    session.skipPacket.Goes (Effect.IsFrom world session.remaining) Op.IsLater
      (session.onUdpRead world) := by
  cases found : UDPPacket.parse session.remaining with
  | none =>
    simp only [onUdpRead, skipPacket, found]
    split
    · exact .destroy
    · exact udpAsyncBidirectionalRead_goes session _
  | some read =>
    simp only [onUdpRead, skipPacket, found]
    refine dispatch_goes _ world false found fun endpoint fine => ?_
    exact asyncSendTo_goes _ fine _

/-- Too many unparsed bytes without a packet end the session. -/
theorem handleTrojanUdpProxy_tooLong (world : World)
    (none : UDPPacket.parse session.remaining = none) (long : session.tooLong = true) :
    (session.handleTrojanUdpProxy world).state = .destroy := by
  have same : { session with state := .forward }.remaining = session.remaining := rfl
  have still : { session with state := .forward }.tooLong = true := long
  simp only [handleTrojanUdpProxy, same, none, still, ↓reduceIte, destroy_state]

/-- Too many unparsed bytes without a packet end the session. -/
theorem onUdpRead_tooLong (world : World) (none : UDPPacket.parse session.remaining = none)
    (long : session.tooLong = true) : (session.onUdpRead world).state = .destroy := by
  simp only [onUdpRead, none, long, ↓reduceIte, destroy_state]

/-- The handlers of the UDP resolutions. -/
theorem onUdpResolved_goes (session : Session) (world : World) (first : Bool) (packet : UDPPacket)
    (key : Bytes) {results : List Endpoint} {endpoint : Endpoint}
    (chosen : chooseEndpoint results = some endpoint) :
    (session.emit (.putUdp key endpoint)).Goes (· = .datagram endpoint packet.payload) Op.IsLater
      (session.onUdpResolved world first packet key results) := by
  simp only [onUdpResolved, chosen]
  split
  · exact openAndSend_goes _ world rfl
  · refine asyncSendTo_goes _ ?_ _
    exact rfl

end Udp

/-- The bytes a read leaves in the buffer of the UDP mode, with the effect that records the
read. -/
def packetSource (session : Session) (data : Bytes) : Op → Option (Effect × Bytes)
  | .firstRead => some (.firstMessage data, (session.trojanReq.parse data).2.payload)
  | .udpFirstRead | .udpRead => some (.received .down data, session.upstreamUdpBuff ++ data)
  | _ => none

/-- Three operations read packets. -/
theorem packetSource_op {session : Session} {data : Bytes} {op : Op} {source : Effect × Bytes}
    (found : session.packetSource data op = some source) :
    op = .firstRead ∨ op = .udpFirstRead ∨ op = .udpRead := by
  cases op <;> simp_all [packetSource]

/-- The effect that records a read is plain. -/
theorem packetSource_plain {session : Session} {data buff : Bytes} {op : Op} {effect : Effect}
    (found : session.packetSource data op = some (effect, buff)) : effect.IsPlain := by
  rcases packetSource_op found with rfl | rfl | rfl <;> cases found <;> trivial

/-- A session that has recorded a read and holds its bytes in the buffer of the UDP mode. -/
structure Holds (session : Session) (effect : Effect) (buff : Bytes) (held : Session) : Prop where
  /-- The read is recorded. -/
  trace : held.trace = session.trace ++ [effect]
  /-- Nothing was started. -/
  pending : held.pending = session.pending
  /-- The bytes are in the buffer. -/
  buff : held.upstreamUdpBuff = buff
  /-- The offset is the same. -/
  offset : held.udpBuffOffset = session.udpBuffOffset

/-- What the handler of an operation makes of a session, by the operation and its result. -/
inductive Outcome (session : Session) (world : World) : Op → Result → Session → Prop where
  /-- Every failed operation destroys the session. -/
  | failed {op : Op} : Outcome session world op .failed session.destroy
  /-- The greeting goes on. -/
  | greeted {op later : Op} (hello : op.isGreeting = true) (greeting : later.isGreeting = true) :
      Outcome session world op .done (session.await later)
  /-- An operation of the TCP mode, which may set the session to forwarding. -/
  | tcp {op : Op} {result : Result} {next : Session} (own : op.isTcp = true) (state : SessionState)
      (goes : { session with state := state }.Goes Effect.IsPlain (·.isTcp = true) next) :
      Outcome session world op result next
  /-- The first message is refused or asks for a TCP target. -/
  | service {data : Bytes} {next : Session} (state : SessionState)
      (goes : { session.emit (.firstMessage data) with state := state }.Goes Effect.IsPlain
        (·.isTcp = true) next) :
      Outcome session world .firstRead (.read data) next
  /-- Bytes of the client are held in the buffer, and its first packet is handled. -/
  | packet {op : Op} {data buff : Bytes} {effect : Effect} {held next : Session}
      (source : session.packetSource data op = some (effect, buff))
      (holds : session.Holds effect buff held)
      (goes : held.skipPacket.Goes (Effect.IsFrom world held.remaining) Op.IsUdp next)
      (ended : UDPPacket.parse held.remaining = none → held.tooLong = true →
        next.state = .destroy) :
      Outcome session world op (.read data) next
  /-- A resolved name is cached and its packet sent. -/
  | resolved {first : Bool} {packet : UDPPacket} {key : Bytes} {results : List Endpoint}
      {endpoint : Endpoint} {next : Session} (chosen : chooseEndpoint results = some endpoint)
      (goes : (session.emit (.putUdp key endpoint)).Goes (· = .datagram endpoint packet.payload)
        Op.IsUdp next) :
      Outcome session world (.udpResolve first packet key) (.resolved results) next
  /-- A name without endpoints destroys the session. -/
  | unresolved {first : Bool} {packet : UDPPacket} {key : Bytes} {results : List Endpoint}
      (none : chooseEndpoint results = none) :
      Outcome session world (.udpResolve first packet key) (.resolved results) session.destroy
  /-- Behind a send or a write of the UDP mode, reads start. -/
  | resumed {op : Op} {next : Session} (own : op.IsUdp)
      (goes : session.Goes (fun _ => False) Op.IsUdp next) : Outcome session world op .done next
  /-- A datagram of the target is written to the client. -/
  | replied {sender : Endpoint} {data : Bytes} {next : Session}
      (goes : ((session.emit (.udpReceived sender data)).emit
        (.udpReply (UDPPacket.generate .unspecified data))).Goes (fun _ => False) Op.IsUdp next) :
      Outcome session world .udpReceive (.received sender data) next

section Handlers

variable {session next parsed : Session} {config : ServerConfig} {world : World} {op : Op}
  {result : Result} {data : Bytes}

/-- The first-packet path, on bytes held. -/
theorem handleTrojanUdpProxy_outcome {effect : Effect} {buff : Bytes} {held : Session}
    (source : session.packetSource data op = some (effect, buff))
    (holds : session.Holds effect buff held) :
    session.Outcome world op (.read data) (held.handleTrojanUdpProxy world) := by
  have forward : session.Holds effect buff { held with state := .forward } :=
    ⟨holds.trace, holds.pending, holds.buff, holds.offset⟩
  exact .packet source forward (handleTrojanUdpProxy_goes held world)
    (handleTrojanUdpProxy_tooLong world)

/-- The password check and the choice of the service: a TCP target, the UDP mode of a Trojan
client, or the end. -/
theorem authenticate_outcome (trace : parsed.trace = session.trace ++ [.firstMessage data])
    (pending : parsed.pending = session.pending)
    (buff : parsed.upstreamUdpBuff = session.upstreamUdpBuff)
    (offset : parsed.udpBuffOffset = session.udpBuffOffset)
    (payload : parsed.vprotocol = false →
      parsed.trojanReq.payload = (session.trojanReq.parse data).2.payload) (valid : Bool) :
    session.Outcome world .firstRead (.read data) (parsed.authenticate config world valid) := by
  have served (state : SessionState) {next : Session}
      (goes : { parsed with state := state }.Goes Effect.IsPlain (·.isTcp = true) next) :
      session.Outcome world .firstRead (.read data) next := by
    refine .service state (Goes.trans ?_ goes)
    exact .of_same trace pending buff offset (.inl rfl)
  unfold authenticate
  split
  · split
    · split
      · rename_i udp
        refine handleTrojanUdpProxy_outcome rfl ?_
        exact ⟨trace, pending, payload udp.1, offset⟩
      · obtain ⟨state, goes⟩ := doResolve_goes parsed world
        exact served state goes
    · exact served parsed.state .destroy
  · exact served parsed.state .destroy

/-- What the first message leads to. -/
theorem onFirstMessage_outcome (session : Session) (config : ServerConfig) (world : World)
    (data : Bytes) :
    session.Outcome world .firstRead (.read data)
      (((session.fill .down data).emit (.firstMessage data)).onFirstMessage config world
        data.length) := by
  have message : ((session.fill .down data).emit (.firstMessage data)).inBuf.take data.length =
      data := by simp [emit, fill]
  unfold onFirstMessage
  simp only [message]
  split
  · split
    · exact .service session.state (.of_same rfl rfl rfl rfl (.inl rfl))
    · apply authenticate_outcome
      case payload =>
        intro noV
        cases noV
      all_goals rfl
  · apply authenticate_outcome
    case payload =>
      intro _
      rfl
    all_goals rfl

/-- A chunk of the client is held in the buffer of the UDP mode. -/
theorem receive_holds (session : Session) (data : Bytes) :
    session.Holds (.received .down data) (session.upstreamUdpBuff ++ data)
      ((session.receive .down data).appendUdp data.length) where
  trace := rfl
  pending := rfl
  buff := by
    have taken : ((session.receive .down data).buffer .down).take data.length = data :=
      receive_buffer_take
    exact congrArg (session.upstreamUdpBuff ++ ·) taken
  offset := rfl

/-- **Every handler has one of the outcomes.** -/
theorem handle_outcome (session : Session) (config : ServerConfig) (world : World)
    (admitted : op.admits result = true) :
    session.Outcome world op result (session.handle config world op result) := by
  cases result with
  | failed =>
    rw [handle_failed]
    exact .failed
  | done =>
    cases op with
    | handshake =>
      simp only [handle]
      split
      · exact .greeted rfl rfl
      · exact .greeted rfl rfl
    | accept => exact .greeted rfl rfl
    | connect => exact .tcp rfl session.state (onConnected_goes session world)
    | payloadWrite =>
      refine .tcp rfl session.state (Goes.trans ?_ (startForwarding_goes _))
      exact .emit trivial
    | udpSend directions => exact .resumed trivial (udpAsyncBidirectionalRead_goes session _).udp
    | udpWrite => exact .resumed trivial (udpAsyncBidirectionalRead_goes session [.up]).udp
    | _ => cases admitted
  | read data =>
    cases op with
    | firstRead => exact onFirstMessage_outcome session config world data
    | read direction =>
      have received :
          session.Goes Effect.IsPlain (·.isTcp = true) (session.receive direction data) :=
        Goes.fill.trans (.emit trivial)
      simp only [handle]
      split
      · exact .tcp rfl session.state received
      · exact .tcp rfl session.state (received.trans (asyncBidirectionalWrite_goes _ _ _))
    | udpFirstRead =>
      exact handleTrojanUdpProxy_outcome rfl (receive_holds session data)
    | udpRead =>
      exact .packet rfl (receive_holds session data) (onUdpRead_goes _ world).udp
        (onUdpRead_tooLong world)
    | _ => cases admitted
  | sent count =>
    cases op with
    | send direction position offered =>
      refine .tcp rfl session.state (Goes.trans (Goes.trans ?_ .setLane) (doSend_goes _ _))
      exact .emit trivial
    | _ => cases admitted
  | resolved results =>
    cases op with
    | resolve dnsKey =>
      obtain ⟨state, goes⟩ := onResolved_goes session dnsKey results
      exact .tcp rfl state goes
    | udpResolve first packet key =>
      cases chosen : chooseEndpoint results with
      | none =>
        simp only [handle, onUdpResolved, chosen]
        exact .unresolved chosen
      | some endpoint => exact .resolved chosen (onUdpResolved_goes session world _ _ _ chosen).udp
    | _ => cases admitted
  | received sender data =>
    cases op with
    | udpReceive =>
      have taken : ((session.fill .up data).emit (.udpReceived sender data)).outBuf.take
          data.length = data := by simp [emit, fill]
      simp only [handle, taken]
      refine .replied (Goes.trans ?_ (.await trivial))
      exact .of_same rfl rfl rfl rfl (.inl rfl)
    | _ => cases admitted

/-- Completing an operation has one of the outcomes. -/
theorem step_outcome {event : Event} (stepped : session.step config event = some next) :
    event.op ∈ session.pending ∧ event.op.admits event.result = true ∧
      (session.complete event.op).Outcome event.world event.op event.result next := by
  obtain ⟨member, admitted, rfl⟩ := step_some stepped
  exact ⟨member, admitted, handle_outcome _ config event.world admitted⟩

/-- The password check extends the trace. -/
theorem authenticate_extends (session : Session) (world : World) (valid : Bool) :
    session.trace <+: (session.authenticate config world valid).trace := by
  unfold authenticate
  split
  · split
    · split
      · have extended := (handleTrojanUdpProxy_goes
          { session with upstreamUdpBuff := session.trojanReq.payload } world).extends
        rwa [skipPacket_trace] at extended
      · obtain ⟨state, goes⟩ := doResolve_goes session world
        exact goes.extends
    · rw [destroy_trace]
  · rw [destroy_trace]

/-- Every outcome extends the trace. -/
theorem Outcome.extends (outcome : session.Outcome world op result next) :
    session.trace <+: next.trace := by
  have recorded (effect : Effect) : session.trace <+: (session.emit effect).trace :=
    List.prefix_append _ _
  cases outcome with
  | failed => rw [destroy_trace]
  | greeted => exact List.prefix_rfl
  | tcp own state goes => exact goes.extends
  | service state goes => exact (recorded _).trans goes.extends
  | packet source holds goes ended =>
    have extended := goes.extends
    rw [skipPacket_trace, holds.trace] at extended
    exact (recorded _).trans extended
  | resolved chosen goes => exact (recorded _).trans goes.extends
  | unresolved none => rw [destroy_trace]
  | resumed own goes => exact goes.extends
  | replied goes => exact (recorded _).trans ((List.prefix_append _ _).trans goes.extends)

/-- An operation of the TCP mode starts its own operations and leaves the UDP mode alone. -/
theorem Outcome.goes_of_tcp (outcome : session.Outcome world op result next)
    (own : op.isTcp = true) :
    ∃ state, { session with state := state }.Goes Effect.IsPlain (·.isTcp = true) next := by
  obtain ⟨late, other⟩ := Op.isTcp_exclusive own
  cases outcome with
  | failed => exact ⟨session.state, .destroy⟩
  | greeted hello => exact absurd hello late
  | tcp _ state goes => exact ⟨state, goes⟩
  | packet source =>
    rcases packetSource_op source with rfl | rfl | rfl
    · exact absurd rfl late
    · exact absurd trivial other
    · exact absurd trivial other
  | resumed udp => exact absurd udp other
  | _ => cases own

/-- The TCP mode stays in the TCP mode. -/
theorem OnlyTcp.outcome (tcp : session.OnlyTcp) (own : op.isTcp = true)
    (outcome : session.Outcome world op result next) : next.OnlyTcp := by
  obtain ⟨state, goes⟩ := outcome.goes_of_tcp own
  exact fun op member => (goes.pending member).elim (tcp op) id

end Handlers

end Session

end Overplus.Server
