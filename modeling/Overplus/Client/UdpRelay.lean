import Overplus.Protocol.Socks5
import Overplus.Protocol.UdpFrame

/-!
# The UDP relay of an association (`Client/UdpRelay.cpp`)

A relay owns a local socket on which applications send SOCKS5 datagrams. It turns each into a
frame for the channel, remembers which application asked for which target, and sends a reply
frame to the application it finds for the reply's source.

A receive is two events: the datagram and its sender are stored when the datagram arrives, and
the handler runs later. A reply may be handled in between. A trace records what arrived, what
was handled and what was sent to the applications.
-/
namespace Overplus.Client

/-- The receive on the local socket. -/
inductive LocalReceive where
  /-- No receive is in flight. -/
  | idle
  /-- A receive waits for a datagram. -/
  | waiting
  /-- A datagram was stored and its handler is due. -/
  | arrived (data : Bytes)
deriving DecidableEq, Repr

/-- What a relay takes in and sends out. -/
inductive RelayEffect where
  /-- A datagram arrived on the local socket. -/
  | arrived (sender : Endpoint) (data : Bytes)
  /-- A datagram was handled while `sender_ep_` was this endpoint. -/
  | handled (sender : Endpoint) (request : UdpRequest)
  /-- A reply frame was turned into a datagram for an application. -/
  | replied (frame : UdpFrame) (app : Endpoint) (packet : Bytes)
deriving DecidableEq

/-- `UdpRelay`, its receive and its trace. -/
structure UdpRelay where
  /-- `session_id_`. -/
  sessionId : UInt16 := 0
  /-- `running_`. -/
  running : Bool := false
  /-- `sender_ep_`. -/
  senderEp : Endpoint := .unspecified
  /-- The receive on `local_socket_`. -/
  receive : LocalReceive := .idle
  /-- `pending_frames_`. -/
  pendingFrames : List Bytes := []
  /-- `target_to_sender_`. -/
  targetToSender : Bytes → Option Endpoint := fun _ => none
  /-- What the relay has done. -/
  trace : List RelayEffect := []

namespace UdpRelay

/-- Record an effect. -/
def emit (relay : UdpRelay) (effect : RelayEffect) : UdpRelay :=
  { relay with trace := relay.trace ++ [effect] }

/-- `do_receive_local`. -/
def doReceiveLocal (relay : UdpRelay) : UdpRelay := { relay with receive := .waiting }

/-- `start`. -/
def start (sessionId : UInt16) : UdpRelay :=
  doReceiveLocal { sessionId := sessionId, running := true }

/-- `stop`. -/
def stop (relay : UdpRelay) : UdpRelay := { relay with running := false }

/-- A frame behind the session id, as it is sent on the channel. -/
def packet (relay : UdpRelay) (frame : Bytes) : Bytes :=
  [(relay.sessionId >>> 8).toUInt8, relay.sessionId.toUInt8] ++ frame

/-- `flush_pending`, with the packets it sends. -/
def flushPending (relay : UdpRelay) (ready : Bool) : UdpRelay × List Bytes :=
  if ready then ({ relay with pendingFrames := [] }, relay.pendingFrames.map relay.packet)
  else (relay, [])

/-- The key of a target in `target_to_sender_`. -/
def targetKey (address : Bytes) (port : UInt16) : Bytes := address ++ [58] ++ decimal port.toNat

/-- The datagram a reply frame is turned into. -/
def response (frame : UdpFrame) : UdpRequest where
  addrType := frame.addrType
  dstAddr := frame.address
  dstPort := frame.port
  payload := frame.payload

/-- Send an accepted reply frame to an application. -/
def deliver (relay : UdpRelay) (frame : UdpFrame) : UdpRelay :=
  let key := targetKey frame.address frame.port
  let app := (relay.targetToSender key).getD relay.senderEp
  { relay with targetToSender := Function.update relay.targetToSender key none }.emit
    (.replied frame app (response frame).serialize)

/-- `on_dtls_data`. -/
def onDtlsData (relay : UdpRelay) (data : Bytes) : Except Fault UdpRelay :=
  if relay.running then do
    let parsed ← UdpFrame.parseFresh data
    .ok (if parsed.accepted then relay.deliver parsed.frame else relay)
  else .ok relay

/-- The frame of a datagram. -/
def frameOf (request : UdpRequest) : Bytes :=
  if request.addrType = 0x03 then
    UdpFrame.generateDomain request.dstAddr request.dstPort request.payload
  else UdpFrame.generate request.destEndpoint request.payload

/-- A datagram and its sender are stored by the receive. -/
def arrive (relay : UdpRelay) (sender : Endpoint) (data : Bytes) : UdpRelay :=
  { relay with senderEp := sender, receive := .arrived data }.emit (.arrived sender data)

/-- Remember the application of a datagram and send or queue its frame. -/
def forward (relay : UdpRelay) (request : UdpRequest) (ready : Bool) : UdpRelay × Option Bytes :=
  let key := targetKey request.dstAddr request.dstPort
  let relay := { relay with
    targetToSender := Function.update relay.targetToSender key (some relay.senderEp) }
  let relay := relay.emit (.handled relay.senderEp request)
  let frame := frameOf request
  if ready then (relay, some (relay.packet frame))
  else ({ relay with pendingFrames := relay.pendingFrames ++ [frame] }, none)

/-- The receive handler of `do_receive_local`, with the packet it sends. -/
def onReceiveLocal (relay : UdpRelay) (data : Bytes) (ready : Bool) : UdpRelay × Option Bytes :=
  if relay.running then
    if data.length < 4 then (relay.doReceiveLocal, none)
    else match UdpRequest.parse data with
    | none => (relay.doReceiveLocal, none)
    | some request =>
      let forwarded := relay.forward request ready
      (forwarded.1.doReceiveLocal, forwarded.2)
  else ({ relay with receive := .idle }, none)

/-- The receive handler of `do_receive_local` on an error. -/
def onReceiveFailed (relay : UdpRelay) : UdpRelay :=
  if relay.running then relay.doReceiveLocal else { relay with receive := .idle }

end UdpRelay

/-- What can happen to a relay. -/
inductive RelayEvent where
  /-- A datagram arrives at the local socket. -/
  | arrive (sender : Endpoint) (data : Bytes)
  /-- The datagram that has arrived is handled, with the channel ready or not. -/
  | handle (ready : Bool)
  /-- The receive completes with an error. -/
  | failed
  /-- A frame comes from the server. -/
  | reply (data : Bytes)
  /-- The queue is flushed, with the channel ready or not. -/
  | flush (ready : Bool)
  /-- The relay is stopped. -/
  | stop

namespace UdpRelay

/-- One event of a relay, where it can happen. A frame that makes the decoder throw ends the
process. -/
def step (relay : UdpRelay) : RelayEvent → Option UdpRelay
  | .arrive sender data =>
    if relay.receive = .waiting ∧ data.length ≤ 65535 then some (relay.arrive sender data) else none
  | .handle ready =>
    match relay.receive with
    | .arrived data => some (relay.onReceiveLocal data ready).1
    | _ => none
  | .failed => if relay.receive = .waiting then some relay.onReceiveFailed else none
  | .reply data =>
    match relay.onDtlsData data with
    | .ok changed => some changed
    | .error _ => none
  | .flush ready => some (relay.flushPending ready).1
  | .stop => some relay.stop

variable {relay changed : UdpRelay} {data : Bytes} {ready : Bool}

/-- A key names one address and one port: the text of a port has no colon. -/
theorem targetKey_injective {address other : Bytes} {port second : UInt16}
    (same : targetKey address port = targetKey other second) : address = other ∧ port = second := by
  obtain ⟨address, port⟩ := append_colon_decimal_inj same
  exact ⟨address, UInt16.toNat_inj.mp port⟩

@[simp]
theorem flushPending_sessionId : (relay.flushPending ready).1.sessionId = relay.sessionId := by
  unfold flushPending
  split <;> rfl

/-- What handling a datagram does to the table, the queue and the trace, and what it sends. -/
theorem onReceiveLocal_cases (relay : UdpRelay) (data : Bytes) (ready : Bool) :
    (∃ receive, relay.onReceiveLocal data ready = ({ relay with receive := receive }, none)) ∨
      ∃ request, relay.running = true ∧ UdpRequest.parse data = some request ∧
        relay.onReceiveLocal data ready =
          ((relay.forward request ready).1.doReceiveLocal, (relay.forward request ready).2) := by
  unfold onReceiveLocal
  split
  · split
    · exact .inl ⟨.waiting, rfl⟩
    · split
      · exact .inl ⟨.waiting, rfl⟩
      · rename_i running _ _ request parsed
        exact .inr ⟨request, running, parsed, rfl⟩
  · exact .inl ⟨.idle, rfl⟩

/-- A reply is delivered or leaves the relay as it is. -/
theorem onDtlsData_cases (handled : relay.onDtlsData data = .ok changed) :
    changed = relay ∨ ∃ parsed, relay.running = true ∧ UdpFrame.parseFresh data = .ok parsed ∧
      parsed.accepted = true ∧ changed = relay.deliver parsed.frame := by
  unfold onDtlsData at handled
  split at handled
  · rename_i running
    obtain ⟨parsed, decoded, finished⟩ := bind_ok handled
    obtain rfl := Except.ok.inj finished
    split
    · rename_i accepted
      exact .inr ⟨parsed, running, decoded, accepted, rfl⟩
    · exact .inl rfl
  · exact .inl (Except.ok.inj handled).symm

/-- A reply leaves the relay its id. -/
theorem onDtlsData_sessionId (handled : relay.onDtlsData data = .ok changed) :
    changed.sessionId = relay.sessionId := by
  rcases onDtlsData_cases handled with rfl | ⟨parsed, -, -, -, rfl⟩ <;> rfl

@[simp]
theorem onReceiveLocal_sessionId : (relay.onReceiveLocal data ready).1.sessionId =
    relay.sessionId := by
  rcases onReceiveLocal_cases relay data ready with ⟨receive, same⟩ | ⟨request, -, -, same⟩
  · rw [same]
  · rw [same]
    cases ready <;> rfl

@[simp]
theorem onReceiveFailed_sessionId : relay.onReceiveFailed.sessionId = relay.sessionId := by
  unfold onReceiveFailed
  split <;> rfl

end UdpRelay

end Overplus.Client
