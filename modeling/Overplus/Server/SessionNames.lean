import Overplus.Server.SessionSteps

/-!
# Where a session takes its TCP target from

A session looks for a TCP target in two handlers only: the one of the first message, which asks
the cache and else starts a resolution, and the one of that resolution, which enters the answer in
the cache. Both go on to the endpoint they found. Everything else a session does is steady: it
neither connects nor enters a TCP name nor starts a resolution, and it keeps the name it has.
-/
namespace Overplus.Server

/-- Connections, and entries in the TCP cache. -/
def Effect.isTarget : Effect → Bool
  | .connect _ | .putTcp _ _ => true
  | _ => false

namespace Session

/-- The session went on without looking for its target. -/
structure Steady (session next : Session) : Prop where
  /-- It neither connects nor enters a TCP name. -/
  traced : ∃ effects, next.trace = session.trace ++ effects ∧
    ∀ effect ∈ effects, effect.isTarget = false
  /-- It starts no resolution of a TCP name. -/
  asks : ∀ key, .resolve key ∈ next.pending → .resolve key ∈ session.pending
  /-- It keeps its host. -/
  host : next.remoteHost = session.remoteHost
  /-- It keeps its service. -/
  port : next.remotePort = session.remotePort

section Relation

variable {session middle next : Session} {effect : Effect} {op : Op} {direction : Direction}
  {lane : Lane} {data : Bytes}

/-- A session that differs in other fields only. -/
theorem Steady.of_same (trace : next.trace = session.trace)
    (pending : next.pending = session.pending) (host : next.remoteHost = session.remoteHost)
    (port : next.remotePort = session.remotePort) :
    session.Steady next where
  traced := ⟨[], by simp [trace], by simp⟩
  asks := by simp [pending]
  host := host
  port := port

/-- Doing nothing. -/
theorem Steady.refl : session.Steady session := .of_same rfl rfl rfl rfl

/-- Doing one thing after another. -/
theorem Steady.trans (first : session.Steady middle) (second : middle.Steady next) :
    session.Steady next where
  traced := by
    obtain ⟨before, traced, fine⟩ := first.traced
    obtain ⟨after, tracedAfter, fineAfter⟩ := second.traced
    refine ⟨before ++ after, by rw [tracedAfter, traced, List.append_assoc], ?_⟩
    intro effect member
    exact (List.mem_append.mp member).elim (fine effect) (fineAfter effect)
  asks key member := first.asks key (second.asks key member)
  host := second.host.trans first.host
  port := second.port.trans first.port

/-- Recording an effect. -/
theorem Steady.emit (other : effect.isTarget = false) : session.Steady (session.emit effect) where
  traced := ⟨[effect], rfl, by simp [other]⟩
  asks _ member := member
  host := rfl
  port := rfl

/-- Starting an operation. -/
theorem Steady.await (other : ∀ key, op ≠ .resolve key) : session.Steady (session.await op) where
  traced := ⟨[], (List.append_nil _).symm, by simp⟩
  asks key member := by
    rcases List.mem_append.mp member with old | new
    · exact old
    · exact absurd (List.mem_singleton.mp new).symm (other key)
  host := rfl
  port := rfl

/-- Changing a lane. -/
theorem Steady.setLane : session.Steady (session.setLane direction lane) := by
  cases direction <;> exact .of_same rfl rfl rfl rfl

/-- Storing bytes in a read buffer. -/
theorem Steady.fill : session.Steady (session.fill direction data) := by
  cases direction <;> exact .of_same rfl rfl rfl rfl

/-- Being destroyed. -/
theorem Steady.destroy : session.Steady session.destroy := by
  unfold Session.destroy
  split
  · exact .refl
  · exact .of_same rfl rfl rfl rfl

/-- An operation completes. -/
theorem Steady.complete (op : Op) : session.Steady (session.complete op) where
  traced := ⟨[], (List.append_nil _).symm, by simp⟩
  asks _ member := List.mem_of_mem_erase member
  host := rfl
  port := rfl

end Relation

section Handlers

variable {session next : Session} {config : ServerConfig} {world : World} {op : Op}
  {result : Result} {event : Event}

/-- Starting reads of the tunnel. -/
theorem Steady.asyncBidirectionalRead (session : Session) (directions : List Direction) :
    session.Steady (session.asyncBidirectionalRead directions) := by
  unfold Session.asyncBidirectionalRead
  dsimp only
  split <;> split
  · exact (Steady.await (by simp)).trans (.await (by simp))
  · exact .await (by simp)
  · exact .await (by simp)
  · exact .refl

/-- Sending from a ring. -/
theorem Steady.doSend (session : Session) (direction : Direction) :
    session.Steady (session.doSend direction) := by
  unfold Session.doSend
  dsimp only
  split
  · split
    · exact Steady.setLane.trans (.asyncBidirectionalRead _ _)
    · exact .setLane
  · exact .await (by simp)

/-- Queueing a chunk. -/
theorem Steady.asyncBidirectionalWrite (session : Session) (direction : Direction) (len : Nat) :
    session.Steady (session.asyncBidirectionalWrite direction len) := by
  have queued (data : Bytes) : session.Steady (session.enqueueWrite direction data) := by
    unfold enqueueWrite
    dsimp only
    split
    · exact .setLane
    · exact Steady.setLane.trans (.doSend _ _)
  unfold Session.asyncBidirectionalWrite
  dsimp only
  split
  · exact (queued _).trans (.asyncBidirectionalRead _ _)
  · exact (queued _).trans .setLane

/-- Starting to forward. -/
theorem Steady.startForwarding (session : Session) : session.Steady session.startForwarding :=
  (Steady.emit rfl).trans (.asyncBidirectionalRead _ _)

/-- The handler of the connection. -/
theorem Steady.onConnected (session : Session) (world : World) :
    session.Steady (session.onConnected world) := by
  unfold Session.onConnected
  split
  · split
    · exact .startForwarding session
    · exact .await (by simp)
  · exact .of_same rfl rfl rfl rfl

/-- Starting reads of the UDP mode. -/
theorem Steady.udpAsyncBidirectionalRead (session : Session) (directions : List Direction) :
    session.Steady (session.udpAsyncBidirectionalRead directions) := by
  unfold Session.udpAsyncBidirectionalRead
  dsimp only
  split <;> split
  · exact (Steady.await (by simp)).trans (.await (by simp))
  · exact .await (by simp)
  · exact .await (by simp)
  · exact .refl

/-- Sending a datagram. -/
theorem Steady.asyncSendTo (session : Session) (payload : Bytes) (endpoint : Endpoint)
    (directions : List Direction) :
    session.Steady (session.asyncSendTo payload endpoint directions) :=
  (Steady.emit rfl).trans (.await (by simp))

/-- Sending the first datagram. -/
theorem Steady.openAndSend (session : Session) (world : World) (payload : Bytes)
    (endpoint : Endpoint) : session.Steady (session.openAndSend world payload endpoint) := by
  unfold Session.openAndSend
  split
  · exact .asyncSendTo session _ _ _
  · split
    · have opened : session.Steady { session with udpOpen := true } := .of_same rfl rfl rfl rfl
      exact opened.trans (.asyncSendTo _ _ _ _)
    · exact .destroy

/-- Sending a packet or resolving its name. -/
theorem Steady.dispatch (session : Session) (world : World) (first : Bool) (packet : UDPPacket)
    {send : Session → Endpoint → Session}
    (sends : ∀ endpoint, session.Steady (send session endpoint)) :
    session.Steady (session.dispatch world first packet send) := by
  unfold Session.dispatch
  dsimp only
  split
  · exact sends _
  · exact (Steady.emit rfl).trans (.await (by simp))

/-- Stepping over a packet. -/
theorem Steady.advance (session : Session) (len : Nat) :
    session.Steady (session.advance len) := by
  unfold Session.advance
  dsimp only
  split <;> exact .of_same rfl rfl rfl rfl

/-- The first-packet path. -/
theorem Steady.handleTrojanUdpProxy (session : Session) (world : World) :
    session.Steady (session.handleTrojanUdpProxy world) := by
  have forward : session.Steady { session with state := .forward } := .of_same rfl rfl rfl rfl
  unfold Session.handleTrojanUdpProxy
  dsimp only
  split
  · split
    · exact forward.trans .destroy
    · exact forward.trans (.await (by simp))
  · refine (forward.trans (.advance _ _)).trans (.dispatch _ world _ _ fun endpoint => ?_)
    exact .openAndSend _ _ _ _

/-- The steady path of the UDP mode. -/
theorem Steady.onUdpRead (session : Session) (world : World) :
    session.Steady (session.onUdpRead world) := by
  unfold Session.onUdpRead
  split
  · split
    · exact .destroy
    · exact .udpAsyncBidirectionalRead _ _
  · refine (Steady.advance _ _).trans (.dispatch _ world _ _ fun endpoint => ?_)
    exact .asyncSendTo _ _ _ _

/-- The handlers of the UDP resolutions. -/
theorem Steady.onUdpResolved (session : Session) (world : World) (first : Bool)
    (packet : UDPPacket) (key : Bytes) (results : List Endpoint) :
    session.Steady (session.onUdpResolved world first packet key results) := by
  unfold Session.onUdpResolved
  split
  · exact .destroy
  · dsimp only
    split
    · exact (Steady.emit rfl).trans (.openAndSend _ _ _ _)
    · exact (Steady.emit rfl).trans (.asyncSendTo _ _ _ _)

/-- Bytes of the client are added to the buffer of the UDP mode. -/
theorem Steady.held (session : Session) (data : Bytes) :
    session.Steady ((session.receive .down data).appendUdp data.length) :=
  (Steady.fill.trans (.emit rfl)).trans (.of_same rfl rfl rfl rfl)

/-- How a handler leads to a TCP target. -/
inductive Targets (session : Session) (world : World) : Op → Result → Session → Prop where
  /-- It does not. -/
  | steady {op : Op} {result : Result} {next : Session} (same : session.Steady next) :
    Targets session world op result next
  /-- The target of the first message is in the cache. -/
  | cached {data host : Bytes} {port : UInt16} {endpoint : Endpoint} {parsed : Session}
    (same : session.Steady parsed)
    (found : world.cachedTcp (dnsKey host (decimal port.toNat)) = some endpoint) :
    Targets session world .firstRead (.read data)
      ({ parsed with remoteHost := host, remotePort := decimal port.toNat }.doConnect endpoint)
  /-- The target of the first message is to be resolved. -/
  | asked {data host : Bytes} {port : UInt16} {parsed : Session} (same : session.Steady parsed) :
    Targets session world .firstRead (.read data)
      (({ parsed with remoteHost := host, remotePort := decimal port.toNat }.emit
        (.resolve host (decimal port.toNat))).await (.resolve (dnsKey host (decimal port.toNat))))
  /-- The target is resolved. -/
  | resolved {key : Bytes} {results : List Endpoint} {endpoint : Endpoint}
    (first : results.head? = some endpoint) :
    Targets session world (.resolve key) (.resolved results)
      ((session.emit (.putTcp key endpoint)).doConnect endpoint)

/-- The password check leads to the target of the first message or is steady. -/
theorem authenticate_targets {parsed : Session} {data : Bytes} {valid : Bool}
    (same : session.Steady parsed) :
    session.Targets world .firstRead (.read data) (parsed.authenticate config world valid) := by
  unfold authenticate
  split
  · split
    · split
      · have started :
            parsed.Steady { parsed with upstreamUdpBuff := parsed.trojanReq.payload } :=
          .of_same rfl rfl rfl rfl
        exact .steady ((same.trans started).trans (.handleTrojanUdpProxy _ _))
      · unfold doResolve
        dsimp only
        split
        · rename_i found
          exact .cached same found
        · exact .asked same
    · exact .steady (same.trans .destroy)
  · exact .steady (same.trans .destroy)

/-- The first message leads to its target or is steady. -/
theorem onFirstMessage_targets (session : Session) (config : ServerConfig) (world : World)
    (data : Bytes) :
    session.Targets world .firstRead (.read data)
      (((session.fill .down data).emit (.firstMessage data)).onFirstMessage config world
        data.length) := by
  have read : session.Steady ((session.fill .down data).emit (.firstMessage data)) :=
    Steady.fill.trans (.emit rfl)
  unfold onFirstMessage
  dsimp only
  split
  · split
    · exact .steady (read.trans (.of_same rfl rfl rfl rfl))
    · exact authenticate_targets (read.trans (.of_same rfl rfl rfl rfl))
  · exact authenticate_targets (read.trans (.of_same rfl rfl rfl rfl))

/-- **Two handlers lead to a TCP target**, and all others are steady. -/
theorem handle_targets (session : Session) (config : ServerConfig) (world : World) (op : Op)
    (result : Result) :
    session.Targets world op result (session.handle config world op result) := by
  unfold handle
  split
  · exact .steady .destroy
  · split <;> exact .steady (.await (by simp))
  · exact .steady (.await (by simp))
  · exact onFirstMessage_targets session config world _
  · unfold onResolved
    split
    · exact .steady .destroy
    · rename_i first
      exact .resolved first
  · exact .steady (.onConnected session world)
  · exact .steady ((Steady.emit rfl).trans (.startForwarding _))
  · have received (direction : Direction) (data : Bytes) :
        session.Steady (session.receive direction data) := Steady.fill.trans (.emit rfl)
    dsimp only
    split
    · exact .steady (received _ _)
    · exact .steady ((received _ _).trans (.asyncBidirectionalWrite _ _ _))
  · exact .steady (((Steady.emit rfl).trans .setLane).trans (.doSend _ _))
  · exact .steady ((Steady.held _ _).trans (.handleTrojanUdpProxy _ _))
  · exact .steady (.onUdpResolved _ _ _ _ _ _)
  · exact .steady (.udpAsyncBidirectionalRead _ _)
  · exact .steady ((Steady.held _ _).trans (.onUdpRead _ _))
  · exact .steady (((Steady.fill.trans (.emit rfl)).trans (.emit rfl)).trans (.await (by simp)))
  · exact .steady (.udpAsyncBidirectionalRead _ _)
  · exact .steady .refl

/-- A step completes an operation and leads to a target as its handler does. -/
theorem step_targets (stepped : session.step config event = some next) :
    event.op ∈ session.pending ∧
      (session.complete event.op).Targets event.world event.op event.result next := by
  obtain ⟨member, -, rfl⟩ := step_some stepped
  exact ⟨member, handle_targets _ config event.world event.op event.result⟩

/-- What a handler records of a TCP target, with the session it leaves. -/
inductive Found (world : World) (next : Session) : Op → Result → List Effect → Prop where
  /-- Nothing. -/
  | nothing {op : Op} {result : Result} {effects : List Effect}
    (steady : ∀ effect ∈ effects, effect.isTarget = false) : Found world next op result effects
  /-- The cache had the endpoint of the session's name. -/
  | cached {data : Bytes} {quiet : List Effect} {port : UInt16} {endpoint : Endpoint}
    (steady : ∀ effect ∈ quiet, effect.isTarget = false)
    (service : next.remotePort = decimal port.toNat)
    (found : world.cachedTcp (dnsKey next.remoteHost next.remotePort) = some endpoint)
    (waits : .connect ∈ next.pending) :
    Found world next .firstRead (.read data) (quiet ++ [.connect endpoint])
  /-- The resolution of the session's name was answered. -/
  | resolved {key : Bytes} {results : List Endpoint} {endpoint : Endpoint}
    (first : results.head? = some endpoint) (waits : .connect ∈ next.pending) :
    Found world next (.resolve key) (.resolved results) [.putTcp key endpoint, .connect endpoint]

/-- A step records of a TCP target what its handler found. -/
theorem step_found (stepped : session.step config event = some next) :
    ∃ effects, next.trace = session.trace ++ effects ∧
      Found event.world next event.op event.result effects := by
  obtain ⟨-, targets⟩ := step_targets stepped
  obtain ⟨op, result, world⟩ := event
  change (session.complete op).Targets world op result next at targets
  change ∃ effects, _ ∧ Found world next op result effects
  clear stepped
  have waits (session : Session) (endpoint : Endpoint) :
      .connect ∈ (session.doConnect endpoint).pending :=
    List.mem_append_right _ (List.mem_singleton_self _)
  cases targets with
  | steady same =>
    obtain ⟨effects, traced, steady⟩ := same.traced
    exact ⟨effects, traced, .nothing steady⟩
  | @cached _ _ port endpoint _ same found =>
    obtain ⟨effects, traced, steady⟩ := same.traced
    refine ⟨effects ++ [.connect endpoint], ?_, .cached steady rfl found (waits _ _)⟩
    rw [← List.append_assoc]
    exact congrArg (· ++ [_]) traced
  | @asked _ host port _ same =>
    obtain ⟨effects, traced, steady⟩ := same.traced
    refine ⟨effects ++ [.resolve host (decimal port.toNat)], ?_, .nothing ?_⟩
    · rw [← List.append_assoc]
      exact congrArg (· ++ [_]) traced
    · intro effect member
      rcases List.mem_append.mp member with old | new
      · exact steady effect old
      · rw [List.mem_singleton.mp new]
        rfl
  | resolved first => exact ⟨_, List.append_assoc _ _ _, .resolved first (waits _ _)⟩

end Handlers

end Session

end Overplus.Server
