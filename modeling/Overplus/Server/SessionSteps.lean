import Overplus.Server.Session

/-!
# Laws of session steps

What a step is, what the small operations of the session machine change and leave alone, and
what a trace says about the bytes carried.
-/
namespace Overplus.Server

/-- Operations before the first message has been handled. -/
def Op.isGreeting : Op → Bool
  | .handshake | .accept | .firstRead => true
  | _ => false

/-- Operations of the TCP mode behind the first message. -/
def Op.isTcp : Op → Bool
  | .resolve _ | .connect | .payloadWrite | .read _ | .send _ _ _ => true
  | _ => false

section Traffic

variable {direction other : Direction} {data : Bytes} {trace : List Effect}

/-- Bytes handed to a direction's sink so far. -/
def handedBytes (direction : Direction) (trace : List Effect) : Bytes :=
  trace.flatMap fun effect => match effect with
    | .handed towards data => if towards = direction then data else []
    | _ => []

/-- Bytes read from a direction's source so far. -/
def receivedBytes (direction : Direction) (trace : List Effect) : Bytes :=
  trace.flatMap fun effect => match effect with
    | .received origin data => if origin = direction then data else []
    | _ => []

/-- Traffic is counted effect by effect. -/
theorem handedBytes_append (before after : List Effect) :
    handedBytes direction (before ++ after) =
      handedBytes direction before ++ handedBytes direction after :=
  List.flatMap_append

/-- Traffic is counted effect by effect. -/
theorem receivedBytes_append (before after : List Effect) :
    receivedBytes direction (before ++ after) =
      receivedBytes direction before ++ receivedBytes direction after :=
  List.flatMap_append

@[simp]
theorem handedBytes_received :
    handedBytes direction (trace ++ [.received other data]) = handedBytes direction trace := by
  simp [handedBytes]

@[simp]
theorem handedBytes_handed : handedBytes direction (trace ++ [.handed other data]) =
    handedBytes direction trace ++ if other = direction then data else [] := by
  simp [handedBytes]

@[simp]
theorem receivedBytes_received : receivedBytes direction (trace ++ [.received other data]) =
    receivedBytes direction trace ++ if other = direction then data else [] := by
  simp [receivedBytes]

@[simp]
theorem receivedBytes_handed :
    receivedBytes direction (trace ++ [.handed other data]) = receivedBytes direction trace := by
  simp [receivedBytes]

end Traffic

end Overplus.Server

namespace Overplus.Server.Session

variable {session next : Session} {config : ServerConfig} {event : Event} {op : Op}
  {effect : Effect} {direction other : Direction} {data : Bytes} {lane : Lane}

/-- A step completes a pending operation with a result it admits. -/
theorem step_some (stepped : session.step config event = some next) :
    event.op ∈ session.pending ∧ event.op.admits event.result = true ∧
      (session.complete event.op).handle config event.world event.op event.result = next := by
  unfold step at stepped
  split at stepped
  · rename_i enabled
    exact ⟨enabled.2.1, enabled.2.2, Option.some.inj stepped⟩
  · cases stepped

/-- Every failed operation destroys the session. -/
theorem handle_failed (world : World) :
    session.handle config world op .failed = session.destroy := by
  cases op <;> rfl

/-- The lane just set is found. -/
@[simp]
theorem setLane_lane : (session.setLane direction lane).lane direction = lane := by
  cases direction <;> rfl

/-- Setting one lane leaves the other. -/
theorem setLane_lane_of_ne (different : other ≠ direction) :
    (session.setLane direction lane).lane other = session.lane other := by
  cases direction <;> cases other <;> first | rfl | exact absurd rfl different

/-- The last lane set counts. -/
@[simp]
theorem setLane_setLane (first : Lane) :
    (session.setLane direction first).setLane direction lane = session.setLane direction lane := by
  cases direction <;> rfl

/-- Setting a lane and starting an operation commute. -/
theorem await_setLane : (session.await op).setLane direction lane =
    (session.setLane direction lane).await op := by
  cases direction <;> rfl

@[simp]
theorem await_lane : (session.await op).lane direction = session.lane direction := by
  cases direction <;> rfl

@[simp]
theorem emit_lane : (session.emit effect).lane direction = session.lane direction := by
  cases direction <;> rfl

@[simp]
theorem fill_lane : (session.fill other data).lane direction = session.lane direction := by
  cases direction <;> cases other <;> rfl

/-- Sending leaves the ring to the completion. -/
theorem doSend_ring : ((session.doSend direction).lane direction).ring =
    (session.lane direction).ring := by
  unfold doSend asyncBidirectionalRead
  cases direction with
  | down => dsimp only; split <;> [split; skip] <;> rfl
  | up => dsimp only; split <;> [split; skip] <;> rfl

@[simp]
theorem setLane_pending : (session.setLane direction lane).pending = session.pending := by
  cases direction <;> rfl

@[simp]
theorem setLane_trace : (session.setLane direction lane).trace = session.trace := by
  cases direction <;> rfl

@[simp]
theorem setLane_state : (session.setLane direction lane).state = session.state := by
  cases direction <;> rfl

@[simp]
theorem setLane_initialPayload :
    (session.setLane direction lane).initialPayload = session.initialPayload := by
  cases direction <;> rfl

@[simp]
theorem fill_pending : (session.fill direction data).pending = session.pending := by
  cases direction <;> rfl

@[simp]
theorem fill_trace : (session.fill direction data).trace = session.trace := by
  cases direction <;> rfl

@[simp]
theorem fill_state : (session.fill direction data).state = session.state := by
  cases direction <;> rfl

@[simp]
theorem fill_initialPayload :
    (session.fill direction data).initialPayload = session.initialPayload := by
  cases direction <;> rfl

/-- The bytes just stored are found at the start of the buffer. -/
@[simp]
theorem fill_buffer_take :
    ((session.fill direction data).buffer direction).take data.length = data := by
  cases direction <;> simp [fill, buffer]

@[simp]
theorem receive_lane : (session.receive other data).lane direction = session.lane direction := by
  simp [receive]

@[simp]
theorem receive_pending : (session.receive direction data).pending = session.pending := by
  simp [receive, emit]

@[simp]
theorem receive_state : (session.receive direction data).state = session.state := by
  simp [receive, emit]

/-- Arriving bytes are recorded. -/
@[simp]
theorem receive_trace : (session.receive direction data).trace =
    session.trace ++ [.received direction data] := by
  simp [receive, emit]

@[simp]
theorem receive_initialPayload :
    (session.receive direction data).initialPayload = session.initialPayload :=
  fill_initialPayload

/-- The bytes that arrived are found at the start of the buffer. -/
theorem receive_buffer_take :
    ((session.receive direction data).buffer direction).take data.length = data :=
  fill_buffer_take

@[simp]
theorem destroy_pending : session.destroy.pending = session.pending := by
  unfold destroy
  split <;> rfl

@[simp]
theorem destroy_trace : session.destroy.trace = session.trace := by
  unfold destroy
  split <;> rfl

@[simp]
theorem destroy_state : session.destroy.state = .destroy := by
  unfold destroy
  split
  · assumption
  · rfl

/-- Reading one direction starts one read. -/
theorem asyncBidirectionalRead_single :
    session.asyncBidirectionalRead [direction] = session.await (.read direction) := by
  cases direction <;> simp [asyncBidirectionalRead]

/-- Starting reads records nothing. -/
@[simp]
theorem asyncBidirectionalRead_trace (directions : List Direction) :
    (session.asyncBidirectionalRead directions).trace = session.trace := by
  unfold asyncBidirectionalRead
  dsimp only
  split <;> split <;> rfl

/-- Starting reads records nothing. -/
@[simp]
theorem udpAsyncBidirectionalRead_trace (directions : List Direction) :
    (session.udpAsyncBidirectionalRead directions).trace = session.trace := by
  unfold udpAsyncBidirectionalRead
  dsimp only
  split <;> split <;> rfl

/-- Sending from the ring records nothing before it completes. -/
@[simp]
theorem doSend_trace : (session.doSend direction).trace = session.trace := by
  unfold doSend
  dsimp only
  split
  · split <;> simp
  · rfl

/-- Queueing a chunk records nothing. -/
@[simp]
theorem asyncBidirectionalWrite_trace (len : Nat) :
    (session.asyncBidirectionalWrite direction len).trace = session.trace := by
  have queued (data : Bytes) : (session.enqueueWrite direction data).trace = session.trace := by
    unfold enqueueWrite
    dsimp only
    split <;> simp
  unfold asyncBidirectionalWrite
  dsimp only
  split <;> simp [queued]

@[simp]
theorem advance_trace (packetLen : Nat) : (session.advance packetLen).trace = session.trace := by
  unfold advance
  dsimp only
  split <;> rfl

/-- Stepping over a packet drops it from the unparsed bytes. -/
theorem advance_spec (session : Session) (packetLen : Nat)
    (room : session.udpBuffOffset + packetLen ≤ session.upstreamUdpBuff.length) :
    ∃ buff offset, session.advance packetLen =
        { session with upstreamUdpBuff := buff, udpBuffOffset := offset } ∧
      offset ≤ buff.length ∧ buff.drop offset = session.remaining.drop packetLen := by
  unfold advance
  dsimp only
  split
  · refine ⟨_, _, rfl, Nat.zero_le _, ?_⟩
    rw [List.drop_zero, remaining, List.drop_drop]
  · refine ⟨_, _, rfl, room, ?_⟩
    rw [remaining, List.drop_drop]

/-- Only operations of the TCP mode are in flight. -/
def OnlyTcp (session : Session) : Prop := ∀ op ∈ session.pending, op.isTcp = true

/-- What is in flight depends on the pending operations only. -/
theorem OnlyTcp.congr (tcp : session.OnlyTcp) (same : next.pending = session.pending) :
    next.OnlyTcp := by
  rw [OnlyTcp, same]
  exact tcp

end Overplus.Server.Session
