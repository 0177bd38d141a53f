import Overplus.Server.SessionSteps

/-!
# The TCP tunnel of a server session

In a forwarding session each direction has exactly one operation in flight: a read of its
source while its ring is empty, or a send from its ring while that holds bytes. A chunk is
therefore always copied into an empty ring, where it fits, and no byte is lost or reordered
between the source and the sink.
-/
namespace Overplus.Verif.Tunnel

open Server

/-- Bytes a direction has to carry before those of its source: the request's early data,
downwards only. -/
def earlyData (session : Session) : Direction → Bytes
  | .down => session.initialPayload
  | .up => []

/-- Everything a direction has to carry. -/
def source (session : Session) (direction : Direction) : Bytes :=
  earlyData session direction ++ receivedBytes direction session.trace

/-- A direction with one operation in flight and nothing lost: either its ring is empty and
its source is being read, or its ring holds bytes and the front of them is being sent. -/
structure LaneOk (direction : Direction) (lane : Lane) (op : Op) (handed source : Bytes) :
    Prop where
  /-- The ring's counters describe a queue. -/
  well : lane.ring.WellFormed
  /-- The ring has the size of a read. -/
  capacity : lane.ring.capacity = maxBuffSize
  /-- Sent and queued bytes are the bytes to carry, in order. -/
  exact : handed ++ lane.ring.contents = source
  /-- The operation in flight fits the ring and the flags. -/
  busy : (op = .read direction ∧ lane.ring.used = 0 ∧ lane.sending = false ∧ lane.pausing = false) ∨
    (op = .send direction lane.ring.peek.1 lane.ring.peek.2 ∧ 0 < lane.ring.used ∧
      lane.sending = true ∧ lane.pausing = true)

/-- A direction whose source is being read, between the completion and its handler. -/
structure LaneIdle (lane : Lane) (handed source : Bytes) : Prop where
  /-- The ring's counters describe a queue. -/
  well : lane.ring.WellFormed
  /-- The ring has the size of a read. -/
  capacity : lane.ring.capacity = maxBuffSize
  /-- The ring is empty. -/
  drained : lane.ring.used = 0
  /-- No send is in flight. -/
  notSending : lane.sending = false
  /-- The source is not paused. -/
  notPausing : lane.pausing = false
  /-- All bytes were sent. -/
  exact : handed = source

variable {session : Session} {direction : Direction} {lane : Lane} {op : Op}
  {handed carried data : Bytes}

/-- A ring has room for another read exactly when it is empty. -/
theorem hasSpace_iff {ring : SessionBuffer} (well : ring.WellFormed)
    (capacity : ring.capacity = maxBuffSize) :
    ring.hasSpace maxBuffSize = decide (ring.used = 0) := by
  have fits := well.fits
  have allocated := well.allocated
  rw [SessionBuffer.hasSpace, sizeAdd_exact (by omega), capacity]
  exact decide_eq_decide.mpr (by omega)

/-- An idle direction waits for its source. -/
theorem LaneIdle.read (idle : LaneIdle lane handed carried) :
    LaneOk direction lane (.read direction) handed carried where
  well := idle.well
  capacity := idle.capacity
  exact := by rw [SessionBuffer.contents_empty idle.drained, List.append_nil, idle.exact]
  busy := .inl ⟨rfl, idle.drained, idle.notSending, idle.notPausing⟩

/-- A chunk read into an idle direction is queued whole; then the source is read again if the
chunk was empty, and paused behind a send if not. -/
theorem asyncBidirectionalWrite_idle (idle : LaneIdle (session.lane direction) handed carried)
    (filled : (session.buffer direction).take data.length = data)
    (small : data.length ≤ maxBuffSize) :
    ∃ lane op, session.asyncBidirectionalWrite direction data.length =
        (session.setLane direction lane).await op ∧
      LaneOk direction lane op handed (carried ++ data) := by
  obtain ⟨well, capacity, drained, notSending, notPausing, exact⟩ := idle
  obtain ⟨wellNext, capacityNext, contentsNext⟩ := SessionBuffer.enqueue_spec well
    (show (session.lane direction).ring.used + data.length ≤ _ by omega)
  rw [SessionBuffer.contents_empty drained, List.nil_append] at contentsNext
  have usedNext : ((session.lane direction).ring.enqueue data).used = data.length := by
    rw [← SessionBuffer.contents_length, contentsNext]
  have space := hasSpace_iff wellNext (capacityNext.trans capacity)
  unfold Session.asyncBidirectionalWrite Session.enqueueWrite
  rw [filled]
  simp only [notSending, Bool.false_eq_true, ↓reduceIte]
  unfold Session.doSend
  simp only [Session.setLane_lane, SessionBuffer.empty, usedNext]
  by_cases none : data.length = 0
  · have zero : data = [] := List.length_eq_zero_iff.mp none
    simp only [none, notPausing, space, usedNext, BEq.rfl, ↓reduceIte, Bool.false_eq_true,
      Session.setLane_lane, Session.setLane_setLane, decide_true,
      Session.asyncBidirectionalRead_single]
    refine ⟨_, _, rfl, LaneIdle.read ?_⟩
    exact ⟨wellNext, capacityNext.trans capacity, usedNext.trans none, rfl, rfl,
      by rw [zero, List.append_nil, exact]⟩
  · have waiting : (data.length == 0) = false := by simpa using none
    simp only [waiting, Bool.false_eq_true, ↓reduceIte, Session.await_lane, Session.setLane_lane,
      space, usedNext, none, decide_false, Session.await_setLane, Session.setLane_setLane]
    refine ⟨_, _, rfl, ⟨wellNext, capacityNext.trans capacity, ?_, .inr ⟨rfl, ?_, rfl, rfl⟩⟩⟩
    · rw [contentsNext, exact]
    · rw [usedNext]
      omega

/-- After a send completes, the rest of the ring is sent, or the source is read again. -/
theorem doSend_consumed (sent : Nat) (ok : LaneOk direction (session.lane direction)
      (.send direction (session.lane direction).ring.peek.1 (session.lane direction).ring.peek.2)
      handed carried)
    (admitted : 1 ≤ sent ∧ sent ≤ (session.lane direction).ring.peek.2) :
    ∃ lane op, (session.setLane direction { session.lane direction with
          ring := (session.lane direction).ring.consume sent }).doSend direction =
        (session.setLane direction lane).await op ∧
      LaneOk direction lane op
        (handed ++ ((session.lane direction).ring.region (session.lane direction).ring.peek.1
          (session.lane direction).ring.peek.2).take sent) carried := by
  obtain ⟨well, capacity, exact, busy⟩ := ok
  obtain ⟨offered, _, front⟩ := SessionBuffer.peek_spec well
  obtain ⟨wellNext, contentsNext⟩ := SessionBuffer.consume_spec well
    (show sent ≤ (session.lane direction).ring.used by omega)
  obtain ⟨sending, pausing⟩ : (session.lane direction).sending = true ∧
      (session.lane direction).pausing = true := by
    rcases busy with ⟨absurd, _⟩ | ⟨_, _, flags⟩
    · cases absurd
    · exact flags
  have moved : handed ++ (((session.lane direction).ring.region
      (session.lane direction).ring.peek.1 (session.lane direction).ring.peek.2).take sent) ++
        ((session.lane direction).ring.consume sent).contents = carried := by
    rw [front, List.take_take, Nat.min_eq_left admitted.2, contentsNext, List.append_assoc,
      List.take_append_drop, exact]
  unfold Session.doSend
  simp only [Session.setLane_lane, SessionBuffer.empty, pausing, ↓reduceIte,
    Session.setLane_setLane, Session.asyncBidirectionalRead_single]
  by_cases drained : ((session.lane direction).ring.consume sent).used = 0
  · simp only [drained, BEq.rfl, ↓reduceIte]
    refine ⟨_, _, rfl, LaneIdle.read ⟨wellNext, capacity, drained, rfl, rfl, ?_⟩⟩
    rw [SessionBuffer.contents_empty drained, List.append_nil] at moved
    exact moved
  · have waiting : (((session.lane direction).ring.consume sent).used == 0) = false := by
      simpa using drained
    simp only [waiting, Bool.false_eq_true, ↓reduceIte]
    refine ⟨_, _, rfl, ⟨wellNext, capacity, moved, .inr ⟨rfl, ?_, sending, rfl⟩⟩⟩
    exact Nat.pos_of_ne_zero drained

/-- Operations of the UDP mode. -/
def isUdp : Op → Bool
  | .udpFirstRead | .udpResolve _ _ _ | .udpSend _ | .udpRead | .udpReceive | .udpWrite => true
  | _ => false

/-- Operations of the tunnel. -/
def isTunnel : Op → Bool
  | .read _ | .send _ _ _ => true
  | _ => false

/-- Effects of forwarding. -/
def isTraffic : Effect → Bool
  | .forwarding | .received _ _ | .handed _ _ => true
  | _ => false

/-- A session before forwarding, in the middle of a handler: nothing in flight. -/
structure Ready (session : Session) : Prop where
  /-- No operation is in flight. -/
  idle : session.pending = []
  /-- The client's lane is untouched. -/
  freshDown : session.down = {}
  /-- The target's lane is untouched. -/
  freshUp : session.up = {}
  /-- The session was not destroyed. -/
  alive : session.state ≠ .destroy
  /-- Nothing was forwarded. -/
  quiet : ∀ effect ∈ session.trace, isTraffic effect = false

/-- A session on its way to forwarding: one operation of the opening sequence in flight. -/
structure Opening (session : Session) : Prop where
  /-- Exactly one operation is in flight. -/
  alone : ∃ op, session.pending = [op] ∧ isUdp op = false ∧ isTunnel op = false
  /-- Apart from that operation nothing has happened. -/
  ready : Ready { session with pending := [] }

/-- A session in UDP mode, or one that ended before forwarding. -/
structure Relaying (session : Session) : Prop where
  /-- Only operations of the UDP mode are in flight. -/
  udp : ∀ op ∈ session.pending, isUdp op = true
  /-- Forwarding never started. -/
  quiet : Effect.forwarding ∉ session.trace

/-- A forwarding session: every direction has its one operation and has lost nothing. -/
structure Tunnelling (session : Session) : Prop where
  /-- The session was not destroyed. -/
  alive : session.state ≠ .destroy
  /-- One operation for each direction. -/
  lanes : ∃ ops : Direction → Op, session.pending.Perm [ops .down, ops .up] ∧
    ∀ direction, LaneOk direction (session.lane direction) (ops direction)
      (handedBytes direction session.trace) (source session direction)

/-- A destroyed tunnel. -/
structure Closed (session : Session) : Prop where
  /-- The session was destroyed. -/
  dead : session.state = .destroy
  /-- Only operations of the tunnel are left. -/
  tunnel : ∀ op ∈ session.pending, isTunnel op = true

/-- What every reachable session is. -/
def Phase (session : Session) : Prop :=
  Opening session ∨ Relaying session ∨ Tunnelling session ∨ Closed session

/-- What the opening sequence leads to. -/
def Opened (session : Session) : Prop :=
  Opening session ∨ Relaying session ∨ Tunnelling session

/-- The opening sequence leads to one of the phases. -/
theorem Opened.phase (opened : Opened session) : Phase session := by
  rcases opened with opening | relaying | tunnelling
  · exact .inl opening
  · exact .inr (.inl relaying)
  · exact .inr (.inr (.inl tunnelling))

/-- Ready sessions start forwarding only by being told to. -/
theorem Ready.notForwarding (ready : Ready session) : Effect.forwarding ∉ session.trace :=
  fun member => by simpa [isTraffic] using ready.quiet _ member

/-- A ready session that starts an operation of the opening sequence is opening. -/
theorem Ready.await (ready : Ready session) (plain : isUdp op = false ∧ isTunnel op = false) :
    Opening (session.await op) where
  alone := ⟨op, by simp [Session.await, ready.idle], plain⟩
  ready := ⟨rfl, ready.freshDown, ready.freshUp, ready.alive, ready.quiet⟩

/-- A ready session stays ready when it records something other than traffic. -/
theorem Ready.emit {effect : Effect} (ready : Ready session) (other : isTraffic effect = false) :
    Ready (session.emit effect) where
  idle := ready.idle
  freshDown := ready.freshDown
  freshUp := ready.freshUp
  alive := ready.alive
  quiet := by
    intro earlier member
    rcases List.mem_append.mp member with old | new
    · exact ready.quiet earlier old
    · rwa [List.mem_singleton.mp new]

/-- A session that stops with nothing in flight never forwards. -/
theorem Ready.relaying (ready : Ready session) : Relaying session where
  udp := by simp [ready.idle]
  quiet := ready.notForwarding

/-- A session destroyed before forwarding never forwards. -/
theorem Ready.destroy (ready : Ready session) : Relaying session.destroy where
  udp := by simp [ready.idle]
  quiet := by simpa using ready.notForwarding

/-- Connecting keeps a session opening. -/
theorem Ready.doConnect (ready : Ready session) (endpoint : Endpoint) :
    Opening (session.doConnect endpoint) := by
  have forward : Ready { session with state := .forward } :=
    ⟨ready.idle, ready.freshDown, ready.freshUp, by simp, ready.quiet⟩
  exact (forward.emit rfl).await ⟨rfl, rfl⟩

/-- Resolving keeps a session opening. -/
theorem Ready.doResolve (ready : Ready session) (world : World) :
    Opening (session.doResolve world) := by
  unfold Session.doResolve
  have named (host service : Bytes) :
      Ready { session with remoteHost := host, remotePort := service } :=
    ⟨ready.idle, ready.freshDown, ready.freshUp, ready.alive, ready.quiet⟩
  dsimp only
  split
  · exact (named _ _).doConnect _
  · exact ((named _ _).emit rfl).await ⟨rfl, rfl⟩

/-- A session in UDP mode may start an operation of that mode. -/
theorem Relaying.await (relaying : Relaying session) (udp : isUdp op = true) :
    Relaying (session.await op) where
  udp := by
    intro other member
    rcases List.mem_append.mp member with old | new
    · exact relaying.udp other old
    · rwa [List.mem_singleton.mp new]
  quiet := relaying.quiet

/-- A session in UDP mode may record anything but the start of forwarding. -/
theorem Relaying.emit {effect : Effect} (relaying : Relaying session)
    (other : effect ≠ .forwarding) : Relaying (session.emit effect) where
  udp := relaying.udp
  quiet := by
    intro member
    rcases List.mem_append.mp member with old | new
    · exact relaying.quiet old
    · exact other (List.mem_singleton.mp new).symm

/-- A session in UDP mode may be destroyed. -/
theorem Relaying.destroy (relaying : Relaying session) : Relaying session.destroy where
  udp := by simpa using relaying.udp
  quiet := by simpa using relaying.quiet

/-- A session in UDP mode may step over a packet. -/
theorem Relaying.advance (relaying : Relaying session) (packetLen : Nat) :
    Relaying (session.advance packetLen) := by
  unfold Session.advance
  dsimp only
  split <;> exact ⟨relaying.udp, relaying.quiet⟩

/-- A session in UDP mode may send a datagram. -/
theorem Relaying.asyncSendTo (relaying : Relaying session) (payload : Bytes) (endpoint : Endpoint)
    (directions : List Direction) : Relaying (session.asyncSendTo payload endpoint directions) :=
  (relaying.emit (by simp)).await rfl

/-- A session in UDP mode may send its first packet. -/
theorem Relaying.openAndSend (relaying : Relaying session) (world : World) (payload : Bytes)
    (endpoint : Endpoint) : Relaying (session.openAndSend world payload endpoint) := by
  unfold Session.openAndSend
  split
  · exact relaying.asyncSendTo _ _ _
  · split
    · have opened : Relaying { session with udpOpen := true } := ⟨relaying.udp, relaying.quiet⟩
      exact opened.asyncSendTo _ _ _
    · exact relaying.destroy

/-- A session in UDP mode may dispatch a packet. -/
theorem Relaying.dispatch (relaying : Relaying session) (world : World) (first : Bool)
    (packet : UDPPacket) {send : Session → Endpoint → Session}
    (sends : ∀ endpoint, Relaying (send session endpoint)) :
    Relaying (session.dispatch world first packet send) := by
  unfold Session.dispatch
  dsimp only
  split
  · exact sends _
  · exact (relaying.emit (by simp)).await rfl

/-- A session in UDP mode may read again. -/
theorem Relaying.udpAsyncBidirectionalRead (relaying : Relaying session)
    (directions : List Direction) : Relaying (session.udpAsyncBidirectionalRead directions) := by
  unfold Session.udpAsyncBidirectionalRead
  have first : Relaying (if .down ∈ directions then session.await .udpRead else session) := by
    split
    · exact relaying.await rfl
    · exact relaying
  dsimp only
  split
  · exact first.await rfl
  · exact first

/-- The first-packet path stays in UDP mode. -/
theorem Relaying.handleTrojanUdpProxy (relaying : Relaying session) (world : World) :
    Relaying (session.handleTrojanUdpProxy world) := by
  have forward : Relaying { session with state := .forward } := ⟨relaying.udp, relaying.quiet⟩
  unfold Session.handleTrojanUdpProxy
  dsimp only
  split
  · split
    · exact forward.destroy
    · exact forward.await rfl
  · refine (forward.advance _).dispatch _ _ _ fun endpoint => ?_
    exact (forward.advance _).openAndSend _ _ _

/-- The steady path stays in UDP mode. -/
theorem Relaying.onUdpRead (relaying : Relaying session) (world : World) :
    Relaying (session.onUdpRead world) := by
  unfold Session.onUdpRead
  split
  · split
    · exact relaying.destroy
    · exact relaying.udpAsyncBidirectionalRead _
  · refine (relaying.advance _).dispatch _ _ _ fun endpoint => ?_
    exact (relaying.advance _).asyncSendTo _ _ _

/-- The password check leads to forwarding, to the UDP mode or to the end. -/
theorem Ready.authenticate (ready : Ready session) (config : ServerConfig) (world : World)
    (valid : Bool) : Opened (session.authenticate config world valid) := by
  unfold Session.authenticate
  split
  · split
    · split
      · have started : Relaying { session with upstreamUdpBuff := session.trojanReq.payload } :=
          ⟨ready.relaying.udp, ready.relaying.quiet⟩
        exact .inr (.inl (started.handleTrojanUdpProxy world))
      · exact .inl (ready.doResolve world)
    · exact .inr (.inl ready.destroy)
  · exact .inr (.inl ready.destroy)

/-- A ready session has carried nothing. -/
theorem Ready.untouched (ready : Ready session) (direction : Direction) :
    handedBytes direction session.trace = [] ∧ receivedBytes direction session.trace = [] := by
  constructor <;> refine List.flatMap_eq_nil_iff.mpr fun effect member => ?_
  all_goals
    have other := ready.quiet effect member
    cases effect <;> first | rfl | cases other

/-- The ring a session is built with is empty and well formed. -/
theorem idle_fresh {handed carried : Bytes} (exact : handed = carried) :
    LaneIdle {} handed carried := by
  refine ⟨⟨?_, ?_, Nat.zero_le _⟩, rfl, rfl, rfl, rfl, exact⟩
  · unfold sizeModulus
    decide
  · decide

/-- Forwarding starts with a read in flight in both directions. -/
theorem startForwarding_tunnelling (idle : session.pending = []) (freshDown : session.down = {})
    (freshUp : session.up = {}) (alive : session.state ≠ .destroy)
    (exact : ∀ direction, handedBytes direction session.trace = source session direction) :
    Tunnelling session.startForwarding := by
  have pending : session.startForwarding.pending = [.read .down, .read .up] := by
    simp [Session.startForwarding, Session.asyncBidirectionalRead, Session.await, Session.emit,
      dirBoth, idle]
  refine ⟨alive, fun direction => .read direction, by rw [pending], fun direction => ?_⟩
  have trace : session.startForwarding.trace = session.trace ++ [.forwarding] := rfl
  have lane : session.startForwarding.lane direction = {} := by
    cases direction
    · exact freshDown
    · exact freshUp
  have sourceSame : source session.startForwarding direction = source session direction := by
    rw [source, trace, receivedBytes_append]
    exact congrArg _ (List.append_nil _)
  rw [lane, sourceSame, trace, handedBytes_append]
  exact (idle_fresh ((List.append_nil _).trans (exact direction))).read

/-- An operation of the opening sequence leads to the next one, to forwarding, to the UDP mode
or to the end. -/
theorem Ready.handle (ready : Ready session) (config : ServerConfig) (world : World) (op : Op)
    (result : Result) (plain : isUdp op = false ∧ isTunnel op = false)
    (admitted : op.admits result = true) : Opened (session.handle config world op result) := by
  have carried := ready.untouched
  cases result with
  | failed =>
    rw [Session.handle_failed]
    exact .inr (.inl ready.destroy)
  | done =>
    cases op with
    | handshake =>
      cases kind : session.kind with
      | tls =>
        simp only [Session.handle, kind]
        exact .inl (ready.await ⟨rfl, rfl⟩)
      | websocket =>
        simp only [Session.handle, kind]
        exact .inl (ready.await ⟨rfl, rfl⟩)
    | accept => exact .inl (ready.await ⟨rfl, rfl⟩)
    | connect =>
      change Opened (session.onConnected world)
      unfold Session.onConnected
      split
      · split
        · rename_i empty
          refine .inr (.inr (startForwarding_tunnelling ready.idle ready.freshDown
            ready.freshUp ready.alive fun direction => ?_))
          rw [source, (carried direction).1, (carried direction).2, List.append_nil]
          cases direction
          · exact (List.isEmpty_iff.mp empty).symm
          · rfl
        · exact .inl (ready.await ⟨rfl, rfl⟩)
      · exact .inr (.inl ⟨ready.relaying.udp, ready.relaying.quiet⟩)
    | payloadWrite =>
      refine .inr (.inr (startForwarding_tunnelling ready.idle ready.freshDown
        ready.freshUp ready.alive fun direction => ?_))
      change handedBytes direction (session.trace ++ [.handed .down session.initialPayload]) = _
      rw [handedBytes_append, (carried direction).1, source]
      change _ = _ ++ receivedBytes direction (session.trace ++ [_])
      rw [receivedBytes_append, (carried direction).2]
      cases direction
      · simp only [handedBytes, receivedBytes, earlyData, List.flatMap_cons, List.flatMap_nil,
          ↓reduceIte, List.append_nil, List.nil_append]
        rfl
      · simp [handedBytes, receivedBytes, earlyData]
    | udpSend | udpWrite => cases plain.1
    | _ => cases admitted
  | read data =>
    cases op with
    | firstRead =>
      change Opened (Session.onFirstMessage _ config world data.length)
      have filled : Ready ((session.fill .down data).emit (.firstMessage data)) :=
        Ready.emit ⟨ready.idle, ready.freshDown, ready.freshUp, ready.alive, ready.quiet⟩ rfl
      unfold Session.onFirstMessage
      dsimp only
      split
      · split
        · exact .inr (.inl ⟨filled.relaying.udp, filled.relaying.quiet⟩)
        · refine Ready.authenticate ?_ config world _
          exact ⟨filled.idle, filled.freshDown, filled.freshUp, filled.alive, filled.quiet⟩
      · refine Ready.authenticate ?_ config world _
        exact ⟨filled.idle, filled.freshDown, filled.freshUp, filled.alive, filled.quiet⟩
    | read => cases plain.2
    | udpFirstRead | udpRead => cases plain.1
    | _ => cases admitted
  | sent count =>
    cases op with
    | send => cases plain.2
    | _ => cases admitted
  | resolved results =>
    cases op with
    | resolve dnsKey =>
      change Opened (session.onResolved dnsKey results)
      unfold Session.onResolved
      split
      · exact .inr (.inl ready.destroy)
      · exact .inl ((ready.emit rfl).doConnect _)
    | udpResolve => cases plain.1
    | _ => cases admitted
  | received sender data =>
    cases op with
    | udpReceive => cases plain.1
    | _ => cases admitted

/-- An operation of the UDP mode stays in that mode. -/
theorem Relaying.handle (relaying : Relaying session) (config : ServerConfig) (world : World)
    (op : Op) (result : Result) (udp : isUdp op = true) (admitted : op.admits result = true) :
    Relaying (session.handle config world op result) := by
  have filled (towards : Direction) (data buff : Bytes) (effect : Effect)
      (other : effect ≠ .forwarding) :
      Relaying { (session.fill towards data).emit effect with upstreamUdpBuff := buff } := by
    have received : Relaying (session.fill towards data) :=
      ⟨by simpa using relaying.udp, by simpa using relaying.quiet⟩
    exact ⟨(received.emit other).udp, (received.emit other).quiet⟩
  cases result with
  | failed =>
    rw [Session.handle_failed]
    exact relaying.destroy
  | done =>
    cases op with
    | udpSend directions => exact relaying.udpAsyncBidirectionalRead directions
    | udpWrite => exact relaying.udpAsyncBidirectionalRead [.up]
    | handshake | accept | connect | payloadWrite => cases udp
    | _ => cases admitted
  | read data =>
    cases op with
    | udpFirstRead => exact (filled .down data _ _ (by simp)).handleTrojanUdpProxy world
    | udpRead => exact (filled .down data _ _ (by simp)).onUdpRead world
    | firstRead | read => cases udp
    | _ => cases admitted
  | sent count =>
    cases op with
    | send => cases udp
    | _ => cases admitted
  | resolved results =>
    cases op with
    | udpResolve first packet dnsKey =>
      change Relaying (session.onUdpResolved world first packet dnsKey results)
      unfold Session.onUdpResolved
      split
      · exact relaying.destroy
      · have cached (endpoint : Endpoint) : Relaying (session.emit (.putUdp dnsKey endpoint)) :=
          relaying.emit (by simp)
        dsimp only
        split
        · exact (cached _).openAndSend _ _ _
        · exact (cached _).asyncSendTo _ _ _
    | resolve => cases udp
    | _ => cases admitted
  | received sender data =>
    cases op with
    | udpReceive =>
      have received : Relaying (session.fill .up data) :=
        ⟨by simpa using relaying.udp, by simpa using relaying.quiet⟩
      exact ((received.emit (by simp)).emit (by simp)).await rfl
    | _ => cases admitted

/-- A tunnel destroyed with only its own operations in flight is closed. -/
theorem closed_destroy (tunnel : ∀ op ∈ session.pending, isTunnel op = true) :
    Closed session.destroy :=
  ⟨Session.destroy_state, by simpa using tunnel⟩

/-- A destroyed tunnel may start further operations of the tunnel. -/
theorem Closed.await (closed : Closed session) (tunnel : isTunnel op = true) :
    Closed (session.await op) where
  dead := closed.dead
  tunnel := by
    intro other member
    rcases List.mem_append.mp member with old | new
    · exact closed.tunnel other old
    · rwa [List.mem_singleton.mp new]

/-- A destroyed tunnel may have its rings and flags changed. -/
theorem Closed.setLane (closed : Closed session) (direction : Direction) (lane : Lane) :
    Closed (session.setLane direction lane) where
  dead := by simpa using closed.dead
  tunnel := by simpa using closed.tunnel

/-- A destroyed tunnel stays destroyed when it goes on sending. -/
theorem Closed.doSend (closed : Closed session) (direction : Direction) :
    Closed (session.doSend direction) := by
  unfold Session.doSend
  dsimp only
  split
  · split
    · rw [Session.asyncBidirectionalRead_single]
      exact (closed.setLane _ _).await rfl
    · exact closed.setLane _ _
  · exact closed.await rfl

/-- Completing an operation of a destroyed tunnel leaves it destroyed. -/
theorem Closed.handle (closed : Closed session) (config : ServerConfig) (world : World)
    (op : Op) (result : Result) (tunnel : isTunnel op = true) (admitted : op.admits result = true) :
    Closed (session.handle config world op result) := by
  cases op with
  | read direction =>
    cases result with
    | failed => exact closed_destroy closed.tunnel
    | read data =>
      have dead : (session.receive direction data).state = .destroy := by
        simpa using closed.dead
      simp only [Session.handle, dead, ↓reduceIte]
      exact ⟨dead, by simpa using closed.tunnel⟩
    | _ => cases admitted
  | send direction position count =>
    cases result with
    | failed => exact closed_destroy closed.tunnel
    | sent sent =>
      have handed (data : Bytes) : Closed (session.emit (.handed direction data)) :=
        ⟨closed.dead, closed.tunnel⟩
      exact ((handed _).setLane _ _).doSend _
    | _ => cases admitted
  | _ => cases tunnel

/-- A lane's operation is one of the tunnel. -/
theorem LaneOk.tunnel (ok : LaneOk direction lane op handed carried) : isTunnel op = true := by
  rcases ok.busy with ⟨rfl, _⟩ | ⟨rfl, _⟩ <;> rfl

/-- One direction's operation gives way to the next, with the other direction's in flight. -/
theorem pending_replace {ops : Direction → Op} {pending : List Op}
    (perm : pending.Perm [ops .down, ops .up]) (direction : Direction) (next : Op) :
    (pending.erase (ops direction) ++ [next]).Perm
      [Function.update ops direction next .down, Function.update ops direction next .up] := by
  have erased := perm.erase (ops direction)
  cases direction with
  | down =>
    rw [List.erase_cons_head] at erased
    have appended := erased.append_right [next]
    exact appended.trans (by simpa [Function.update] using List.Perm.swap next (ops .up) [])
  | up =>
    have swapped := perm.trans (List.Perm.swap (ops .up) (ops .down) [])
    have erased := swapped.erase (ops .up)
    rw [List.erase_cons_head] at erased
    exact (erased.append_right [next]).trans (by simp [Function.update])

/-- The early data depends on the decoded requests only. -/
theorem earlyData_congr {left right : Session} (same : left.initialPayload = right.initialPayload) :
    earlyData left direction = earlyData right direction := by
  cases direction
  · exact same
  · rfl

/-- A tunnel in which one direction's operation has just completed. -/
structure Completing (session : Session) (direction : Direction) (ops : Direction → Op) : Prop where
  /-- The session was not destroyed. -/
  alive : session.state ≠ .destroy
  /-- The other direction's operation is in flight. -/
  rest : ∀ next, (session.pending ++ [next]).Perm
    [Function.update ops direction next .down, Function.update ops direction next .up]
  /-- The lanes are as their operations left them. -/
  lanes : ∀ direction, LaneOk direction (session.lane direction) (ops direction)
    (handedBytes direction session.trace) (source session direction)

variable {ops : Direction → Op}

/-- A tunnel stays one when the completed operation is followed by one that fits. -/
theorem Completing.tunnelling (completing : Completing session direction ops) (next : Op)
    {moved : Session} (pending : moved.pending = session.pending)
    (state : moved.state = session.state)
    (others : ∀ other ≠ direction, moved.lane other = session.lane other ∧
      handedBytes other moved.trace = handedBytes other session.trace ∧
      source moved other = source session other)
    (ok : LaneOk direction lane next (handedBytes direction moved.trace) (source moved direction)) :
    Tunnelling ((moved.setLane direction lane).await next) := by
  refine ⟨?_, Function.update ops direction next, ?_, ?_⟩
  · simpa [Session.await, state] using completing.alive
  · simpa [Session.await, pending] using completing.rest next
  · intro towards
    have trace : ((moved.setLane direction lane).await next).trace = moved.trace :=
      Session.setLane_trace
    have payload : ((moved.setLane direction lane).await next).initialPayload =
        moved.initialPayload := Session.setLane_initialPayload
    have sourceSame : source ((moved.setLane direction lane).await next) towards =
        source moved towards := by
      rw [source, trace, earlyData_congr payload]
      rfl
    rw [sourceSame, trace, Session.await_lane]
    by_cases same : towards = direction
    · subst same
      simpa using ok
    · obtain ⟨laneSame, handedSame, carriedSame⟩ := others towards same
      rw [Session.setLane_lane_of_ne same, Function.update_of_ne same, laneSame, handedSame,
        carriedSame]
      exact completing.lanes towards

/-- Bytes read in one direction change nothing in the other. -/
theorem source_receive (towards : Direction) :
    source (session.receive direction data) towards =
      source session towards ++ if direction = towards then data else [] := by
  rw [source, Session.receive_trace, earlyData_congr Session.receive_initialPayload,
    receivedBytes_received, source, List.append_assoc]

/-- Bytes handed on change nothing in what there is to carry. -/
theorem source_handed (towards : Direction) :
    source (session.emit (.handed direction data)) towards = source session towards := by
  have payload : (session.emit (.handed direction data)).initialPayload =
      session.initialPayload := rfl
  have trace : (session.emit (.handed direction data)).trace =
      session.trace ++ [.handed direction data] := rfl
  rw [source, trace, earlyData_congr payload, receivedBytes_handed, source]

/-- A completed read keeps a tunnel. -/
theorem Completing.read (completing : Completing session direction ops)
    (reading : ops direction = .read direction) (small : data.length ≤ maxBuffSize)
    (config : ServerConfig) (world : World) :
    Tunnelling (session.handle config world (.read direction) (.read data)) := by
  have own := completing.lanes direction
  rcases own.busy with ⟨_, drained, notSending, notPausing⟩ | ⟨isSend, _⟩
  · have exact := own.exact
    rw [SessionBuffer.contents_empty drained, List.append_nil] at exact
    have live : (session.receive direction data).state ≠ .destroy := by
      simpa using completing.alive
    have idle : LaneIdle ((session.receive direction data).lane direction)
        (handedBytes direction session.trace) (source session direction) := by
      rw [Session.receive_lane]
      exact ⟨own.well, own.capacity, drained, notSending, notPausing, exact⟩
    obtain ⟨lane, next, moved, ok⟩ :=
      asyncBidirectionalWrite_idle idle Session.receive_buffer_take small
    simp only [Session.handle, live, ↓reduceIte]
    rw [moved]
    refine completing.tunnelling next Session.receive_pending Session.receive_state ?_ ?_
    · intro other different
      rw [Session.receive_trace, source_receive, if_neg (Ne.symm different), List.append_nil]
      simp
    · rw [Session.receive_trace, source_receive, if_pos rfl, handedBytes_received]
      exact ok
  · rw [reading] at isSend
    cases isSend

/-- A completed send keeps a tunnel. -/
theorem Completing.send (completing : Completing session direction ops) {position count sent : Nat}
    (sending : ops direction = .send direction position count) (admitted : 1 ≤ sent ∧ sent ≤ count)
    (config : ServerConfig) (world : World) :
    Tunnelling (session.handle config world (.send direction position count) (.sent sent)) := by
  have own := completing.lanes direction
  rcases own.busy with ⟨isRead, _⟩ | ⟨isSend, _⟩
  · rw [sending] at isRead
    cases isRead
  · rw [isSend] at own
    rw [sending] at isSend
    obtain ⟨_, rfl, rfl⟩ := Op.send.inj isSend
    simp only [Session.handle]
    generalize shown : ((session.lane direction).ring.region (session.lane direction).ring.peek.1
      (session.lane direction).ring.peek.2).take sent = bytes
    have lane : (session.emit (.handed direction bytes)).lane direction = session.lane direction :=
      Session.emit_lane
    have handed : LaneOk direction ((session.emit (.handed direction bytes)).lane direction) _
        (handedBytes direction session.trace) (source session direction) := own
    obtain ⟨next, op, moved, ok⟩ := doSend_consumed sent handed admitted
    simp only [Session.emit_lane] at moved ok
    rw [moved]
    refine completing.tunnelling op rfl rfl ?_ ?_
    · intro other different
      refine ⟨Session.emit_lane, ?_, source_handed other⟩
      change handedBytes other (session.trace ++ [.handed direction bytes]) = _
      rw [handedBytes_handed, if_neg (Ne.symm different), List.append_nil]
    · change LaneOk direction next op (handedBytes direction (session.trace ++ [_])) _
      rw [source_handed, handedBytes_handed, if_pos rfl, ← shown]
      exact ok

/-- Completing a direction's operation keeps the tunnel or destroys it. -/
theorem Completing.handle (completing : Completing session direction ops) (config : ServerConfig)
    (world : World) (result : Result) (admitted : (ops direction).admits result = true) :
    Tunnelling (session.handle config world (ops direction) result) ∨
      session.handle config world (ops direction) result = session.destroy := by
  rcases (completing.lanes direction).busy with ⟨reading, _⟩ | ⟨sending, _⟩
  · rw [reading] at admitted ⊢
    cases result with
    | failed => exact .inr rfl
    | read data =>
      have small : data.length ≤ maxBuffSize := by simpa [Op.admits] using admitted
      exact .inl (completing.read reading small config world)
    | _ => cases admitted
  · rw [sending] at admitted ⊢
    cases result with
    | failed => exact .inr rfl
    | sent count =>
      have offered : 1 ≤ count ∧ count ≤ (session.lane direction).ring.peek.2 := by
        simpa [Op.admits] using admitted
      exact .inl (completing.send sending offered config world)
    | _ => cases admitted

/-- A step of an opening session is one of the opening sequence. -/
theorem Opening.step {config : ServerConfig} {event : Event} {next : Session}
    (opening : Opening session) (stepped : session.step config event = some next) :
    Opened next := by
  obtain ⟨pending, admitted, rfl⟩ := Session.step_some stepped
  obtain ⟨⟨op, alone, plain⟩, ready⟩ := opening
  obtain same : event.op = op := by simpa [alone] using pending
  refine Ready.handle ?_ config event.world event.op event.result (same ▸ plain) admitted
  rw [Session.complete, alone, same, List.erase_cons_head]
  exact ready

/-- A session in UDP mode stays in it. -/
theorem Relaying.step {config : ServerConfig} {event : Event} {next : Session}
    (relaying : Relaying session) (stepped : session.step config event = some next) :
    Relaying next := by
  obtain ⟨pending, admitted, rfl⟩ := Session.step_some stepped
  refine Relaying.handle ?_ config event.world event.op event.result (relaying.udp _ pending)
    admitted
  exact ⟨fun op member => relaying.udp op (List.mem_of_mem_erase member), relaying.quiet⟩

/-- A tunnel stays a tunnel, or is destroyed with one operation left in flight. -/
theorem Tunnelling.step {config : ServerConfig} {event : Event} {next : Session}
    (tunnelling : Tunnelling session) (stepped : session.step config event = some next) :
    Tunnelling next ∨ next = (session.complete event.op).destroy := by
  obtain ⟨pending, admitted, rfl⟩ := Session.step_some stepped
  obtain ⟨alive, ops, perm, lanes⟩ := tunnelling
  obtain ⟨direction, same⟩ : ∃ direction, event.op = ops direction := by
    rcases List.mem_pair.mp (perm.mem_iff.mp pending) with down | up
    · exact ⟨.down, down⟩
    · exact ⟨.up, up⟩
  have completing : Completing (session.complete event.op) direction ops :=
    ⟨alive, by rw [same]; exact pending_replace perm direction, lanes⟩
  rw [same] at admitted completing ⊢
  exact completing.handle config event.world event.result admitted

/-- Every operation of a tunnel in flight is one of the tunnel. -/
theorem Tunnelling.tunnel (tunnelling : Tunnelling session) :
    ∀ op ∈ session.pending, isTunnel op = true := by
  obtain ⟨_, ops, perm, lanes⟩ := tunnelling
  intro op member
  rcases List.mem_pair.mp (perm.mem_iff.mp member) with rfl | rfl
  · exact (lanes .down).tunnel
  · exact (lanes .up).tunnel

/-- Every completion of a pending operation keeps the phases. -/
theorem step_phase (config : ServerConfig) (session : Session) (event : Event) (next : Session)
    (phase : Phase session) (stepped : session.step config event = some next) : Phase next := by
  rcases phase with opening | relaying | tunnelling | closed
  · exact (opening.step stepped).phase
  · exact .inr (.inl (relaying.step stepped))
  · rcases tunnelling.step stepped with kept | rfl
    · exact .inr (.inr (.inl kept))
    · refine .inr (.inr (.inr (closed_destroy fun op member => ?_)))
      exact tunnelling.tunnel op (List.mem_of_mem_erase member)
  · obtain ⟨pending, admitted, rfl⟩ := Session.step_some stepped
    refine .inr (.inr (.inr (Closed.handle ?_ config event.world event.op event.result
      (closed.tunnel _ pending) admitted)))
    exact ⟨closed.dead, fun op member => closed.tunnel op (List.mem_of_mem_erase member)⟩

/-- A session that waits for its TLS handshake is opening. -/
theorem start_opening (kind : SessionKind) : Opening (Session.start kind) :=
  ⟨⟨.handshake, rfl, rfl, rfl⟩, ⟨rfl, rfl, rfl, by simp [Session.start], by simp [Session.start]⟩⟩

/-- Every reachable session is in one of the phases. -/
theorem run_phase {config : ServerConfig} {kind : SessionKind} {events : List Event}
    (ran : run (Session.step config) (Session.start kind) events = some session) : Phase session :=
  run_invariant (step_phase config) (.inl (start_opening kind)) ran

/-- Every reachable session that forwards and was not destroyed is a tunnel. -/
theorem run_tunnelling {config : ServerConfig} {kind : SessionKind} {events : List Event}
    (ran : run (Session.step config) (Session.start kind) events = some session)
    (started : Effect.forwarding ∈ session.trace) (alive : session.state ≠ .destroy) :
    Tunnelling session := by
  rcases run_phase ran with opening | relaying | tunnelling | closed
  · exact absurd started opening.ready.notForwarding
  · exact absurd started relaying.quiet
  · exact tunnelling
  · exact absurd closed.dead alive

/-- **The tunnel loses and reorders nothing.** In every run of a session, for every first
request and every interleaving of completions, from the start of forwarding until the session is
destroyed: the bytes handed to the target followed by the client ring are the request's early
data followed by all bytes read from the client, and the bytes handed to the client followed by
the target ring are all bytes read from the target. -/
theorem tunnel_exact (config : ServerConfig) (kind : SessionKind) (events : List Event)
    (session : Session)
    (ran : run (Session.step config) (Session.start kind) events = some session)
    (started : Effect.forwarding ∈ session.trace) (alive : session.state ≠ .destroy) :
    handedBytes .down session.trace ++ session.down.ring.contents =
        session.initialPayload ++ receivedBytes .down session.trace ∧
      handedBytes .up session.trace ++ session.up.ring.contents =
        receivedBytes .up session.trace := by
  obtain ⟨_, ops, _, lanes⟩ := run_tunnelling ran started alive
  exact ⟨(lanes .down).exact, (lanes .up).exact⟩

/-- A client with password `p` asks for a tunnel to 127.0.0.1, port 80, and sends `h` along;
two of the next three bytes have been sent when the target answers with one. -/
def sampleEvents : List Event :=
  [⟨.handshake, .done, {}⟩,
    ⟨.firstRead, .read [0x70, 13, 10, 1, 1, 127, 0, 0, 1, 0, 80, 13, 10, 0x68],
      { cachedTcp := fun _ => some ⟨.ofWord 0x7f000001, 80⟩ }⟩,
    ⟨.connect, .done, {}⟩, ⟨.payloadWrite, .done, {}⟩, ⟨.read .down, .read [1, 2, 3], {}⟩,
    ⟨.send .down 0 3, .sent 2, {}⟩, ⟨.read .up, .read [9], {}⟩]

/-- The sample run reaches a forwarding session, which has carried its bytes exactly. -/
theorem tunnel_exact_sample : ∃ session,
    run (Session.step ⟨[[0x70]]⟩) (Session.start .tls) sampleEvents = some session ∧
      handedBytes .down session.trace ++ session.down.ring.contents =
        session.initialPayload ++ receivedBytes .down session.trace ∧
      handedBytes .up session.trace ++ session.up.ring.contents =
        receivedBytes .up session.trace := by
  have checked : (run (Session.step ⟨[[0x70]]⟩) (Session.start .tls) sampleEvents).any
      (fun session => decide (Effect.forwarding ∈ session.trace ∧ session.state ≠ .destroy)) =
        true := by
    decide +kernel
  obtain ⟨session, ran, good⟩ := exists_of_run checked
  obtain ⟨started, alive⟩ := of_decide_eq_true good
  exact ⟨session, ran, tunnel_exact _ _ _ _ ran started alive⟩

end Overplus.Verif.Tunnel
