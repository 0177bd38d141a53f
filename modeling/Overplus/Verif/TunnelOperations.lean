import Overplus.Verif.Tunnel

/-!
# Operations of a tunnel, until and after its end

While a tunnel lives, each direction has one operation in flight, so backpressure neither stalls
it nor doubles an operation. `destroy` empties both rings. The handler of a send does not look
at the state: a send that was already done when the session was destroyed makes its ring's count
wrap and starts another send. Without such a send the end is clean.
-/
namespace Overplus.Verif.TunnelOperations

open Server Tunnel

/-- The two sockets of a tunnel. -/
inductive Socket where
  /-- `upstream_socket`, to the client. -/
  | upstream
  /-- `downstream_socket`, to the target. -/
  | downstream
deriving DecidableEq, Repr

/-- What an operation does with its socket. -/
inductive Use where
  /-- It reads. -/
  | read
  /-- It writes. -/
  | write
deriving DecidableEq, Repr

/-- The socket an operation of the tunnel works on, and how it uses it. -/
def use : Op → Option (Socket × Use)
  | .read .down => some (.upstream, .read)
  | .read .up => some (.downstream, .read)
  | .send .down _ _ => some (.downstream, .write)
  | .send .up _ _ => some (.upstream, .write)
  | _ => none

/-- The operation of a direction: a read of its source with an empty ring and no flag set, or a
send to its sink with bytes in the ring and both flags set. -/
def Outstanding (direction : Direction) (lane : Lane) (op : Op) : Prop :=
  (op = .read direction ∧ lane.ring.empty = true ∧ lane.sending = false ∧
      lane.pausing = false) ∨
    ((∃ position count, op = .send direction position count) ∧ lane.ring.empty = false ∧
      lane.sending = true ∧ lane.pausing = true)

/-- Each direction has one operation in flight, and no socket is used twice. -/
structure OneEach (session : Session) : Prop where
  /-- Each direction has exactly one operation. -/
  each : ∃ down up, session.pending.Perm [down, up] ∧ Outstanding .down session.down down ∧
    Outstanding .up session.up up
  /-- No socket has two reads or two writes in flight. -/
  exclusive : (session.pending.map use).Nodup ∧ none ∉ session.pending.map use
  /-- A paused direction has a send in flight. -/
  resumed : ∀ direction, (session.lane direction).pausing = true →
    ∃ position count, .send direction position count ∈ session.pending

variable {session next : Session} {direction : Direction} {lane : Lane} {op : Op}
  {handed carried : Bytes} {event : Event} {config : ServerConfig}

/-- The operation of a lane is its outstanding one. -/
theorem outstanding_of_laneOk (ok : LaneOk direction lane op handed carried) :
    Outstanding direction lane op := by
  rcases ok.busy with ⟨reading, drained, flags⟩ | ⟨sending, filled, flags⟩
  · refine .inl ⟨reading, ?_, flags⟩
    rw [SessionBuffer.empty, drained]
    rfl
  · refine .inr ⟨⟨_, _, sending⟩, ?_, flags⟩
    rw [SessionBuffer.empty, beq_eq_false_iff_ne]
    exact Nat.ne_of_gt filled

/-- The operations of the two directions use different sockets, or one socket differently. -/
theorem Outstanding.exclusive {down up : Op} {one other : Lane}
    (isDown : Outstanding .down one down) (isUp : Outstanding .up other up) :
    ([down, up].map use).Nodup ∧ none ∉ [down, up].map use := by
  rcases isDown with ⟨rfl, -⟩ | ⟨⟨_, _, rfl⟩, -⟩ <;>
    rcases isUp with ⟨rfl, -⟩ | ⟨⟨_, _, rfl⟩, -⟩ <;>
      simp [use]

/-- **Backpressure neither stalls a tunnel nor doubles an operation.** In every reachable state
of a forwarding session that was not destroyed, for all chunk sizes, partial sends and
interleavings, each direction has exactly one operation in flight: a read with its ring empty
and its flags clear, or a send with bytes in its ring and its flags set. No socket has two reads
or two writes in flight, and a paused direction has a send in flight. -/
theorem one_operation_each (config : ServerConfig) (kind : SessionKind) (events : List Event)
    (session : Session)
    (ran : run (Session.step config) (Session.start kind) events = some session)
    (started : Effect.forwarding ∈ session.trace) (alive : session.state ≠ .destroy) :
    OneEach session := by
  obtain ⟨_, ops, perm, lanes⟩ := run_tunnelling ran started alive
  have each (direction : Direction) :
      Outstanding direction (session.lane direction) (ops direction) :=
    outstanding_of_laneOk (lanes direction)
  refine ⟨⟨ops .down, ops .up, perm, each .down, each .up⟩, ?_, ?_⟩
  · have mapped := perm.map use
    obtain ⟨distinct, known⟩ := (each .down).exclusive (each .up)
    exact ⟨mapped.nodup_iff.mpr distinct, fun member => known (mapped.mem_iff.mp member)⟩
  · intro direction paused
    have member : ops direction ∈ session.pending := by
      rw [perm.mem_iff]
      cases direction <;> simp
    rcases each direction with ⟨-, -, -, clear⟩ | ⟨⟨position, count, sending⟩, -⟩
    · rw [clear] at paused
      cases paused
    · exact ⟨position, count, sending ▸ member⟩

/-- In the sample run the client's bytes are being sent and so is the target's. -/
theorem one_operation_each_sample : ∃ session,
    run (Session.step ⟨[[0x70]]⟩) (Session.start .tls) sampleEvents = some session ∧
      session.pending = [.send .down 2 1, .send .up 0 1] ∧ OneEach session := by
  have checked : (run (Session.step ⟨[[0x70]]⟩) (Session.start .tls) sampleEvents).any
      (fun session => decide (Effect.forwarding ∈ session.trace ∧ session.state ≠ .destroy ∧
        session.pending = [.send .down 2 1, .send .up 0 1])) = true := by
    decide +kernel
  obtain ⟨session, ran, good⟩ := exists_of_run checked
  obtain ⟨started, alive, pending⟩ := of_decide_eq_true good
  exact ⟨session, ran, pending, one_operation_each _ _ _ _ ran started alive⟩

/-- A result that reports bytes sent. -/
def isSent : Result → Bool
  | .sent _ => true
  | _ => false

/-- No send of a destroyed session completes with success. -/
def NoLateSend (session : Session) (event : Event) : Prop :=
  session.state = .destroy → isSent event.result = false

instance (session : Session) (event : Event) : Decidable (NoLateSend session event) :=
  inferInstanceAs (Decidable (_ → _))

/-- The counters of a ring are in range. -/
def InRange (ring : SessionBuffer) : Prop :=
  ring.used ≤ ring.capacity ∧ ring.readPos < ring.capacity

/-- A destroyed tunnel with both rings as `reset` left them. -/
structure Torn (session : Session) : Prop extends Closed session where
  /-- Both rings are empty. -/
  emptied : ∀ direction, (session.lane direction).ring.used = 0
  /-- Both rings start at their first byte. -/
  rewound : ∀ direction, (session.lane direction).ring.readPos = 0
  /-- The rings have the size of a read. -/
  capacity : ∀ direction, (session.lane direction).ring.capacity = maxBuffSize
  /-- What is still being sent was offered by a ring. -/
  offered : ∀ direction position count, .send direction position count ∈ session.pending →
    count ≤ maxBuffSize

/-- A tunnel offers at most its ring for sending. -/
theorem offered_of_tunnelling (tunnelling : Tunnelling session) (position count : Nat)
    (member : .send direction position count ∈ session.pending) : count ≤ maxBuffSize := by
  obtain ⟨_, ops, perm, lanes⟩ := tunnelling
  obtain ⟨towards, same⟩ : ∃ towards, .send direction position count = ops towards := by
    rcases List.mem_pair.mp (perm.mem_iff.mp member) with down | up
    · exact ⟨.down, down⟩
    · exact ⟨.up, up⟩
  have ok := lanes towards
  rcases ok.busy with ⟨reading, -⟩ | ⟨sending, -⟩
  · rw [reading] at same
    cases same
  · rw [sending] at same
    obtain ⟨-, -, rfl⟩ := Op.send.inj same
    have few := (SessionBuffer.peek_spec ok.well).1
    have fits := ok.well.fits
    rw [ok.capacity] at fits
    omega

/-- Destroying a tunnel empties its rings. -/
theorem torn_of_tunnelling (tunnelling : Tunnelling session) :
    Torn (session.complete op).destroy := by
  have alive : (session.complete op).state ≠ .destroy := tunnelling.alive
  have tunnel : ∀ other ∈ (session.complete op).pending, isTunnel other = true :=
    fun other member => tunnelling.tunnel other (List.mem_of_mem_erase member)
  have lanes (direction : Direction) : ((session.complete op).destroy.lane direction).ring =
      (session.lane direction).ring.reset := by
    unfold Session.destroy
    rw [if_neg alive]
    cases direction <;> rfl
  refine ⟨closed_destroy tunnel, ?_, ?_, ?_, ?_⟩
  · intro direction
    rw [lanes]
    rfl
  · intro direction
    rw [lanes]
    rfl
  · intro direction
    obtain ⟨_, ops, _, ok⟩ := tunnelling
    rw [lanes]
    exact (ok direction).capacity
  · intro direction position count member
    rw [Session.destroy_pending] at member
    exact offered_of_tunnelling tunnelling position count (List.mem_of_mem_erase member)

/-- A session with the same rings and state and no new operation stays torn. -/
theorem Torn.congr {changed : Session} (torn : Torn session)
    (state : changed.state = session.state)
    (lanes : ∀ direction, changed.lane direction = session.lane direction)
    (fewer : ∀ op ∈ changed.pending, op ∈ session.pending) : Torn changed where
  dead := state.trans torn.dead
  tunnel op member := torn.tunnel op (fewer op member)
  emptied direction := by rw [lanes]; exact torn.emptied direction
  rewound direction := by rw [lanes]; exact torn.rewound direction
  capacity direction := by rw [lanes]; exact torn.capacity direction
  offered direction position count member := torn.offered direction position count (fewer _ member)

/-- A completion other than a successful send starts nothing in a destroyed tunnel. -/
theorem Torn.step (torn : Torn session) (early : isSent event.result = false)
    (stepped : session.step config event = some next) :
    Torn next ∧ next.pending = session.pending.erase event.op := by
  obtain ⟨pending, admitted, rfl⟩ := Session.step_some stepped
  have completed : Torn (session.complete event.op) :=
    torn.congr rfl (fun _ => rfl) fun _ member => List.mem_of_mem_erase member
  have same : (session.complete event.op).destroy = session.complete event.op :=
    if_pos completed.dead
  obtain ⟨op, result, world⟩ := event
  dsimp only at *
  have tunnel := torn.tunnel op pending
  cases result with
  | failed =>
    rw [Session.handle_failed, same]
    exact ⟨completed, rfl⟩
  | read data =>
    cases op with
    | read direction =>
      have dead :
          ((session.complete (.read direction)).receive direction data).state = .destroy := by
        rw [Session.receive_state]
        exact completed.dead
      simp only [Session.handle, dead, ↓reduceIte]
      refine ⟨completed.congr Session.receive_state (fun _ => Session.receive_lane) ?_,
        Session.receive_pending⟩
      intro other member
      rwa [Session.receive_pending] at member
    | send => cases admitted
    | _ => cases tunnel
  | sent count => cases early
  | done | resolved | received =>
    cases op with
    | read | send => cases admitted
    | _ => cases tunnel

/-- A successful send makes the count of an emptied ring wrap. -/
theorem Torn.late (torn : Torn session) (late : isSent event.result = true)
    (stepped : session.step config event = some next) :
    ∃ direction, ¬ InRange (next.lane direction).ring := by
  obtain ⟨pending, admitted, rfl⟩ := Session.step_some stepped
  obtain ⟨op, result, world⟩ := event
  dsimp only at *
  cases result with
  | sent sent =>
    cases op with
    | send direction position count =>
      have few := torn.offered direction position count pending
      have some : 1 ≤ sent ∧ sent ≤ count := of_decide_eq_true admitted
      have wrapped : sizeSub 0 sent = sizeModulus - sent := by
        rw [sizeSub, Nat.zero_add, Nat.mod_eq_of_lt]
        unfold sizeModulus
        omega
      have ring : (((session.complete (.send direction position count)).handle config world
          (.send direction position count) (.sent sent)).lane direction).ring =
            (session.lane direction).ring.consume sent := by
        rw [Session.handle, Session.doSend_ring, Session.setLane_lane]
        rfl
      refine ⟨direction, ?_⟩
      rw [ring, InRange, SessionBuffer.consume]
      dsimp only
      rw [torn.emptied, torn.capacity, wrapped]
      intro range
      have bound := range.1
      unfold sizeModulus maxBuffSize at *
      omega
    | _ => cases admitted
  | _ => cases late

/-- What every reachable session is, where no send of a destroyed session succeeds. -/
def Orderly (session : Session) : Prop := Opened session ∨ Torn session

/-- Every completion other than a late send keeps a session orderly. -/
theorem step_orderly (config : ServerConfig) (session : Session) (event : Event) (next : Session)
    (orderly : Orderly session) (early : NoLateSend session event)
    (stepped : session.step config event = some next) : Orderly next := by
  rcases orderly with (opening | relaying | tunnelling) | torn
  · exact .inl (opening.step stepped)
  · exact .inl (.inr (.inl (relaying.step stepped)))
  · rcases tunnelling.step stepped with kept | rfl
    · exact .inl (.inr (.inr kept))
    · exact .inr (torn_of_tunnelling tunnelling)
  · exact .inr (torn.step (early torn.dead) stepped).1

/-- **Teardown.** In every run of a TLS session in which no send succeeds after `destroy`, a
destroyed tunnel has both rings in range; and a further completion leaves the session
destroyed, its rings in range and starts no operation, exactly when it is no such send. -/
theorem teardown_safe_iff (config : ServerConfig) (events : List Event) (session : Session)
    (ran : run (Session.step config) (Session.start .tls) events = some session)
    (early : Meets (Session.step config) NoLateSend (Session.start .tls) events)
    (started : Effect.forwarding ∈ session.trace) (dead : session.state = .destroy) :
    (∀ direction, InRange (session.lane direction).ring) ∧
      ∀ event next, session.step config event = some next →
        ((next.state = .destroy ∧ (∀ direction, InRange (next.lane direction).ring) ∧
          next.pending = session.pending.erase event.op) ↔ NoLateSend session event) := by
  have torn : Torn session := by
    have orderly : Orderly session :=
      run_invariant_of_meets (step_orderly config) (.inl (.inl (start_opening .tls))) early ran
    rcases orderly with (opening | relaying | tunnelling) | torn
    · exact absurd started opening.ready.notForwarding
    · exact absurd started relaying.quiet
    · exact absurd dead tunnelling.alive
    · exact torn
  have inRange {session : Session} (torn : Torn session) (direction : Direction) :
      InRange (session.lane direction).ring := by
    refine ⟨?_, ?_⟩
    · rw [torn.emptied]
      exact Nat.zero_le _
    · rw [torn.rewound, torn.capacity]
      decide
  refine ⟨inRange torn, fun event next stepped => ⟨?_, ?_⟩⟩
  · rintro ⟨-, range, -⟩ -
    by_contra late
    obtain ⟨direction, out⟩ := torn.late (by simpa using late) stepped
    exact out (range direction)
  · intro isEarly
    obtain ⟨kept, pending⟩ := torn.step (isEarly dead) stepped
    exact ⟨kept.dead, inRange kept, pending⟩

/-- A client with password `p` has a tunnel to 127.0.0.1, port 80; three bytes of it are being
sent when the read of the target fails. -/
def brokenEvents : List Event :=
  [⟨.handshake, .done, {}⟩,
    ⟨.firstRead, .read [0x70, 13, 10, 1, 1, 127, 0, 0, 1, 0, 80, 13, 10],
      { cachedTcp := fun _ => some ⟨.ofWord 0x7f000001, 80⟩ }⟩,
    ⟨.connect, .done, {}⟩, ⟨.read .down, .read [1, 2, 3], {}⟩, ⟨.read .up, .failed, {}⟩]

/-- The broken tunnel ends with its rings in range. -/
theorem teardown_safe_iff_broken : ∃ session,
    run (Session.step ⟨[[0x70]]⟩) (Session.start .tls) brokenEvents = some session ∧
      session.pending = [.send .down 0 3] ∧
      ∀ direction, InRange (session.lane direction).ring := by
  have checked : (run (Session.step ⟨[[0x70]]⟩) (Session.start .tls) brokenEvents).any
      (fun session => decide (Effect.forwarding ∈ session.trace ∧ session.state = .destroy ∧
        session.pending = [.send .down 0 3])) = true := by
    decide +kernel
  obtain ⟨session, ran, good⟩ := exists_of_run checked
  obtain ⟨started, dead, pending⟩ := of_decide_eq_true good
  have early : Meets (Session.step ⟨[[0x70]]⟩) NoLateSend (Session.start .tls) brokenEvents := by
    decide +kernel
  exact ⟨session, ran, pending, (teardown_safe_iff _ _ _ ran early started dead).1⟩

/-- If the send in flight was done already, the count of the client's ring wraps and the
destroyed session starts another send, of the whole ring. -/
theorem late_send_wraps : ∃ session,
    run (Session.step ⟨[[0x70]]⟩) (Session.start .tls)
      (brokenEvents ++ [⟨.send .down 0 3, .sent 3, {}⟩]) = some session ∧
      Effect.forwarding ∈ session.trace ∧ session.state = .destroy ∧
      session.down.ring.capacity < session.down.ring.used ∧
      session.pending = [.send .down 3 65533] := by
  have checked : (run (Session.step ⟨[[0x70]]⟩) (Session.start .tls)
      (brokenEvents ++ [⟨.send .down 0 3, .sent 3, {}⟩])).any
      (fun session => decide (Effect.forwarding ∈ session.trace ∧ session.state = .destroy ∧
        session.down.ring.capacity < session.down.ring.used ∧
        session.pending = [.send .down 3 65533])) = true := by
    decide +kernel
  obtain ⟨session, ran, good⟩ := exists_of_run checked
  exact ⟨session, ran, of_decide_eq_true good⟩

end Overplus.Verif.TunnelOperations
