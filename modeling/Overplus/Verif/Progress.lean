import Overplus.Verif.EndToEnd

/-!
# No dead end in a tunnel

Whatever has happened to a forwarding session, completions of its sends alone empty its rings, and
both sources are read again. In a circuit whose client session has not failed, completions of the
server session alone therefore bring everything the application has sent so far to the target.
-/
namespace Overplus.Verif.Progress

open ServedTarget Tunnel

section Session

open Server

variable {config : ServerConfig} {session next : Session} {direction : Direction} {data : Bytes}
  {world : World}

/-- A tunnel of a process that runs. -/
structure Running (session : Session) : Prop extends Tunnelling session where
  /-- The process runs. -/
  running : session.crashed = false

/-- The completion of a send. -/
def isSend (event : Event) : Bool :=
  match event.op, event.result with
  | .send _ _ _, .sent _ => true
  | _, _ => false

/-- Bytes that wait in the rings. -/
def queued (session : Session) : Nat := session.down.ring.used + session.up.ring.used

@[simp]
theorem setLane_crashed {lane : Lane} :
    (session.setLane direction lane).crashed = session.crashed := by
  cases direction <;> rfl

@[simp]
theorem await_crashed {op : Op} : (session.await op).crashed = session.crashed := rfl

@[simp]
theorem doSend_crashed : (session.doSend direction).crashed = session.crashed := by
  unfold Session.doSend
  dsimp only
  split
  · split
    · rw [Session.asyncBidirectionalRead_single, await_crashed, setLane_crashed]
    · exact setLane_crashed
  · rfl

/-- Queueing a chunk does not end the process. -/
theorem asyncBidirectionalWrite_crashed (len : Nat) :
    (session.asyncBidirectionalWrite direction len).crashed = session.crashed := by
  have enqueued (chunk : Bytes) :
      (session.enqueueWrite direction chunk).crashed = session.crashed := by
    unfold Session.enqueueWrite
    dsimp only
    split
    · exact setLane_crashed
    · rw [doSend_crashed, setLane_crashed]
  have goesOn (queued : Session) (same : queued.crashed = session.crashed) :
      (if (queued.lane direction).ring.hasSpace maxBuffSize then
        queued.asyncBidirectionalRead [direction]
      else queued.setLane direction { queued.lane direction with pausing := true }).crashed =
        session.crashed := by
    split
    · rw [Session.asyncBidirectionalRead_single, await_crashed, same]
    · rw [setLane_crashed, same]
  exact goesOn _ (enqueued _)

/-- The operation of each direction of a tunnel, on the point of completing. -/
theorem tunnel_completing (tunnelling : Tunnelling session) : ∃ ops : Direction → Op,
    ∀ direction, ops direction ∈ session.pending ∧
      Completing (session.complete (ops direction)) direction ops := by
  obtain ⟨alive, ops, perm, lanes⟩ := tunnelling
  refine ⟨ops, fun direction => ⟨?_, alive, pending_replace perm direction, lanes⟩⟩
  rw [perm.mem_iff]
  cases direction <;> simp

/-- An operation that can complete does. -/
theorem step_of_pending {op : Op} {result : Result} (running : session.crashed = false)
    (member : op ∈ session.pending) (admitted : op.admits result = true) :
    session.step config ⟨op, result, world⟩ =
      some ((session.complete op).handle config world op result) :=
  if_pos ⟨running, member, admitted⟩

/-- **A ring with bytes is being sent.** The send can complete with all bytes it offers, and the
tunnel goes on. -/
theorem send_step (config : ServerConfig) (tunnel : Running session)
    (waiting : 0 < (session.lane direction).ring.used) :
    ∃ event next chunk, isSend event = true ∧ session.step config event = some next ∧
      Running next ∧ kept next = kept session ∧
      next.trace = session.trace ++ [.handed direction chunk] ∧ chunk ≠ [] := by
  obtain ⟨ops, completing⟩ := tunnel_completing tunnel.toTunnelling
  obtain ⟨member, completed⟩ := completing direction
  have own := completed.lanes direction
  have same : (session.complete (ops direction)).lane direction = session.lane direction := by
    cases direction <;> rfl
  rw [same] at own
  obtain ⟨offers, positive, front⟩ := SessionBuffer.peek_spec own.well
  rcases own.busy with ⟨-, drained, -⟩ | ⟨sending, -⟩
  · omega
  generalize isPosition : (session.lane direction).ring.peek.1 = position at sending front
  generalize isCount : (session.lane direction).ring.peek.2 = count at sending front offers positive
  have some := positive waiting
  have admitted : (Op.send direction position count).admits (.sent count) = true :=
    decide_eq_true ⟨some, le_refl _⟩
  have kept := completed.send sending ⟨some, le_refl count⟩ config {}
  rw [sending] at member kept
  refine ⟨⟨.send direction position count, .sent count, {}⟩, _,
    ((session.lane direction).ring.region position count).take count, rfl,
    step_of_pending tunnel.running member admitted, ⟨kept, ?_⟩, ?_, ?_, ?_⟩
  · simp only [Session.handle, doSend_crashed, setLane_crashed]
    exact tunnel.running
  · exact handle_kept (.sent direction position count count)
  · simp only [Session.handle, Session.doSend_trace, Session.setLane_trace]
    change session.trace ++ [.handed direction (List.take count
      (SessionBuffer.region ((session.complete _).lane direction).ring position count))] = _
    cases direction <;> rfl
  · rw [front, List.take_take, Nat.min_self]
    intro none
    have length := congrArg List.length none
    rw [List.length_take, SessionBuffer.contents_length, List.length_nil] at length
    omega

/-- **An empty ring is being filled.** The read can complete with any chunk, and the tunnel goes
on. -/
theorem read_step (config : ServerConfig) (tunnel : Running session)
    (drained : (session.lane direction).ring.used = 0) (small : data.length ≤ maxBuffSize) :
    ∃ next, session.step config ⟨.read direction, .read data, {}⟩ = some next ∧ Running next ∧
      kept next = kept session ∧ next.trace = session.trace ++ [.received direction data] := by
  obtain ⟨ops, completing⟩ := tunnel_completing tunnel.toTunnelling
  obtain ⟨member, completed⟩ := completing direction
  have own := completed.lanes direction
  have same : (session.complete (ops direction)).lane direction = session.lane direction := by
    cases direction <;> rfl
  rw [same] at own
  rcases own.busy with ⟨reading, -⟩ | ⟨-, some, -⟩
  · have admitted : (Op.read direction).admits (.read data) = true := decide_eq_true small
    have kept := completed.read reading small config {}
    rw [reading] at member kept
    have alive : ((session.complete (.read direction)).receive direction data).state ≠
        .destroy := by
      rw [Session.receive_state]
      exact tunnel.alive
    refine ⟨_, step_of_pending tunnel.running member admitted, ⟨kept, ?_⟩,
      handle_kept (.read direction data), ?_⟩
    · simp only [Session.handle, alive, ↓reduceIte, asyncBidirectionalWrite_crashed]
      cases direction <;> exact tunnel.running
    · simp only [Session.handle, alive, ↓reduceIte, Session.asyncBidirectionalWrite_trace,
        Session.receive_trace]
      rfl
  · omega

/-- What is queued is what was not handed on. -/
theorem lane_length (tunnelling : Tunnelling session) (direction : Direction) :
    (handedBytes direction session.trace).length + (session.lane direction).ring.used =
      (source session direction).length := by
  obtain ⟨-, ops, -, lanes⟩ := tunnelling
  rw [← (lanes direction).exact, List.length_append, SessionBuffer.contents_length]

/-- The early data is part of what a session keeps of its request. -/
theorem source_eq (same : kept next = kept session)
    (received : receivedBytes direction next.trace = receivedBytes direction session.trace) :
    source next direction = source session direction := by
  have payload : next.initialPayload = session.initialPayload := by
    unfold Session.initialPayload
    rw [show next.vprotocol = session.vprotocol from congrArg Kept.vprotocol same,
      show next.vReq = session.vReq from congrArg Kept.vReq same,
      show next.trojanReq = session.trojanReq from congrArg Kept.trojanReq same]
  rw [source, source, received, earlyData_congr payload]

/-- A send leaves less in the rings. -/
theorem queued_send {chunk : Bytes} (tunnel : Running session) (later : Running next)
    (same : kept next = kept session)
    (trace : next.trace = session.trace ++ [.handed direction chunk]) (some : chunk ≠ []) :
    queued next < queued session := by
  have positive := List.length_pos_of_ne_nil some
  have lengths (towards : Direction) : (handedBytes towards next.trace).length +
      (next.lane towards).ring.used = (handedBytes towards session.trace).length +
        (session.lane towards).ring.used := by
    have received : receivedBytes towards next.trace = receivedBytes towards session.trace := by
      rw [trace, receivedBytes_handed]
    rw [lane_length later.toTunnelling, lane_length tunnel.toTunnelling, source_eq same received]
  have down := lengths .down
  have up := lengths .up
  rw [trace, handedBytes_handed, List.length_append] at down up
  change next.down.ring.used + next.up.ring.used < session.down.ring.used + session.up.ring.used
  change _ + next.down.ring.used = _ + session.down.ring.used at down
  change _ + next.up.ring.used = _ + session.up.ring.used at up
  cases direction with
  | down =>
    rw [if_pos rfl] at down
    rw [if_neg (by decide), List.length_nil] at up
    omega
  | up =>
    rw [if_neg (by decide), List.length_nil] at down
    rw [if_pos rfl] at up
    omega

/-- **Completions of sends alone empty the rings.** -/
theorem drains (config : ServerConfig) (tunnel : Running session) :
    ∃ events final, (∀ event ∈ events, isSend event = true) ∧
      run (Session.step config) session events = some final ∧ Running final ∧
      kept final = kept session ∧ queued final = 0 ∧
      ∀ direction, receivedBytes direction final.trace = receivedBytes direction session.trace := by
  -- induction on what waits; each send takes at least one byte out of it
  induction size : queued session using Nat.strong_induction_on generalizing session with
  | _ amount ih =>
    by_cases none : amount = 0
    · exact ⟨[], session, by simp, rfl, tunnel, rfl, size.trans none, fun _ => rfl⟩
    · obtain ⟨direction, waiting⟩ : ∃ direction, 0 < (session.lane direction).ring.used := by
        by_cases first : 0 < session.down.ring.used
        · exact ⟨.down, first⟩
        · refine ⟨.up, ?_⟩
          change 0 < session.up.ring.used
          unfold queued at size
          omega
      obtain ⟨event, next, chunk, own, stepped, later, same, trace, some⟩ :=
        send_step config tunnel waiting
      have less := queued_send tunnel later same trace some
      obtain ⟨events, final, sends, ran, ends, kept, empty, received⟩ :=
        ih (queued next) (by omega) later rfl
      refine ⟨event :: events, final, ?_, ?_, ends, kept.trans same, empty, ?_⟩
      · intro other member
        rcases List.mem_cons.mp member with rfl | among
        · exact own
        · exact sends other among
      · rw [run, stepped]
        exact ran
      · intro towards
        rw [received, trace, receivedBytes_handed]

/-- In a tunnel with empty rings everything was handed on, and both sources are read. -/
theorem drained_tunnel (tunnel : Running session) (empty : queued session = 0) :
    session.pending.Perm [.read .down, .read .up] ∧
      ∀ direction, handedBytes direction session.trace = source session direction := by
  have nothing (direction : Direction) : (session.lane direction).ring.used = 0 := by
    unfold queued at empty
    cases direction
    · change session.down.ring.used = 0
      omega
    · change session.up.ring.used = 0
      omega
  obtain ⟨-, ops, perm, lanes⟩ := tunnel.toTunnelling
  have reading (direction : Direction) : ops direction = .read direction := by
    have drained := nothing direction
    rcases (lanes direction).busy with ⟨reads, -⟩ | ⟨-, some, -⟩
    · exact reads
    · omega
  refine ⟨?_, fun direction => ?_⟩
  · rwa [reading, reading] at perm
  · have exact := (lanes direction).exact
    rwa [SessionBuffer.contents_empty (nothing direction), List.append_nil] at exact

end Session

/-- **A tunnel can always be emptied.** After every run of a session that forwards and was not
destroyed, some completions of its sends, and of nothing else, lead to a session that has handed to
the target all early data and all bytes read from the client, has handed to the client all bytes
read from the target, and reads both again. -/
theorem tunnel_drains (config : Server.ServerConfig) (kind : Server.SessionKind)
    (events : List Server.Event) (session : Server.Session)
    (ran : run (Server.Session.step config) (Server.Session.start kind) events = some session)
    (started : Server.Effect.forwarding ∈ session.trace) (alive : session.state ≠ .destroy)
    (running : session.crashed = false) :
    ∃ more final, (∀ event ∈ more, isSend event = true) ∧
      run (Server.Session.step config) session more = some final ∧
      final.pending.Perm [.read .down, .read .up] ∧
      Server.handedBytes .down final.trace =
        session.initialPayload ++ Server.receivedBytes .down session.trace ∧
      Server.handedBytes .up final.trace = Server.receivedBytes .up session.trace := by
  obtain ⟨more, final, sends, ranOn, tunnel, same, empty, received⟩ :=
    drains config ⟨run_tunnelling ran started alive, running⟩
  obtain ⟨pending, handed⟩ := drained_tunnel tunnel empty
  refine ⟨more, final, sends, ranOn, pending, ?_, ?_⟩
  · rw [handed, source_eq same (received .down)]
    rfl
  · rw [handed, source_eq same (received .up)]
    rfl

/-- The sample tunnel has a byte for the target and a byte for the client in its rings. -/
theorem tunnel_drains_sample : ∃ session,
    run (Server.Session.step ⟨[[0x70]]⟩) (Server.Session.start .tls) Tunnel.sampleEvents =
        some session ∧ queued session = 2 ∧
      ∃ more final, (∀ event ∈ more, isSend event = true) ∧
        run (Server.Session.step ⟨[[0x70]]⟩) session more = some final ∧
        final.pending.Perm [.read .down, .read .up] ∧
        Server.handedBytes .down final.trace =
          session.initialPayload ++ Server.receivedBytes .down session.trace ∧
        Server.handedBytes .up final.trace = Server.receivedBytes .up session.trace := by
  have checked : (run (Server.Session.step ⟨[[0x70]]⟩) (Server.Session.start .tls)
      Tunnel.sampleEvents).any (fun session =>
        decide (Server.Effect.forwarding ∈ session.trace ∧ session.state ≠ .destroy ∧
          session.crashed = false ∧ queued session = 2)) = true := by
    decide +kernel
  obtain ⟨session, ran, good⟩ := exists_of_run checked
  obtain ⟨started, alive, running, waiting⟩ := of_decide_eq_true good
  exact ⟨session, ran, waiting, tunnel_drains _ _ _ _ ran started alive running⟩

section Circuit

open EndToEnd HttpConnect RequestRoundTrip

variable {config : Client.ClientConfig} {served : Server.ServerConfig} {number : Nat}
  {circuit later : Circuit}

/-- Bytes of the client session that are certain to come. As long as its process runs and none of
its operations has failed, these are all it has put on the connection: each of its writes has
completed or goes on. Otherwise a write may have ended in the middle, or the connection with it,
and only what was read is certain. -/
def certain (circuit : Circuit) (number : Nat) (past : List Client.Event) : Bytes :=
  if circuit.client.server.crashed = false ∧
      ∀ completion ∈ Client.completions number past, completion.2 ≠ .failed then
    circuit.wire number
  else circuit.taken

/-- A step of the server session that takes what comes next is a step of the circuit. -/
theorem circuit_step (config : Client.ClientConfig) {event : Server.Event} {server : Server.Session}
    (stepped : circuit.server.step served event = some server)
    (enabled : comesNext (circuit.wire number) circuit.taken (clientData event) = true) :
    ∃ later, circuit.step config served number (.server event) = some later ∧
      later.client = circuit.client ∧ later.server = server ∧
      later.taken = circuit.taken ++ clientData event := by
  refine ⟨{ circuit with
    server := server
    taken := circuit.taken ++ clientData event
    offered := if server.state = .destroy then circuit.offered else offeredBytes server },
    ?_, rfl, rfl, rfl⟩
  simp only [Circuit.step, enabled, ↓reduceIte, stepped, Option.map_some]

/-- What is on the connection depends on the client side only. -/
theorem wire_congr (same : later.client = circuit.client) :
    later.wire number = circuit.wire number := by
  rw [Circuit.wire, Circuit.wire, same]

/-- Sends read nothing. -/
theorem clientData_send {event : Server.Event} (own : isSend event = true) :
    clientData event = [] := by
  obtain ⟨op, result, world⟩ := event
  cases result with
  | read data => cases op <;> first | rfl | cases own
  | _ => rfl

/-- Completions of sends are steps of the circuit. -/
theorem run_sends (config : Client.ClientConfig) {events : List Server.Event}
    {final : Server.Session} (sends : ∀ event ∈ events, isSend event = true)
    (ran : run (Server.Session.step served) circuit.server events = some final) :
    ∃ later, run (Circuit.step config served number) circuit (events.map .server) = some later ∧
      later.client = circuit.client ∧ later.server = final ∧ later.taken = circuit.taken := by
  induction events generalizing circuit with
  | nil =>
    obtain rfl := Option.some.inj ran
    exact ⟨circuit, rfl, rfl, rfl, rfl⟩
  | cons event events ih =>
    obtain ⟨server, stepped, rest⟩ := Option.bind_eq_some_iff.mp ran
    have silent := clientData_send (sends event List.mem_cons_self)
    have enabled : comesNext (circuit.wire number) circuit.taken (clientData event) = true := by
      rw [silent]
      exact comesNext_nil _ _
    obtain ⟨middle, moved, client, rfl, taken⟩ := circuit_step config stepped enabled
    obtain ⟨later, ranOn, sameClient, server, sameTaken⟩ :=
      ih (fun other member => sends other (List.mem_cons_of_mem _ member)) rest
    refine ⟨later, ?_, sameClient.trans client, server, ?_⟩
    · rw [List.map_cons, run, moved]
      exact ranOn
    · rw [sameTaken, taken, silent, List.append_nil]

/-- **The server session can take everything that is on the connection**, and hand it on. -/
theorem takes_all (config : Client.ClientConfig) (served : Server.ServerConfig)
    (tunnel : Running circuit.server) (behind : circuit.taken <+: circuit.wire number) :
    ∃ (more : List Server.Event) (later : Circuit),
      run (Circuit.step config served number) circuit (more.map .server) =
        some later ∧ later.client = circuit.client ∧ Running later.server ∧
      queued later.server = 0 ∧ later.taken = circuit.wire number := by
  -- induction on what is left on the connection; each round empties the rings and reads a chunk
  induction left : (circuit.wire number).length - circuit.taken.length using
    Nat.strong_induction_on generalizing circuit with
  | _ amount ih =>
    obtain ⟨sends, server, own, ran, running, -, empty, -⟩ := drains served tunnel
    obtain ⟨middle, ranOn, client, rfl, taken⟩ :=
      @run_sends served number circuit config sends server own ran
    have wire : middle.wire number = circuit.wire number := wire_congr client
    by_cases all : circuit.taken = circuit.wire number
    · exact ⟨sends, middle, ranOn, client, running, empty, taken.trans all⟩
    · obtain ⟨rest, whole⟩ := behind
      have some : rest ≠ [] := by
        rintro rfl
        rw [List.append_nil] at whole
        exact all whole
      have dropped : (middle.wire number).drop middle.taken.length = rest := by
        rw [wire, taken, ← whole, List.drop_left]
      have drained : (middle.server.lane .down).ring.used = 0 := by
        unfold queued at empty
        change middle.server.down.ring.used = 0
        omega
      have small : (rest.take Server.maxBuffSize).length ≤ Server.maxBuffSize :=
        List.length_take_le _ _
      obtain ⟨server, stepped, goesOn, -, -⟩ := read_step served running drained small
      have reads : clientData ⟨.read .down, .read (rest.take Server.maxBuffSize), {}⟩ =
          rest.take Server.maxBuffSize := rfl
      have enabled : comesNext (middle.wire number) middle.taken
          (clientData ⟨.read .down, .read (rest.take Server.maxBuffSize), {}⟩) = true := by
        rw [comesNext, dropped, reads]
        exact List.isPrefixOf_iff_prefix.mpr (List.take_prefix _ _)
      obtain ⟨next, moved, sameClient, rfl, grown⟩ := circuit_step config stepped enabled
      have sameWire : next.wire number = circuit.wire number := (wire_congr sameClient).trans wire
      rw [reads, taken] at grown
      have further : next.taken <+: next.wire number := by
        rw [sameWire, grown, ← whole]
        exact (List.prefix_append_right_inj _).mpr (List.take_prefix _ _)
      have less : (next.wire number).length - next.taken.length < amount := by
        have positive := List.length_pos_of_ne_nil some
        have room : 0 < Server.maxBuffSize := by decide
        rw [sameWire, grown, ← left, ← whole, List.length_append, List.length_append,
          List.length_take]
        omega
      obtain ⟨more, later, ranLater, lastClient, lastRunning, lastEmpty, lastTaken⟩ :=
        ih _ less goesOn further rfl
      refine ⟨sends ++ ⟨.read .down, .read (rest.take Server.maxBuffSize), {}⟩ :: more, later, ?_,
        lastClient.trans (sameClient.trans client), lastRunning, lastEmpty,
        lastTaken.trans sameWire⟩
      rw [List.map_append, run_append ranOn, List.map_cons, run, moved]
      exact ranLater

/-- Forwarding does not stop being recorded. -/
theorem forwarding_stays {session final : Server.Session} {events : List Server.Event}
    (ran : run (Server.Session.step served) session events = some final)
    (started : Server.Effect.forwarding ∈ session.trace) :
    Server.Effect.forwarding ∈ final.trace := by
  refine @run_invariant _ _ _ (fun state => Server.Effect.forwarding ∈ state.trace) _ _ _ ?_
    started ran
  intro state event next before stepped
  exact (Server.Session.step_outcome stepped).2.2.extends.subset before

end Circuit

/-- **Everything the application has sent can reach the target.** After every run of a circuit
whose server session forwards and was not destroyed, and in which no operation of the client
session has failed, some completions of the server session, and nothing else, lead to a circuit in
which exactly the bytes the application has sent through the tunnel so far were handed to the
target. Of the connection the server session has then read just what is certain to come. -/
theorem circuit_delivers (config : Client.ClientConfig) (served : Server.ServerConfig) (ssl : Bool)
    (kind : Server.SessionKind) (number : Nat) (events : List EndToEnd.Event)
    (circuit : EndToEnd.Circuit) (session : Client.Session)
    (ran : run (EndToEnd.Circuit.step config served number) (.start config ssl kind) events =
      some circuit)
    (found : circuit.client.sessions[number]? = some session)
    (fits : ∀ host port, (host, port) ∈ RequestRoundTrip.askedFor session.trace →
      RequestRoundTrip.Fits (RequestRoundTrip.requestFor config host port))
    (started : Server.Effect.forwarding ∈ circuit.server.trace)
    (alive : circuit.server.state ≠ .destroy) (running : circuit.server.crashed = false)
    (up : circuit.client.server.crashed = false)
    (unbroken : ∀ completion ∈
      Client.completions number (events.filterMap EndToEnd.Event.client?), completion.2 ≠ .failed) :
    ∃ (more : List Server.Event) (later : EndToEnd.Circuit),
      run (EndToEnd.Circuit.step config served number) circuit
        (more.map EndToEnd.Event.server) = some later ∧
      later.client = circuit.client ∧ later.server.state ≠ .destroy ∧
      later.taken = certain circuit number (events.filterMap EndToEnd.Event.client?) ∧
      Server.handedBytes .down later.server.trace = HttpConnect.tunnelBytes
        (Client.completions number (events.filterMap EndToEnd.Event.client?)) := by
  have tunnel : Running circuit.server :=
    ⟨run_tunnelling (EndToEnd.run_server ran) started alive, running⟩
  obtain ⟨more, later, ranOn, client, goesOn, empty, taken⟩ :=
    takes_all config served tunnel (EndToEnd.run_linked ran).uplink
  refine ⟨more, later, ranOn, client, goesOn.alive, ?_, ?_⟩
  · rw [taken, certain, if_pos ⟨up, unbroken⟩]
  have whole : run (EndToEnd.Circuit.step config served number) (.start config ssl kind)
      (events ++ more.map EndToEnd.Event.server) = some later := by
    rw [run_append ran]
    exact ranOn
  have still := forwarding_stays (EndToEnd.run_server ranOn) started
  rw [← client] at found
  obtain ⟨-, host, port, -, -, -, carried, wire⟩ :=
    EndToEnd.run_uplink whole found fits still goesOn.alive
  have same : (events ++ more.map EndToEnd.Event.server).filterMap EndToEnd.Event.client? =
      events.filterMap EndToEnd.Event.client? := by
    rw [List.filterMap_append, List.filterMap_map]
    have none : more.filterMap (EndToEnd.Event.client? ∘ EndToEnd.Event.server) = [] :=
      List.filterMap_eq_nil_iff.mpr fun _ _ => rfl
    rw [none, List.append_nil]
  have drained : later.server.down.ring.contents = [] := by
    apply Server.SessionBuffer.contents_empty
    unfold queued at empty
    omega
  rw [taken, ← wire_congr client, wire, same, drained, List.append_nil] at carried
  exact (List.append_cancel_left carried).symm

/-- The third byte of the sample application is still on the connection. -/
theorem circuit_delivers_sample : ∃ circuit,
    run (EndToEnd.Circuit.step EndToEnd.sampleConfig ⟨[[0x70]]⟩ 0)
        (.start EndToEnd.sampleConfig true .tls) EndToEnd.sampleEvents = some circuit ∧
      ∃ (more : List Server.Event) (later : EndToEnd.Circuit),
        run (EndToEnd.Circuit.step EndToEnd.sampleConfig ⟨[[0x70]]⟩ 0) circuit
          (more.map EndToEnd.Event.server) = some later ∧
        later.client = circuit.client ∧ later.server.state ≠ .destroy ∧
        later.taken = certain circuit 0
          (EndToEnd.sampleEvents.filterMap EndToEnd.Event.client?) ∧
        Server.handedBytes .down later.server.trace = [1, 2, 3] := by
  obtain ⟨circuit, session, ran, found, asked, started, alive, running, up, -⟩ :=
    EndToEnd.sample_runs
  have fits (host : Bytes) (port : UInt16)
      (member : (host, port) ∈ RequestRoundTrip.askedFor session.trace) :
      RequestRoundTrip.Fits (RequestRoundTrip.requestFor EndToEnd.sampleConfig host port) := by
    rw [asked, List.mem_singleton] at member
    obtain ⟨rfl, rfl⟩ := Prod.mk.inj member
    decide
  exact ⟨circuit, ran,
    circuit_delivers _ _ _ _ _ _ _ _ ran found fits started alive running up (by decide +kernel)⟩

end Overplus.Verif.Progress
