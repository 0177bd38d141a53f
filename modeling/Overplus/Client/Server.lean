import Overplus.Client.Session
import Overplus.Library.Run
import Overplus.Library.Table

/-!
# The client process (`Client/Server.cpp`)

`Server` with the sessions it has accepted, their relays, and the DTLS channel all relays share,
as one machine. Everything runs on one context, one handler at a time. An event is a new
connection, the completion of an operation of a session, a datagram that arrives at a relay or
is handled by it, or the completion of an operation of the channel.

The machine starts as the command-line client does, with the channel started where UDP is
enabled and no session yet.
-/
namespace Overplus.Client

/-- The server and the sessions it has accepted, each at the index that is its number. -/
structure Process where
  /-- The server. -/
  server : Server := {}
  /-- Sessions accepted so far. -/
  sessions : List Session := []
  /-- Packets that relays have handed to the channel, each with the id of its relay. -/
  sentBy : List (UInt16 × Bytes) := []
  /-- Frames handed to relays, each with the id of its relay. -/
  handedTo : List (UInt16 × Bytes) := []
  /-- Arguments of the calls of the handshake callback. -/
  callbacks : List Bool := []

/-- What can happen next. -/
inductive Event where
  /-- A connection is accepted. -/
  | accept (world : World)
  /-- An operation of a session completes. -/
  | completed (number : Nat) (op : Op) (result : Result) (world : World)
  /-- A datagram arrives at the socket of a session's relay. -/
  | arrive (number : Nat) (sender : Endpoint) (data : Bytes)
  /-- A relay handles the datagram that has arrived. -/
  | handle (number : Nat) (answers : ChannelAnswers)
  /-- A relay's receive completes with an error. -/
  | receiveFailed (number : Nat)
  /-- An operation of the channel completes, with or without an error. -/
  | channel (op : ChannelOp) (failed : Bool) (answers : ChannelAnswers)

/-- A session handles one of its operations. -/
def Event.isCompletion : Event → Bool
  | .completed _ _ _ _ => true
  | _ => false

namespace Process

/-- End the process. -/
def crash (client : Process) : Process :=
  { client with server := { client.server with crashed := true } }

/-- The relay of a session that has one. -/
def relay? (client : Process) (number : Nat) : Option UdpRelay :=
  (client.sessions[number]?).bind (·.udpRelay)

/-- Change the relay of a session. -/
def setRelay (client : Process) (number : Nat) (relay : UdpRelay) : Process :=
  { client with sessions :=
      client.sessions.modify number (fun session => { session with udpRelay := some relay }) }

/-- Change the channel. -/
def setDtls (client : Process) (channel : DtlsChannel) : Process :=
  { client with server := { client.server with dtls := some channel } }

/-- Packets of a relay are handed to the channel. -/
def sendAll (client : Process) (answers : ChannelAnswers) (sid : UInt16) (packets : List Bytes) :
    Process :=
  match client.server.dtls with
  | some channel =>
    { client.setDtls (channel.sendAll answers packets) with
      sentBy := client.sentBy ++ packets.map fun packet => (sid, packet) }
  | none => client

/-- The channel carries records. -/
def ready (client : Process) : Bool := client.server.dtls.any (·.isReady)

/-- Put a session and its server back. -/
def putScope (client : Process) (number : Nat) (scope : Scope) : Process :=
  { client with server := scope.server, sessions := client.sessions.set number scope.session }

/-- The server once the next session is counted. -/
def counted (client : Process) : Server := client.server.sessionCreated client.sessions.length

/-- The handler of an accepted connection in `do_accept_tls` or `do_accept_ws`. -/
def accept (client : Process) (config : ClientConfig) (world : World) : Process :=
  let session : Session :=
    { number := client.sessions.length
      kind := if config.useWebSocket then .websocket else .tls
      remoteHost := config.remoteAddr
      remotePort := config.remotePort
      userName := config.userName
      password := config.password }
  let scope := Scope.start ⟨client.server, session⟩ world
  { client with
    server := scope.server.sessionCreated client.sessions.length
    sessions := client.sessions ++ [scope.session] }

/-- `on_dtls_data`. An entry whose relay is gone is a stray pointer. -/
def onDtlsData (client : Process) (data : Bytes) : Process :=
  if data.length < 2 then client
  else match client.server.findRelay (ofBe16 (data.getD 0 0) (data.getD 1 0)) with
  | none => client
  | some number =>
    match client.relay? number with
    | none => client.crash
    | some relay =>
      match relay.onDtlsData (data.drop 2) with
      | .error _ => client.crash
      | .ok changed =>
        { client.setRelay number changed with
          handedTo := client.handedTo ++ [(relay.sessionId, data.drop 2)] }

/-- `flush_pending` of the relay behind an entry. -/
def flush (client : Process) (answers : ChannelAnswers) (number : Nat) : Process :=
  match client.relay? number with
  | none => client.crash
  | some relay =>
    let flushed := relay.flushPending client.ready
    (client.setRelay number flushed.1).sendAll answers relay.sessionId flushed.2

/-- The handshake callback of `start_dtls`. -/
def onHandshake (client : Process) (answers : ChannelAnswers) (ok : Bool) : Process :=
  let client := { client with callbacks := client.callbacks ++ [ok] }
  if ok then
    let client := { client with server := { client.server with dtlsReady := true } }
    client.server.relays.foldl (fun client entry => client.flush answers entry.2) client
  else client

/-- `do_handshake` and its callback. -/
def doHandshake (client : Process) (channel : DtlsChannel) (answers : ChannelAnswers) : Process :=
  let attempted := channel.doHandshake answers
  let client := client.setDtls attempted.1
  match attempted.2 with
  | some ok => client.onHandshake answers ok
  | none => client

/-- The receive handler of the channel and its callback. -/
def onReceive (client : Process) (channel : DtlsChannel) (answers : ChannelAnswers) : Process :=
  let received := channel.onReceive answers
  let client := client.setDtls received.1
  match received.2 with
  | some record => client.onDtlsData record
  | none => client

/-- Run the handler of a completed operation of the channel. -/
def onChannel (client : Process) (channel : DtlsChannel) (op : ChannelOp) (failed : Bool)
    (answers : ChannelAnswers) : Process :=
  match op with
  | .attempt => client.doHandshake channel answers
  | .timeout | .retry =>
    if failed then client.setDtls channel else client.doHandshake channel answers
  | .receive => if failed then client.setDtls channel else client.onReceive channel answers

/-- A relay handles the datagram that has arrived. -/
def onDatagram (client : Process) (number : Nat) (relay : UdpRelay) (data : Bytes)
    (answers : ChannelAnswers) : Process :=
  let handled := relay.onReceiveLocal data client.ready
  (client.setRelay number handled.1).sendAll answers relay.sessionId handled.2.toList

/-- The machine before the first event: `start_dtls` has run. -/
def start (config : ClientConfig) (ssl : Bool) : Process where
  server :=
    { dtls :=
        if config.udpEnabled then
          some (DtlsChannel.start { ssl := ssl, password := config.textPassword })
        else none }

/-- One event, where it can happen. -/
def stepEvent (config : ClientConfig) (client : Process) : Event → Option Process
  | .accept world => some (client.accept config world)
  | .completed number op result world =>
    match client.sessions[number]? with
    | some session =>
      if op ∈ session.pending ∧ op.admits result then
        let scope : Scope := ⟨client.server, session⟩
        some (client.putScope number ((scope.complete op).handle config world op result))
      else none
    | none => none
  | .arrive number sender data =>
    match client.relay? number with
    | some relay =>
      if relay.receive = .waiting ∧ data.length ≤ 65535 then
        some (client.setRelay number (relay.arrive sender data))
      else none
    | none => none
  | .handle number answers =>
    match client.relay? number with
    | some relay =>
      match relay.receive with
      | .arrived data => some (client.onDatagram number relay data answers)
      | _ => none
    | none => none
  | .receiveFailed number =>
    match client.relay? number with
    | some relay =>
      if relay.receive = .waiting then some (client.setRelay number relay.onReceiveFailed)
      else none
    | none => none
  | .channel op failed answers =>
    match client.server.dtls with
    | some channel =>
      if op ∈ channel.pending then
        some (client.onChannel (channel.complete op) op failed answers)
      else none
    | none => none

/-- One event of a process that has not ended. -/
def step (config : ClientConfig) (client : Process) (event : Event) : Option Process :=
  if client.server.crashed then none else client.stepEvent config event

variable {config : ClientConfig} {client next : Process} {event : Event} {number : Nat}
  {relay : UdpRelay} {channel : DtlsChannel}

/-- A session with only the id of its relay. -/
def outline (session : Session) : Session :=
  { session with udpRelay := session.udpRelay.map fun relay => { sessionId := relay.sessionId } }

/-- Work of the relays and of the channel: the sessions change in the state of their relays
only, and the table of relays and the next id are left alone. -/
structure Frame (before after : Process) : Prop where
  /-- Sessions agree apart from the state of their relays. -/
  sessions : after.sessions.map outline = before.sessions.map outline
  /-- The table is the same. -/
  relays : after.server.relays = before.server.relays
  /-- The next id is the same. -/
  nextSessionId : after.server.nextSessionId = before.server.nextSessionId
  /-- No id was allocated. -/
  allocated : after.server.allocated = before.server.allocated
  /-- No session was counted. -/
  stats : after.server.stats = before.server.stats

/-- Doing nothing. -/
theorem Frame.refl (client : Process) : Frame client client := ⟨rfl, rfl, rfl, rfl, rfl⟩

/-- One piece of work after another. -/
theorem Frame.trans {first second third : Process} (earlier : Frame first second)
    (later : Frame second third) : Frame first third where
  sessions := later.sessions.trans earlier.sessions
  relays := later.relays.trans earlier.relays
  nextSessionId := later.nextSessionId.trans earlier.nextSessionId
  allocated := later.allocated.trans earlier.allocated
  stats := later.stats.trans earlier.stats

/-- Sessions with the same outline differ in the state of their relays only. -/
theorem eq_of_outline {one other : Session} (same : outline one = outline other) :
    one = { other with udpRelay := one.udpRelay } := by
  have bare := congrArg (fun session : Session => { session with udpRelay := one.udpRelay }) same
  exact bare

/-- A property that does not look at the relay is kept for every session. -/
theorem Frame.forall {property : Session → Prop} (frame : Frame client next)
    (blind : ∀ session relay, property session → property { session with udpRelay := relay })
    (holds : ∀ session ∈ client.sessions, property session) :
    ∀ session ∈ next.sessions, property session := by
  intro session member
  have outlined : outline session ∈ client.sessions.map outline := by
    rw [← frame.sessions]
    exact List.mem_map_of_mem member
  obtain ⟨old, among, same⟩ := List.mem_map.mp outlined
  rw [eq_of_outline same.symm]
  exact blind _ _ (holds old among)

/-- Sessions stay where they are. -/
theorem Frame.back {index : Nat} {session : Session} (frame : Frame client next)
    (found : next.sessions[index]? = some session) :
    ∃ old, client.sessions[index]? = some old ∧ outline session = outline old := by
  have same : (next.sessions[index]?).map outline = (client.sessions[index]?).map outline := by
    rw [← List.getElem?_map, frame.sessions, List.getElem?_map]
  rw [found] at same
  obtain ⟨old, isOld, equal⟩ := Option.map_eq_some_iff.mp same.symm
  exact ⟨old, isOld, equal.symm⟩

/-- No session is lost. -/
theorem Frame.forth {index : Nat} {old : Session} (frame : Frame client next)
    (found : client.sessions[index]? = some old) :
    ∃ session, next.sessions[index]? = some session ∧ outline session = outline old := by
  have same : (next.sessions[index]?).map outline = (client.sessions[index]?).map outline := by
    rw [← List.getElem?_map, frame.sessions, List.getElem?_map]
  rw [found] at same
  exact Option.map_eq_some_iff.mp same

/-- Changing the relay of a session that has one, but not the relay's id. -/
theorem Frame.setRelay {changed : UdpRelay} (present : client.relay? number = some relay)
    (same : changed.sessionId = relay.sessionId) :
    Frame client (client.setRelay number changed) := by
  refine ⟨?_, rfl, rfl, rfl, rfl⟩
  refine List.ext_getElem? fun index => ?_
  simp only [Process.setRelay, List.getElem?_map, List.getElem?_modify]
  by_cases other : number = index
  · subst other
    unfold relay? at present
    cases found : client.sessions[number]? with
    | none => simp
    | some session =>
      rw [found] at present
      have owned : session.udpRelay = some relay := present
      simp [outline, owned, same]
  · simp [other]

/-- Changing the relay of a session that has one. -/
theorem relay?_setRelay {changed : UdpRelay} (present : client.relay? number = some relay)
    (index : Nat) : (client.setRelay number changed).relay? index =
      if index = number then some changed else client.relay? index := by
  unfold relay? setRelay
  simp only [List.getElem?_modify]
  by_cases same : index = number
  · subst same
    unfold relay? at present
    cases found : client.sessions[index]? with
    | none =>
      rw [found] at present
      cases present
    | some session => simp
  · simp [same, Ne.symm same]

/-- The sessions found behind a session put back. -/
theorem getElem?_putScope {session : Session} (found : client.sessions[number]? = some session)
    (scope : Scope) (index : Nat) : (client.putScope number scope).sessions[index]? =
      if index = number then some scope.session else client.sessions[index]? := by
  have inside : number < client.sessions.length := (List.getElem?_eq_some_iff.mp found).1
  by_cases same : index = number
  · rw [same, if_pos rfl]
    exact List.getElem?_set_self inside
  · rw [if_neg same]
    exact List.getElem?_set_ne (Ne.symm same)

/-- Putting a session back. -/
theorem relay?_putScope {session : Session} (found : client.sessions[number]? = some session)
    (scope : Scope) (index : Nat) : (client.putScope number scope).relay? index =
      if index = number then scope.session.udpRelay else client.relay? index := by
  unfold relay?
  rw [getElem?_putScope found]
  split <;> rfl

/-- A new session has no relay. -/
theorem relay?_accept (world : World) (index : Nat) :
    (client.accept config world).relay? index = client.relay? index := by
  have bare (session : Session) : (Scope.start ⟨client.server, session⟩ world).session.udpRelay =
      session.udpRelay := by
    unfold Scope.start
    split <;> rfl
  unfold relay? accept
  rcases Nat.lt_trichotomy index client.sessions.length with before | here | beyond
  · rw [List.getElem?_append_left before]
  · rw [here, List.getElem?_concat_length, List.getElem?_eq_none (Nat.le_refl _)]
    exact bare _
  · rw [List.getElem?_eq_none (by simp; omega), List.getElem?_eq_none (by omega)]

/-- Handing packets to the channel. -/
theorem sendAll_some (present : client.server.dtls = some channel) (answers : ChannelAnswers)
    (sid : UInt16) (packets : List Bytes) : client.sendAll answers sid packets =
      { client.setDtls (channel.sendAll answers packets) with
        sentBy := client.sentBy ++ packets.map fun packet => (sid, packet) } := by
  unfold sendAll
  rw [present]

/-- Handing no packet to the channel. -/
theorem sendAll_nil (answers : ChannelAnswers) (sid : UInt16) :
    client.sendAll answers sid [] = client := by
  unfold sendAll
  split
  · rename_i channel present
    have same : some (channel.sendAll answers []) = client.server.dtls := present.symm
    simp [setDtls, same]
  · rfl

@[simp]
theorem relay?_sendAll (answers : ChannelAnswers) (sid : UInt16) (packets : List Bytes)
    (index : Nat) : (client.sendAll answers sid packets).relay? index = client.relay? index := by
  unfold sendAll
  split <;> rfl

/-- Changing the channel. -/
theorem Frame.setDtls : Frame client (client.setDtls channel) := ⟨rfl, rfl, rfl, rfl, rfl⟩

/-- Ending the process. -/
theorem Frame.crash : Frame client client.crash := ⟨rfl, rfl, rfl, rfl, rfl⟩

/-- Handing packets to the channel. -/
theorem Frame.sendAll (answers : ChannelAnswers) (sid : UInt16) (packets : List Bytes) :
    Frame client (client.sendAll answers sid packets) := by
  unfold Process.sendAll
  split
  · exact ⟨rfl, rfl, rfl, rfl, rfl⟩
  · exact .refl _

/-- Handing a record to a relay. -/
theorem Frame.onDtlsData (data : Bytes) : Frame client (client.onDtlsData data) := by
  unfold Process.onDtlsData
  split
  · exact .refl _
  · split
    · exact .refl _
    · split
      · exact .crash
      · rename_i present
        split
        · exact .crash
        · rename_i changed handled
          have same := UdpRelay.onDtlsData_sessionId handled
          exact ⟨(Frame.setRelay present same).sessions, rfl, rfl, rfl, rfl⟩

/-- Flushing a relay. -/
theorem Frame.flush (answers : ChannelAnswers) (number : Nat) :
    Frame client (client.flush answers number) := by
  unfold Process.flush
  split
  · exact .crash
  · rename_i present
    exact (Frame.setRelay present UdpRelay.flushPending_sessionId).trans (.sendAll _ _ _)

/-- Flushing several relays. -/
theorem Frame.flushAll (answers : ChannelAnswers) (entries : List (UInt16 × Nat)) :
    Frame client (entries.foldl (fun client entry => client.flush answers entry.2) client) := by
  induction entries generalizing client with
  | nil => exact .refl _
  | cons entry rest ih => exact (Frame.flush answers entry.2).trans ih

/-- The callback of the handshake. -/
theorem Frame.onHandshake (answers : ChannelAnswers) (ok : Bool) :
    Frame client (client.onHandshake answers ok) := by
  unfold Process.onHandshake
  dsimp only
  split
  · have ready : Frame client { client with
        callbacks := client.callbacks ++ [ok]
        server := { client.server with dtlsReady := true } } := ⟨rfl, rfl, rfl, rfl, rfl⟩
    exact ready.trans (.flushAll _ _)
  · exact ⟨rfl, rfl, rfl, rfl, rfl⟩

/-- An attempt of the handshake. -/
theorem Frame.doHandshake (answers : ChannelAnswers) :
    Frame client (client.doHandshake channel answers) := by
  unfold Process.doHandshake
  dsimp only
  split
  · exact Frame.setDtls.trans (.onHandshake _ _)
  · exact .setDtls

/-- A datagram of the remote server. -/
theorem Frame.onReceive (answers : ChannelAnswers) :
    Frame client (client.onReceive channel answers) := by
  unfold Process.onReceive
  dsimp only
  split
  · exact Frame.setDtls.trans (.onDtlsData _)
  · exact .setDtls

/-- An operation of the channel. -/
theorem Frame.onChannel (op : ChannelOp) (failed : Bool) (answers : ChannelAnswers) :
    Frame client (client.onChannel channel op failed answers) := by
  unfold Process.onChannel
  split
  · exact .doHandshake _
  · split
    · exact .setDtls
    · exact .doHandshake _
  · split
    · exact .setDtls
    · exact .doHandshake _
  · split
    · exact .setDtls
    · exact .onReceive _

/-- What an event of a relay or of the channel can do. -/
inductive Work (client : Process) : Event → Process → Prop
  /-- A datagram arrives at a relay. -/
  | arrive {number : Nat} {relay : UdpRelay} (present : client.relay? number = some relay)
    (sender : Endpoint) (data : Bytes) :
    Work client (.arrive number sender data) (client.setRelay number (relay.arrive sender data))
  /-- A relay handles the datagram that has arrived. -/
  | handle {number : Nat} {relay : UdpRelay} (present : client.relay? number = some relay)
    (data : Bytes) (answers : ChannelAnswers) :
    Work client (.handle number answers) (client.onDatagram number relay data answers)
  /-- A relay's receive has failed. -/
  | failed {number : Nat} {relay : UdpRelay} (present : client.relay? number = some relay) :
    Work client (.receiveFailed number) (client.setRelay number relay.onReceiveFailed)
  /-- An operation of the channel completes. -/
  | channel {channel : DtlsChannel} (present : client.server.dtls = some channel) (op : ChannelOp)
    (failed : Bool) (answers : ChannelAnswers) :
    Work client (.channel op failed answers)
      (client.onChannel (channel.complete op) op failed answers)

/-- Work is not the completion of an operation of a session. -/
theorem Work.other (work : Work client event next) : event.isCompletion = false := by
  cases work <;> rfl

/-- Work of the relays and of the channel leaves the rest alone. -/
theorem Work.frame (work : Work client event next) : Frame client next := by
  cases work with
  | arrive present sender data => exact .setRelay present rfl
  | handle present data answers =>
    exact (Frame.setRelay present UdpRelay.onReceiveLocal_sessionId).trans (.sendAll _ _ _)
  | failed present => exact .setRelay present UdpRelay.onReceiveFailed_sessionId
  | channel present op failed answers => exact .onChannel _ _ _

/-- **What an event can do.** A connection is accepted, a session handles one of its operations,
or a relay or the channel works. -/
theorem step_work (stepped : client.step config event = some next) :
    (∃ world, event = .accept world ∧ next = client.accept config world) ∨
    (∃ number op result world session, event = .completed number op result world ∧
      client.sessions[number]? = some session ∧ op ∈ session.pending ∧ op.admits result = true ∧
      next = client.putScope number
        ((Scope.complete ⟨client.server, session⟩ op).handle config world op result)) ∨
    Work client event next := by
  unfold Process.step at stepped
  split at stepped
  · cases stepped
  cases event with
  | accept world => exact .inl ⟨world, rfl, (Option.some.inj stepped).symm⟩
  | completed number op result world =>
    simp only [stepEvent] at stepped
    split at stepped
    · rename_i session found
      split at stepped
      · rename_i enabled
        exact .inr (.inl ⟨number, op, result, world, session, rfl, found, enabled.1, enabled.2,
          (Option.some.inj stepped).symm⟩)
      · cases stepped
    · cases stepped
  | arrive number sender data =>
    simp only [stepEvent] at stepped
    split at stepped
    · rename_i present
      split at stepped
      · obtain rfl := Option.some.inj stepped
        exact .inr (.inr (.arrive present sender data))
      · cases stepped
    · cases stepped
  | handle number answers =>
    simp only [stepEvent] at stepped
    split at stepped
    · rename_i present
      split at stepped
      · obtain rfl := Option.some.inj stepped
        exact .inr (.inr (.handle present _ answers))
      · cases stepped
    · cases stepped
  | receiveFailed number =>
    simp only [stepEvent] at stepped
    split at stepped
    · rename_i present
      split at stepped
      · obtain rfl := Option.some.inj stepped
        exact .inr (.inr (.failed present))
      · cases stepped
    · cases stepped
  | channel op failed answers =>
    simp only [stepEvent] at stepped
    split at stepped
    · rename_i present
      split at stepped
      · obtain rfl := Option.some.inj stepped
        exact .inr (.inr (.channel present op failed answers))
      · cases stepped
    · cases stepped

/-- What an event can do, seen from the sessions and the table of relays. -/
theorem step_cases (stepped : client.step config event = some next) :
    (∃ world, event = .accept world ∧ next = client.accept config world) ∨
    (∃ number op result world session, event = .completed number op result world ∧
      client.sessions[number]? = some session ∧ op ∈ session.pending ∧ op.admits result = true ∧
      next = client.putScope number
        ((Scope.complete ⟨client.server, session⟩ op).handle config world op result)) ∨
    (event.isCompletion = false ∧ Frame client next) := by
  rcases step_work stepped with accepted | completed | work
  · exact .inl accepted
  · exact .inr (.inl completed)
  · exact .inr (.inr ⟨work.other, work.frame⟩)

section Logs

/-- Packets are only added, and no frame is handed to a relay. -/
structure Logs (before after : Process) : Prop where
  /-- Packets of relays stay recorded. -/
  sentBy : before.sentBy <+: after.sentBy
  /-- No frame was handed to a relay. -/
  handedTo : after.handedTo = before.handedTo

/-- Doing nothing. -/
theorem Logs.refl (client : Process) : Logs client client := ⟨List.prefix_refl _, rfl⟩

/-- One piece of work after another. -/
theorem Logs.trans {first second third : Process} (earlier : Logs first second)
    (later : Logs second third) : Logs first third :=
  ⟨earlier.sentBy.trans later.sentBy, later.handedTo.trans earlier.handedTo⟩

/-- Handing packets to the channel. -/
theorem Logs.sendAll (answers : ChannelAnswers) (sid : UInt16) (packets : List Bytes) :
    Logs client (client.sendAll answers sid packets) := by
  unfold Process.sendAll
  split
  · exact ⟨List.prefix_append _ _, rfl⟩
  · exact .refl _

/-- Flushing several relays. -/
theorem Logs.flushAll (answers : ChannelAnswers) (entries : List (UInt16 × Nat)) :
    Logs client (entries.foldl (fun client entry => client.flush answers entry.2) client) := by
  induction entries generalizing client with
  | nil => exact .refl _
  | cons entry rest ih =>
    have first : Logs client (client.flush answers entry.2) := by
      unfold Process.flush
      split
      · exact ⟨List.prefix_refl _, rfl⟩
      · rename_i relay _
        have set : Logs client (client.setRelay entry.2 (relay.flushPending client.ready).1) :=
          ⟨List.prefix_refl _, rfl⟩
        exact set.trans (.sendAll _ _ _)
    exact first.trans ih

/-- An attempt of the handshake. -/
theorem Logs.doHandshake (answers : ChannelAnswers) :
    Logs client (client.doHandshake channel answers) := by
  unfold Process.doHandshake onHandshake
  dsimp only
  split
  · split
    · refine Logs.trans ?_ (.flushAll _ _)
      exact ⟨List.prefix_refl _, rfl⟩
    · exact ⟨List.prefix_refl _, rfl⟩
  · exact ⟨List.prefix_refl _, rfl⟩

/-- A frame is handed to the relay that the table has under the record's id. -/
def Hands (client : Process) (record : Bytes) (next : Process) : Prop :=
  ∃ number relay, client.server.findRelay (ofBe16 (record.getD 0 0) (record.getD 1 0)) =
      some number ∧ client.relay? number = some relay ∧
    next.handedTo = client.handedTo ++ [(relay.sessionId, record.drop 2)]

/-- A record of the server is handed to at most one relay. -/
theorem onDtlsData_hands (record : Bytes) :
    (client.onDtlsData record).sentBy = client.sentBy ∧
      ((client.onDtlsData record).handedTo = client.handedTo ∨
        Hands client record (client.onDtlsData record)) := by
  unfold Process.onDtlsData
  split
  · exact ⟨rfl, .inl rfl⟩
  split
  · exact ⟨rfl, .inl rfl⟩
  rename_i number found
  split
  · exact ⟨rfl, .inl rfl⟩
  rename_i relay present
  split
  · exact ⟨rfl, .inl rfl⟩
  exact ⟨rfl, .inr ⟨number, relay, found, present, rfl⟩⟩

/-- What work does to the packets and to the frames handed over. -/
theorem Work.hands (work : Work client event next) : client.sentBy <+: next.sentBy ∧
    (next.handedTo = client.handedTo ∨ ∃ op failed answers record,
      event = .channel op failed answers ∧ answers.read = some record ∧
        Hands client record next) := by
  have plain {after : Process} (logs : Logs client after) : client.sentBy <+: after.sentBy ∧
      (after.handedTo = client.handedTo ∨ ∃ op failed answers record,
        event = .channel op failed answers ∧ answers.read = some record ∧
          Hands client record after) := ⟨logs.sentBy, .inl logs.handedTo⟩
  cases work with
  | arrive present sender data => exact plain ⟨List.prefix_refl _, rfl⟩
  | handle present data answers =>
    refine plain (Logs.trans ?_ (.sendAll _ _ _))
    exact ⟨List.prefix_refl _, rfl⟩
  | failed present => exact plain ⟨List.prefix_refl _, rfl⟩
  | @channel active present op failed answers =>
    unfold Process.onChannel
    split
    · exact plain (.doHandshake _)
    · split
      · exact plain ⟨List.prefix_refl _, rfl⟩
      · exact plain (.doHandshake _)
    · split
      · exact plain ⟨List.prefix_refl _, rfl⟩
      · exact plain (.doHandshake _)
    · split
      · exact plain ⟨List.prefix_refl _, rfl⟩
      · unfold Process.onReceive
        dsimp only
        split
        · rename_i record read
          obtain ⟨sentBy, handed⟩ := @onDtlsData_hands (client.setDtls
            ((active.complete .receive).onReceive answers).1) record
          refine ⟨by rw [sentBy]; exact List.prefix_refl _, ?_⟩
          have isRead : answers.read = some record := by
            unfold DtlsChannel.onReceive at read
            split at read
            · split at read
              · exact read
              · cases read
            · cases read
          rcases handed with same | hands
          · exact .inl same
          · exact .inr ⟨_, _, _, record, rfl, isRead, hands⟩
        · exact ⟨List.prefix_refl _, .inl rfl⟩

/-- What an event does to the packets and to the frames handed over. -/
theorem step_hands (stepped : client.step config event = some next) :
    client.sentBy <+: next.sentBy ∧
      (next.handedTo = client.handedTo ∨ ∃ op failed answers record,
        event = .channel op failed answers ∧ answers.read = some record ∧
          Hands client record next) := by
  rcases step_work stepped with ⟨world, -, rfl⟩ | ⟨_, _, _, _, _, -, -, -, -, rfl⟩ | work
  · exact ⟨List.prefix_refl _, .inl rfl⟩
  · exact ⟨List.prefix_refl _, .inl rfl⟩
  · exact work.hands

end Logs

end Process

end Overplus.Client
