import Overplus.Verif.SessionIds

/-!
# Where the packets of the client come from

Every session of the client has the id of its association for good once it has one, and no two
sessions have the same id. What the relay of a session holds (the datagram it is to handle, the
sender, the applications that wait for replies, the queue) comes from datagrams that have arrived
at this relay, and so does every packet that is handed to the channel under the session's id.

The invariant follows what an event can do to one relay and to the packets, said once for all
events.
-/
namespace Overplus.Verif.DatagramSources

open Client SessionIds

variable {config : ClientConfig} {client middle next : Process} {event : Client.Event}
  {number : Nat} {relay old : UdpRelay} {channel : DtlsChannel} {answers : ChannelAnswers}
  {past : List Client.Event} {entry : UInt16 × Bytes}

/-- Id of the association of a session; zero where there was none. -/
def idAt (client : Process) (number : Nat) : UInt16 :=
  (client.sessions[number]?.map (·.sessionId)).getD 0

/-- Work of the relays leaves the ids alone. -/
theorem idAt_frame (frame : Process.Frame client next) : idAt next = idAt client := by
  funext index
  have same : (next.sessions[index]?).map Process.outline =
      (client.sessions[index]?).map Process.outline := by
    rw [← List.getElem?_map, frame.sessions, List.getElem?_map]
  have ids := congrArg (Option.map (·.sessionId)) same
  rw [Option.map_map, Option.map_map] at ids
  exact congrArg (·.getD 0) ids

/-- A new session has no id. -/
theorem idAt_accept (world : World) : idAt (client.accept config world) = idAt client := by
  have bare (session : Session) :
      (Scope.start ⟨client.server, session⟩ world).session.sessionId = session.sessionId := by
    unfold Scope.start
    split <;> rfl
  funext index
  unfold idAt Process.accept
  rcases Nat.lt_trichotomy index client.sessions.length with before | here | beyond
  · rw [List.getElem?_append_left before]
  · rw [here, List.getElem?_concat_length, List.getElem?_eq_none (Nat.le_refl _)]
    exact bare _
  · rw [List.getElem?_eq_none (by simp; omega), List.getElem?_eq_none (by omega)]

/-- A session put back. -/
theorem idAt_putScope {session : Session} (found : client.sessions[number]? = some session)
    (scope : Scope) : idAt (client.putScope number scope) =
      Function.update (idAt client) number scope.session.sessionId := by
  funext index
  rw [idAt, Process.getElem?_putScope found, Function.update_apply]
  split <;> rfl

/-- The relay of a session has the id of the session, which is not zero. -/
theorem idAt_relay (consistent : Consistent client)
    (present : client.relay? number = some relay) :
    idAt client number = relay.sessionId ∧ relay.sessionId ≠ 0 := by
  obtain ⟨session, found, owned⟩ := Option.bind_eq_some_iff.mp present
  have holds : relayId session = some relay.sessionId := by
    rw [relayId, owned]
    rfl
  obtain ⟨-, same, nonzero⟩ := (consistent.tidy session (List.mem_of_getElem? found)).held _ holds
  rw [idAt, found]
  exact ⟨same, nonzero⟩

/-- **What an event does to the ids**: nothing, or a session without an id gets the next one. -/
theorem step_ids (consistent : Consistent client)
    (stepped : client.step config event = some next) :
    idAt next = idAt client ∨ ∃ number, idAt client number = 0 ∧
      idAt next = Function.update (idAt client) number client.server.nextSessionId ∧
      next.server.allocated = client.server.allocated + 1 := by
  rcases Process.step_cases stepped with ⟨world, -, rfl⟩ |
    ⟨number, op, result, world, session, -, found, member, admitted, rfl⟩ | ⟨-, frame⟩
  · exact .inl (idAt_accept world)
  · have kept (scope : Scope) (same : scope.session.sessionId = session.sessionId) :
        idAt (client.putScope number scope) = idAt client := by
      have own : idAt client number = session.sessionId := by
        rw [idAt, found]
        rfl
      rw [idAt_putScope found, same, ← own, Function.update_eq_self]
    cases @Scope.handle_outcome config world (Scope.complete ⟨client.server, session⟩ op) op result
      admitted with
    | plain added same pending early busy => exact .inl (kept _ (congrArg Registry.sessionId same))
    | destroyed same pending =>
      refine .inl (kept _ ((congrArg Registry.sessionId same).trans ?_))
      unfold Registry.destroy
      split <;> rfl
    | registered request same pending =>
      subst request
      have tidy := consistent.tidy session (List.mem_of_getElem? found)
      obtain ⟨-, living, bare⟩ := tidy.early _ member rfl
      refine .inr ⟨number, ?_, ?_, congrArg Registry.allocated same⟩
      · rw [idAt, found]
        exact tidy.bare living bare
      · rw [idAt_putScope found]
        exact congrArg _ (congrArg Registry.sessionId same)
  · exact .inl (idAt_frame frame)

/-- A relay behind the work of the channel: it sends its queue or keeps it. -/
structure Carried (old relay : UdpRelay) : Prop where
  /-- The id is the same. -/
  sessionId : relay.sessionId = old.sessionId
  /-- No datagram has arrived. -/
  receive : ∀ data, relay.receive = .arrived data → old.receive = .arrived data
  /-- The sender is the same. -/
  senderEp : relay.senderEp = old.senderEp
  /-- The table is the same. -/
  table : relay.targetToSender = old.targetToSender
  /-- Nothing was queued. -/
  queue : relay.pendingFrames ⊆ old.pendingFrames
  /-- Nothing was sent to an application. -/
  trace : relay.trace = old.trace

/-- Doing nothing. -/
theorem Carried.refl (relay : UdpRelay) : Carried relay relay :=
  ⟨rfl, fun _ held => held, rfl, rfl, List.Subset.refl _, rfl⟩

/-- One piece of work after another. -/
theorem Carried.trans {first second third : UdpRelay} (earlier : Carried first second)
    (later : Carried second third) : Carried first third where
  sessionId := later.sessionId.trans earlier.sessionId
  receive data held := earlier.receive data (later.receive data held)
  senderEp := later.senderEp.trans earlier.senderEp
  table := later.table.trans earlier.table
  queue := List.Subset.trans later.queue earlier.queue
  trace := later.trace.trans earlier.trace

/-- A failed receive. -/
theorem Carried.onReceiveFailed (relay : UdpRelay) : Carried relay relay.onReceiveFailed := by
  unfold UdpRelay.onReceiveFailed UdpRelay.doReceiveLocal
  split <;> exact ⟨rfl, fun _ held => (by cases held), rfl, rfl, List.Subset.refl _, rfl⟩

/-- A flush. -/
theorem Carried.flushPending (relay : UdpRelay) (ready : Bool) :
    Carried relay (relay.flushPending ready).1 := by
  unfold UdpRelay.flushPending
  split
  · exact ⟨rfl, fun _ held => held, rfl, rfl, List.nil_subset _, rfl⟩
  · exact .refl relay

/-- Relays send what they have queued, and nothing else happens to them. -/
structure Moves (before after : Process) : Prop where
  /-- Relays are carried. -/
  relays : ∀ number relay, after.relay? number = some relay →
    ∃ old, before.relay? number = some old ∧ Carried old relay
  /-- Packets come from queues. -/
  sent : ∀ entry ∈ after.sentBy, entry ∈ before.sentBy ∨ ∃ number old frame,
    before.relay? number = some old ∧ frame ∈ old.pendingFrames ∧
      entry = (old.sessionId, be16 old.sessionId ++ frame)

/-- Relays and packets are the same. -/
theorem Moves.of_same (relays : ∀ number, next.relay? number = client.relay? number)
    (sent : next.sentBy = client.sentBy) : Moves client next where
  relays number relay present := ⟨relay, relays number ▸ present, .refl relay⟩
  sent _ member := .inl (sent ▸ member)

/-- One piece of work after another. -/
theorem Moves.trans (earlier : Moves client middle) (later : Moves middle next) :
    Moves client next where
  relays number relay present := by
    obtain ⟨between, there, carried⟩ := later.relays number relay present
    obtain ⟨old, isOld, before⟩ := earlier.relays number between there
    exact ⟨old, isOld, before.trans carried⟩
  sent entry member := by
    rcases later.sent entry member with known | ⟨number, between, frame, there, queued, rfl⟩
    · exact earlier.sent entry known
    · obtain ⟨old, isOld, carried⟩ := earlier.relays number between there
      refine .inr ⟨number, old, frame, isOld, carried.queue queued, ?_⟩
      rw [carried.sessionId]

/-- Packets handed to the channel are recorded. -/
theorem mem_sendAll {sid : UInt16} {packets : List Bytes}
    (member : entry ∈ (client.sendAll answers sid packets).sentBy) :
    entry ∈ client.sentBy ∨ ∃ packet ∈ packets, entry = (sid, packet) := by
  unfold Process.sendAll at member
  split at member
  · rcases List.mem_append.mp member with old | new
    · exact .inl old
    · obtain ⟨packet, among, rfl⟩ := List.mem_map.mp new
      exact .inr ⟨packet, among, rfl⟩
  · exact .inl member

/-- A relay is flushed. -/
theorem Moves.flush (answers : ChannelAnswers) (number : Nat) :
    Moves client (client.flush answers number) := by
  unfold Process.flush
  split
  · exact .of_same (fun _ => rfl) rfl
  · rename_i relay present
    refine ⟨?_, ?_⟩
    · intro index other found
      rw [Process.relay?_sendAll, Process.relay?_setRelay present] at found
      split at found
      · rename_i same
        obtain rfl := Option.some.inj found
        exact ⟨relay, same ▸ present, .flushPending relay _⟩
      · exact ⟨other, found, .refl other⟩
    · intro entry member
      rcases mem_sendAll member with old | ⟨packet, among, rfl⟩
      · exact .inl old
      · unfold UdpRelay.flushPending at among
        split at among
        · obtain ⟨frame, queued, rfl⟩ := List.mem_map.mp among
          exact .inr ⟨number, relay, frame, present, queued, rfl⟩
        · cases among

/-- Several relays are flushed. -/
theorem Moves.flushAll (answers : ChannelAnswers) (entries : List (UInt16 × Nat)) :
    Moves client (entries.foldl (fun client entry => client.flush answers entry.2) client) := by
  induction entries generalizing client with
  | nil => exact .of_same (fun _ => rfl) rfl
  | cons entry rest ih => exact (Moves.flush answers entry.2).trans ih

/-- An attempt of the handshake. -/
theorem Moves.doHandshake (answers : ChannelAnswers) :
    Moves client (client.doHandshake channel answers) := by
  unfold Process.doHandshake Process.onHandshake
  dsimp only
  split
  · split
    · refine Moves.trans ?_ (.flushAll _ _)
      exact .of_same (fun _ => rfl) rfl
    · exact .of_same (fun _ => rfl) rfl
  · exact .of_same (fun _ => rfl) rfl

/-- What an event does to a relay that was there before. -/
inductive Change (client : Process) (event : Client.Event) (next : Process) (number : Nat)
    (old : UdpRelay) : UdpRelay → Prop
  /-- The channel has worked, or nothing has happened. -/
  | carried {relay : UdpRelay} (same : Carried old relay) :
    Change client event next number old relay
  /-- A datagram has arrived. -/
  | arrived (sender : Endpoint) (data : Bytes) (small : data.length ≤ 65535)
    (own : event = .arrive number sender data) :
    Change client event next number old (old.arrive sender data)
  /-- The datagram that had arrived was handled. -/
  | handled (data : Bytes) (held : old.receive = .arrived data) :
    Change client event next number old (old.onReceiveLocal data client.ready).1
  /-- A reply was sent to an application. -/
  | delivered (bytes : Bytes) (parsed : UdpFrame.Parsed)
    (handed : (old.sessionId, bytes) ∈ next.handedTo)
    (decoded : UdpFrame.parseFresh bytes = .ok parsed) (accepted : parsed.accepted = true) :
    Change client event next number old (old.deliver parsed.frame)

/-- A packet that an event hands to the channel: a frame of a relay's queue, or that of the
datagram it handles. -/
def Fresh (client : Process) (entry : UInt16 × Bytes) : Prop :=
  ∃ number old frame, client.relay? number = some old ∧
    entry = (old.sessionId, be16 old.sessionId ++ frame) ∧
    (frame ∈ old.pendingFrames ∨ ∃ data request, old.receive = .arrived data ∧
      UdpRequest.parse data = some request ∧ frame = UdpRelay.frameOf request)

/-- What an event does to the relays that were there before, and to the packets. -/
structure Effects (client : Process) (event : Client.Event) (next : Process) : Prop where
  /-- A relay is a changed one, or the new relay of a session without an id. -/
  relays : ∀ number relay, next.relay? number = some relay →
    (∃ old, client.relay? number = some old ∧ Change client event next number old relay) ∨
      (idAt client number = 0 ∧ ∃ sid, relay = UdpRelay.start sid)
  /-- New packets come from relays. -/
  sent : ∀ entry ∈ next.sentBy, entry ∈ client.sentBy ∨ Fresh client entry

/-- Work of the channel. -/
theorem Moves.effects (moves : Moves client next) : Effects client event next where
  relays number relay present := by
    obtain ⟨old, isOld, carried⟩ := moves.relays number relay present
    exact .inl ⟨old, isOld, .carried carried⟩
  sent entry member := by
    rcases moves.sent entry member with old | ⟨number, relay, frame, present, queued, same⟩
    · exact .inl old
    · exact .inr ⟨number, relay, frame, present, same, .inl queued⟩

/-- One relay changes, and nothing is sent. -/
theorem Effects.setRelay (changed : UdpRelay) (present : client.relay? number = some relay)
    (relays : ∀ index, next.relay? index = (client.setRelay number changed).relay? index)
    (sent : next.sentBy = client.sentBy) (change : Change client event next number relay changed) :
    Effects client event next where
  relays index other found := by
    rw [relays, Process.relay?_setRelay present] at found
    left
    split at found
    · rename_i same
      obtain rfl := Option.some.inj found
      subst same
      exact ⟨relay, present, change⟩
    · exact ⟨other, found, .carried (.refl other)⟩
  sent entry member := .inl (sent ▸ member)

/-- A record of the server, behind other work of the channel. -/
theorem Effects.onDtlsData (record : Bytes)
    (before : ∀ number, middle.relay? number = client.relay? number)
    (sent : middle.sentBy = client.sentBy) :
    Effects client event (middle.onDtlsData record) := by
  have same {after : Process} (relays : ∀ number, after.relay? number = middle.relay? number)
      (kept : after.sentBy = middle.sentBy) : Effects client event after :=
    (Moves.of_same (fun number => (relays number).trans (before number))
      (kept.trans sent)).effects
  unfold Process.onDtlsData
  split
  · exact same (fun _ => rfl) rfl
  split
  · exact same (fun _ => rfl) rfl
  split
  · exact same (fun _ => rfl) rfl
  rename_i number _ _ relay present
  split
  · exact same (fun _ => rfl) rfl
  rename_i changed handled
  have there : client.relay? number = some relay := (before number).symm.trans present
  refine Effects.setRelay changed there (fun index => ?_) sent ?_
  · refine Eq.trans ?_ (Process.relay?_setRelay there index).symm
    rw [← before index]
    exact Process.relay?_setRelay present index
  · rcases UdpRelay.onDtlsData_cases handled with rfl | ⟨parsed, -, decoded, accepted, rfl⟩
    · exact .carried (.refl _)
    · refine .delivered (record.drop 2) parsed ?_ decoded accepted
      exact List.mem_append_right _ (List.mem_singleton_self _)

/-- The datagram that has arrived is handled. -/
theorem Effects.onDatagram {data : Bytes} (present : client.relay? number = some relay)
    (held : relay.receive = .arrived data) :
    Effects client event (client.onDatagram number relay data answers) where
  relays index other found := by
    unfold Process.onDatagram at found
    rw [Process.relay?_sendAll, Process.relay?_setRelay present] at found
    left
    split at found
    · rename_i same
      obtain rfl := Option.some.inj found
      subst same
      exact ⟨relay, present, .handled data held⟩
    · exact ⟨other, found, .carried (.refl other)⟩
  sent entry member := by
    rcases mem_sendAll member with old | ⟨packet, among, rfl⟩
    · exact .inl old
    · right
      rcases UdpRelay.onReceiveLocal_cases relay data client.ready with
        ⟨receive, same⟩ | ⟨request, -, read, same⟩
      · rw [same] at among
        cases among
      · rw [same] at among
        refine ⟨number, relay, UdpRelay.frameOf request, present, ?_,
          .inr ⟨data, request, held, read, rfl⟩⟩
        unfold UdpRelay.forward at among
        dsimp only at among
        split at among
        · rw [List.mem_singleton.mp among]
          rfl
        · cases among

/-- A session changes, and its relay stays, goes, or is new. -/
theorem Effects.putScope {session : Session} {scope : Scope}
    (found : client.sessions[number]? = some session)
    (owned : ∀ relay, scope.session.udpRelay = some relay → session.udpRelay = some relay ∨
      (session.sessionId = 0 ∧ ∃ sid, relay = UdpRelay.start sid)) :
    Effects client event (client.putScope number scope) where
  relays index other there := by
    rw [Process.relay?_putScope found] at there
    split at there
    · rename_i same
      subst same
      rcases owned other there with old | ⟨zero, new⟩
      · refine .inl ⟨other, ?_, .carried (.refl other)⟩
        rw [Process.relay?, found]
        exact old
      · refine .inr ⟨?_, new⟩
        rw [idAt, found]
        exact zero
    · exact .inl ⟨other, there, .carried (.refl other)⟩
  sent _ member := .inl member

/-- A datagram arrives at a relay that is there. -/
theorem step_arrive {sender : Endpoint} {data : Bytes}
    (stepped : client.step config (.arrive number sender data) = some next) :
    ∃ relay, client.relay? number = some relay ∧ data.length ≤ 65535 := by
  unfold Process.step Process.stepEvent at stepped
  split at stepped
  · cases stepped
  dsimp only at stepped
  split at stepped
  · rename_i relay present
    split at stepped
    · rename_i enabled
      exact ⟨relay, present, enabled.2⟩
    · cases stepped
  · cases stepped

/-- What is handled has arrived. -/
theorem step_handle (stepped : client.step config (.handle number answers) = some next) :
    ∃ relay data, client.relay? number = some relay ∧ relay.receive = .arrived data ∧
      next = client.onDatagram number relay data answers := by
  unfold Process.step Process.stepEvent at stepped
  split at stepped
  · cases stepped
  dsimp only at stepped
  split at stepped
  · rename_i relay present
    split at stepped
    · rename_i data held
      exact ⟨relay, data, present, held, (Option.some.inj stepped).symm⟩
    · cases stepped
  · cases stepped

/-- The channel works. -/
theorem Effects.onChannel (op : ChannelOp) (failed : Bool) :
    Effects client event (client.onChannel channel op failed answers) := by
  have quiet (other : DtlsChannel) : Effects client event (client.setDtls other) :=
    Moves.effects (Moves.of_same (fun _ => rfl) rfl)
  have attempt : Effects client event (client.doHandshake channel answers) :=
    (Moves.doHandshake answers).effects
  unfold Process.onChannel
  split
  · exact attempt
  · split
    · exact quiet channel
    · exact attempt
  · split
    · exact quiet channel
    · exact attempt
  · split
    · exact quiet channel
    · unfold Process.onReceive
      dsimp only
      split
      · exact .onDtlsData _ (fun _ => rfl) rfl
      · exact quiet _

/-- **What an event does to relays and packets.** -/
theorem step_effects (consistent : Consistent client)
    (stepped : client.step config event = some next) : Effects client event next := by
  rcases Process.step_work stepped with ⟨world, -, rfl⟩ |
    ⟨number, op, result, world, session, -, found, member, admitted, rfl⟩ | work
  · exact (Moves.of_same (Process.relay?_accept world) rfl).effects
  · refine Effects.putScope found ?_
    cases @Scope.handle_outcome config world (Scope.complete ⟨client.server, session⟩ op) op result
      admitted with
    | plain added same pending early busy =>
      intro relay owned
      exact .inl ((congrArg Registry.relay same).symm.trans owned)
    | destroyed same pending =>
      intro relay owned
      have relays := congrArg Registry.relay same
      rcases (Registry.destroy_keeps _).2.2.2.2 with kept | gone
      · exact .inl ((relays.trans kept).symm.trans owned)
      · cases (relays.trans gone).symm.trans owned
    | registered request same pending =>
      intro relay owned
      subst request
      have tidy := consistent.tidy session (List.mem_of_getElem? found)
      obtain ⟨-, living, bare⟩ := tidy.early _ member rfl
      refine .inr ⟨tidy.bare living bare, client.server.nextSessionId, ?_⟩
      exact (Option.some.inj ((congrArg Registry.relay same).symm.trans owned)).symm
  · cases work with
    | arrive present sender data =>
      obtain ⟨-, -, small⟩ := step_arrive stepped
      exact .setRelay _ present (fun _ => rfl) rfl (.arrived sender data small rfl)
    | handle present data answers =>
      obtain ⟨relay, bytes, there, held, same⟩ := step_handle stepped
      rw [same]
      exact .onDatagram there held
    | failed present =>
      exact .setRelay _ present (fun _ => rfl) rfl (.carried (.onReceiveFailed _))
    | channel present op failed answers => exact .onChannel op failed

/-- An application has sent the relay of a session a datagram. -/
def Wrote (past : List Client.Event) (number : Nat) (app : Endpoint) : Prop :=
  ∃ data, .arrive number app data ∈ past

/-- A datagram that has arrived at the relay of a session asks for this. -/
def Asked (past : List Client.Event) (number : Nat) (request : UdpRequest) : Prop :=
  ∃ sender data, .arrive number sender data ∈ past ∧ data.length ≤ 65535 ∧
    UdpRequest.parse data = some request

/-- What a relay holds comes from datagrams that have arrived at it. -/
structure Sourced (past : List Client.Event) (number : Nat) (relay : UdpRelay) : Prop where
  /-- The datagram to be handled has arrived from the sender. -/
  held : ∀ data, relay.receive = .arrived data →
    data.length ≤ 65535 ∧ .arrive number relay.senderEp data ∈ past
  /-- Once a datagram was handled, the sender has written. -/
  sender : ∀ app request, .handled app request ∈ relay.trace → Wrote past number relay.senderEp
  /-- Those who wait for replies have written. -/
  table : ∀ key app, relay.targetToSender key = some app → Wrote past number app
  /-- Queued frames are those of datagrams. -/
  queue : ∀ frame ∈ relay.pendingFrames, ∃ request, Asked past number request ∧
    frame = UdpRelay.frameOf request

/-- What the client has sent comes from datagrams, and ids are those of one session each. -/
structure Provenance (past : List Client.Event) (client : Process) : Prop where
  /-- Ids were allocated. -/
  bounded : ∀ number, (idAt client number).toNat ≤ client.server.allocated
  /-- No two sessions have one id. -/
  unique : ∀ first second, idAt client first = idAt client second → idAt client first ≠ 0 →
    first = second
  /-- What relays hold comes from datagrams. -/
  relays : ∀ number relay, client.relay? number = some relay → Sourced past number relay
  /-- Packets are frames of datagrams behind the id of the session. -/
  sent : ∀ entry ∈ client.sentBy, ∃ number request, entry.1 ≠ 0 ∧ idAt client number = entry.1 ∧
    Asked past number request ∧ entry.2 = be16 entry.1 ++ UdpRelay.frameOf request

/-- More events keep what was written. -/
theorem Wrote.mono {app : Endpoint} (wrote : Wrote past number app) (event : Client.Event) :
    Wrote (past ++ [event]) number app := by
  obtain ⟨data, member⟩ := wrote
  exact ⟨data, List.mem_append_left _ member⟩

/-- More events keep what was asked for. -/
theorem Asked.mono {request : UdpRequest} (asked : Asked past number request)
    (event : Client.Event) : Asked (past ++ [event]) number request := by
  obtain ⟨sender, data, member, rest⟩ := asked
  exact ⟨sender, data, List.mem_append_left _ member, rest⟩

/-- An id that was given stays. -/
theorem id_stays (consistent : Consistent client)
    (stepped : client.step config event = some next) (given : idAt client number ≠ 0) :
    idAt next number = idAt client number := by
  rcases step_ids consistent stepped with same | ⟨index, zero, updated, -⟩
  · rw [same]
  · have other : number ≠ index := by
      rintro rfl
      exact given zero
    rw [updated, Function.update_of_ne other]

/-- The datagram that a relay handles asks for what is in it. -/
theorem Sourced.asked {data : Bytes} {request : UdpRequest} (sourced : Sourced past number relay)
    (arrived : relay.receive = .arrived data) (read : UdpRequest.parse data = some request) :
    Asked past number request := by
  obtain ⟨small, member⟩ := sourced.held data arrived
  exact ⟨relay.senderEp, data, member, small, read⟩

/-- A new relay holds nothing. -/
theorem sourced_start (past : List Client.Event) (number : Nat) (sid : UInt16) :
    Sourced past number (UdpRelay.start sid) where
  held _ arrived := by cases arrived
  sender _ _ member := by cases member
  table _ _ found := by cases found
  queue _ member := by cases member

/-- More events keep the sources. -/
theorem Sourced.mono (sourced : Sourced past number relay) (event : Client.Event) :
    Sourced (past ++ [event]) number relay where
  held data arrived := by
    obtain ⟨small, member⟩ := sourced.held data arrived
    exact ⟨small, List.mem_append_left _ member⟩
  sender app request member := (sourced.sender app request member).mono event
  table key app found := (sourced.table key app found).mono event
  queue frame member := by
    obtain ⟨request, asked, same⟩ := sourced.queue frame member
    exact ⟨request, asked.mono event, same⟩

/-- The work of the channel keeps the sources. -/
theorem Sourced.carried (sourced : Sourced past number old) (same : Carried old relay) :
    Sourced past number relay where
  held data arrived := by
    rw [same.senderEp]
    exact sourced.held data (same.receive data arrived)
  sender app request member := by
    rw [same.trace] at member
    rw [same.senderEp]
    exact sourced.sender app request member
  table key app found := by
    rw [same.table] at found
    exact sourced.table key app found
  queue frame member := sourced.queue frame (same.queue member)

/-- A datagram that arrives is a source. -/
theorem Sourced.arrive (sourced : Sourced past number relay) {sender : Endpoint} {data : Bytes}
    (small : data.length ≤ 65535) (member : .arrive number sender data ∈ past) :
    Sourced past number (relay.arrive sender data) where
  held bytes arrived := by
    obtain rfl := LocalReceive.arrived.inj arrived
    exact ⟨small, member⟩
  sender _ _ _ := ⟨data, member⟩
  table := sourced.table
  queue := sourced.queue

/-- A datagram is forwarded: its frame is queued or sent, and its sender is remembered. -/
theorem Sourced.forward {request : UdpRequest} (sourced : Sourced past number relay)
    (asked : Asked past number request) (wrote : Wrote past number relay.senderEp)
    (ready : Bool) : Sourced past number (relay.forward request ready).1.doReceiveLocal := by
  have table (key : Bytes) (app : Endpoint)
      (found : Function.update relay.targetToSender
        (UdpRelay.targetKey request.dstAddr request.dstPort) (some relay.senderEp) key =
          some app) : Wrote past number app := by
    rw [Function.update_apply] at found
    split at found
    · obtain rfl := Option.some.inj found
      exact wrote
    · exact sourced.table key app found
  cases ready with
  | true => exact ⟨fun _ arrived => (by cases arrived), fun _ _ _ => wrote, table, sourced.queue⟩
  | false =>
    refine ⟨fun _ arrived => (by cases arrived), fun _ _ _ => wrote, table, ?_⟩
    intro frame member
    rcases List.mem_append.mp member with old | new
    · exact sourced.queue frame old
    · exact ⟨request, asked, List.mem_singleton.mp new⟩

/-- The datagram that has arrived is handled. -/
theorem Sourced.onReceiveLocal {data : Bytes} (sourced : Sourced past number relay)
    (arrived : relay.receive = .arrived data) (ready : Bool) :
    Sourced past number (relay.onReceiveLocal data ready).1 := by
  have wrote : Wrote past number relay.senderEp := ⟨data, (sourced.held data arrived).2⟩
  have dropped : Sourced past number relay.doReceiveLocal :=
    ⟨fun _ none => (by cases none), sourced.sender, sourced.table, sourced.queue⟩
  unfold UdpRelay.onReceiveLocal
  split
  · split
    · exact dropped
    · split
      · exact dropped
      · rename_i request read
        exact sourced.forward (sourced.asked arrived read) wrote ready
  · exact ⟨fun _ none => (by cases none), sourced.sender, sourced.table, sourced.queue⟩

/-- A reply takes an entry off the table. -/
theorem Sourced.deliver (sourced : Sourced past number relay) (frame : UdpFrame) :
    Sourced past number (relay.deliver frame) where
  held := sourced.held
  sender app request member := by
    rcases List.mem_append.mp member with old | new
    · exact sourced.sender app request old
    · cases List.mem_singleton.mp new
  table key app found := by
    have known : Function.update relay.targetToSender
        (UdpRelay.targetKey frame.address frame.port) none key = some app := found
    rw [Function.update_apply] at known
    split at known
    · cases known
    · exact sourced.table key app known
  queue := sourced.queue

/-- **Step of a relay.** Every event keeps the sources of what a relay holds. -/
theorem Sourced.change (sourced : Sourced past number old)
    (change : Change client event next number old relay) :
    Sourced (past ++ [event]) number relay := by
  have later := sourced.mono event
  cases change with
  | carried same => exact later.carried same
  | arrived sender data small own =>
    exact later.arrive small (List.mem_append_right _ (List.mem_singleton.mpr own.symm))
  | handled data held => exact later.onReceiveLocal held _
  | delivered bytes parsed handed decoded accepted => exact later.deliver _

/-- **Step of the client.** Every event keeps the sources of packets, while ids remain. -/
theorem Provenance.step (provenance : Provenance past client) (consistent : Consistent client)
    (counter : client.server.nextSessionId.toNat = client.server.allocated + 1)
    (stepped : client.step config event = some next) : Provenance (past ++ [event]) next := by
  have effects := step_effects consistent stepped
  refine ⟨?_, ?_, ?_, ?_⟩
  · intro number
    have older := provenance.bounded number
    have grown := Process.step_allocated stepped
    rcases step_ids consistent stepped with same | ⟨index, -, updated, more⟩
    · rw [same]
      omega
    · rw [updated, Function.update_apply]
      split <;> omega
  · intro first second same given
    rcases step_ids consistent stepped with kept | ⟨index, -, updated, -⟩
    · rw [kept] at same given
      exact provenance.unique first second same given
    · -- The new id is larger than every id before it.
      have new (other : Nat) : idAt client other ≠ client.server.nextSessionId := by
        intro equal
        have older := provenance.bounded other
        rw [equal] at older
        omega
      rw [updated, Function.update_apply, Function.update_apply] at same
      rw [updated, Function.update_apply] at given
      split at same
      · split at same
        · simp [*]
        · exact absurd same.symm (new second)
      · rename_i different
        rw [if_neg different] at given
        split at same
        · exact absurd same (new first)
        · exact provenance.unique first second same given
  · intro number relay present
    rcases effects.relays number relay present with ⟨old, isOld, change⟩ | ⟨-, sid, rfl⟩
    · exact (provenance.relays number old isOld).change change
    · exact sourced_start _ number sid
  · intro entry member
    rcases effects.sent entry member with old | ⟨number, relay, frame, present, rfl, source⟩
    · obtain ⟨number, request, nonzero, same, asked, bytes⟩ := provenance.sent entry old
      have stays := id_stays consistent stepped (by rwa [same])
      exact ⟨number, request, nonzero, stays.trans same, asked.mono event, bytes⟩
    · obtain ⟨same, nonzero⟩ := idAt_relay consistent present
      have stays := id_stays consistent stepped (by rwa [same])
      have sourced := provenance.relays number relay present
      rcases source with queued | ⟨data, request, held, read, rfl⟩
      · obtain ⟨request, asked, rfl⟩ := sourced.queue frame queued
        exact ⟨number, request, nonzero, stays.trans same, asked.mono event, rfl⟩
      · exact ⟨number, request, nonzero, stays.trans same,
          (sourced.asked held read).mono event, rfl⟩

end Overplus.Verif.DatagramSources
