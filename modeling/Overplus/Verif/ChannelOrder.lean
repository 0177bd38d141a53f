import Overplus.Verif.SessionIds

/-!
# Order of the records of the client

All relays of a client send through one channel. Before the handshake is complete a relay keeps
its frames in a queue; when it is complete the channel announces the password, every queue is
flushed, and from then on frames are sent at once. Whatever the order of handshake attempts,
associations and datagrams, each relay's frames leave in the order in which it accepted their
datagrams, behind the password.

The invariant is stated for the client as it is in the middle of a flush, and follows the
primitive actions of the client: a relay changes, packets are handed to the channel, a session
changes.
-/
namespace Overplus.Verif.ChannelOrder

open Client SessionIds

/-- Frames of the datagrams a relay has accepted. -/
def acceptedFrames (trace : List RelayEffect) : List Bytes :=
  trace.filterMap fun effect => match effect with
    | .handled _ request => some (UdpRelay.frameOf request)
    | _ => none

/-- The packets that a relay has passed to `send`, behind their ids. -/
def passed (client : Process) (sid : UInt16) : List Bytes :=
  (client.sentBy.filter fun entry => entry.1 = sid).map fun entry => entry.2.drop 2

/-- The records of the client are in order. -/
structure SendOrder (client : Process) : Prop where
  /-- The callback was told of a complete handshake at most once. -/
  once : client.callbacks.count true ≤ 1
  /-- Nothing was sent, or the password and behind it the packets of the relays. -/
  records : ∀ channel, client.server.dtls = some channel →
    (channel.sent = [] ∧ client.sentBy = []) ∨
      channel.sent = channel.authLine :: client.sentBy.map Prod.snd
  /-- What a relay has sent and what it still holds are the frames it has accepted. -/
  queues : ∀ sid number, (sid, number) ∈ client.server.relays → ∃ relay,
    client.relay? number = some relay ∧ relay.sessionId = sid ∧
      passed client sid ++ relay.pendingFrames = acceptedFrames relay.trace ∧
      (client.ready = true → relay.pendingFrames = [])

/-- `SSL_write` takes what it is given. -/
def WritesTaken : Event → Prop
  | .handle _ answers | .channel _ _ answers => ∀ call, answers.write call = .written
  | _ => True

/-- The password, once the handshake is complete. -/
def announced (channel : DtlsChannel) : List Bytes :=
  if channel.handshakeDone then [channel.authLine] else []

/-- What is true of the channel. -/
structure ChannelOk (taken : Prop) (config : ClientConfig) (client : Process)
    (channel : DtlsChannel) : Prop where
  /-- The channel is not stopped. -/
  running : channel.running = true
  /-- A handshake needs `ssl_`. -/
  ssl : channel.handshakeDone = true → channel.ssl = true
  /-- The password is the configured one. -/
  password : channel.password = config.textPassword
  /-- Nothing else was written than the password and the packets, in this order. -/
  kept : channel.sent.Sublist (announced channel ++ client.sentBy.map Prod.snd)
  /-- All of it was written, if `SSL_write` took everything. -/
  all : taken → channel.sent = announced channel ++ client.sentBy.map Prod.snd

/-- The client between two of its actions, with fewer ids allocated than there are. -/
structure Ordered (taken : Prop) (config : ClientConfig) (client : Process) : Prop where
  /-- The table of relays is exact. -/
  consistent : Consistent client
  /-- The counter has not wrapped. -/
  counter : client.server.nextSessionId.toNat = client.server.allocated + 1
  /-- Ids of the table were allocated. -/
  listed : ∀ entry ∈ client.server.relays, entry.1.toNat ≤ client.server.allocated
  /-- Packets carry the id of their relay, which was allocated. -/
  labelled : ∀ entry ∈ client.sentBy, 1 ≤ entry.1.toNat ∧ entry.1.toNat ≤ client.server.allocated ∧
    ∃ frame, entry.2 = be16 entry.1 ++ frame
  /-- The callback was told of a complete handshake when there is one. -/
  fired : client.callbacks.count true = if client.ready then 1 else 0
  /-- The channel is as it should be. -/
  channel : ∀ channel, client.server.dtls = some channel → ChannelOk taken config client channel
  /-- Nothing is handed to the channel before the handshake is complete. -/
  quiet : client.ready = false → client.sentBy = []
  /-- What a relay has sent and what it still holds are the frames it has accepted. -/
  queues : ∀ number relay, client.relay? number = some relay →
    passed client relay.sessionId ++ relay.pendingFrames = acceptedFrames relay.trace

/-- Queues are empty once the handshake is complete. -/
def Flushed (client : Process) : Prop :=
  client.ready = true → ∀ number relay, client.relay? number = some relay →
    relay.pendingFrames = []

variable {taken : Prop} {config : ClientConfig} {client next : Process} {number : Nat}
  {relay changed : UdpRelay} {answers : ChannelAnswers} {channel : DtlsChannel}
  {frames : List Bytes} {event : Event} {session : Session}

/-- A relay is in the table under its id. -/
theorem Ordered.entry (ordered : Ordered taken config client)
    (present : client.relay? number = some relay) :
    (relay.sessionId, number) ∈ client.server.relays := by
  obtain ⟨session, found, owned⟩ := Option.bind_eq_some_iff.mp present
  refine (ordered.consistent.entries _ _).mpr ⟨session, found, ?_⟩
  rw [relayId, owned]
  rfl

/-- Ids of relays are not zero. -/
theorem Ordered.nonzero (ordered : Ordered taken config client)
    (present : client.relay? number = some relay) : 1 ≤ relay.sessionId.toNat := by
  obtain ⟨session, found, owned⟩ := Option.bind_eq_some_iff.mp present
  have tidy := ordered.consistent.tidy session (List.mem_of_getElem? found)
  have holds : relayId session = some relay.sessionId := by
    rw [relayId, owned]
    rfl
  obtain ⟨-, -, nonzero⟩ := tidy.held _ holds
  refine Nat.one_le_iff_ne_zero.mpr fun zero => nonzero (UInt16.toNat_inj.mp ?_)
  rw [zero]
  rfl

/-- Two relays have two ids. -/
theorem Ordered.distinct (ordered : Ordered taken config client) {index : Nat} {other : UdpRelay}
    (present : client.relay? number = some relay) (second : client.relay? index = some other)
    (same : other.sessionId = relay.sessionId) : index = number := by
  have left := ordered.entry second
  rw [same] at left
  exact ordered.consistent.keyed.unique left (ordered.entry present)

/-- A relay that changes with its queue in order. -/
theorem Ordered.setRelay (ordered : Ordered taken config client)
    (present : client.relay? number = some relay) (same : changed.sessionId = relay.sessionId)
    (queue : passed client relay.sessionId ++ changed.pendingFrames =
      acceptedFrames changed.trace) : Ordered taken config (client.setRelay number changed) where
  consistent := ordered.consistent.frame (.setRelay present same)
  counter := ordered.counter
  listed := ordered.listed
  labelled := ordered.labelled
  fired := ordered.fired
  channel := fun channel isChannel => by
    have old := ordered.channel channel isChannel
    exact ⟨old.running, old.ssl, old.password, old.kept, old.all⟩
  quiet := ordered.quiet
  queues := by
    intro index other found
    rw [Process.relay?_setRelay present] at found
    split at found
    · obtain rfl := Option.some.inj found
      rw [same]
      exact queue
    · exact ordered.queues index other found

/-- More packets of a relay. -/
theorem passed_append (relay : UdpRelay)
    (more : next.sentBy = client.sentBy ++
      (frames.map relay.packet).map fun packet => (relay.sessionId, packet)) (sid : UInt16) :
    passed next sid = passed client sid ++ if relay.sessionId = sid then frames else [] := by
  have behind (frame : Bytes) : (relay.packet frame).drop 2 = frame := rfl
  unfold passed
  rw [more, List.filter_append, List.map_append]
  congr 1
  split
  · rename_i same
    rw [List.filter_eq_self.mpr (by simp [same]), List.map_map, List.map_map]
    exact List.map_id' frames
  · rename_i different
    rw [List.filter_eq_nil_iff.mpr (by simp [different])]
    rfl

/-- A channel that carries records is there. -/
theorem exists_channel (ready : client.ready = true) :
    ∃ channel, client.server.dtls = some channel ∧ channel.handshakeDone = true := by
  obtain ⟨channel, present, done⟩ := (Option.any_eq_true _ _).mp ready
  exact ⟨channel, present, done⟩

/-- A relay changes and hands frames to the channel. -/
theorem Ordered.hand (ordered : Ordered taken config client)
    (present : client.relay? number = some relay) (same : changed.sessionId = relay.sessionId)
    (ready : frames ≠ [] → client.ready = true)
    (written : taken → ∀ call, answers.write call = .written)
    (queue : passed client relay.sessionId ++ frames ++ changed.pendingFrames =
      acceptedFrames changed.trace) :
    Ordered taken config ((client.setRelay number changed).sendAll answers relay.sessionId
      (frames.map relay.packet)) := by
  by_cases none : frames = []
  · rw [none, List.append_nil] at queue
    rw [none, List.map_nil, Process.sendAll_nil]
    exact ordered.setRelay present same queue
  obtain ⟨channel, isChannel, done⟩ := exists_channel (ready none)
  have old := ordered.channel channel isChannel
  obtain ⟨records, writes, pending, sent, sub, exact⟩ :=
    DtlsChannel.sendAll_ready (old.ssl done) done old.running answers (frames.map relay.packet)
  generalize result : (client.setRelay number changed).sendAll answers relay.sessionId
    (frames.map relay.packet) = final
  have frame : Process.Frame client final := by
    rw [← result]
    exact (Process.Frame.setRelay present same).trans (.sendAll _ _ _)
  have isFinal : final = { (client.setRelay number changed).setDtls
        (channel.extend records writes pending) with
      sentBy := client.sentBy ++
        (frames.map relay.packet).map fun packet => (relay.sessionId, packet) } := by
    have present : (client.setRelay number changed).server.dtls = some channel := isChannel
    rw [← result, Process.sendAll_some present, sent]
    rfl
  have sentBy : final.sentBy = client.sentBy ++
      (frames.map relay.packet).map fun packet => (relay.sessionId, packet) := by rw [isFinal]
  have dtls : final.server.dtls = some (channel.extend records writes pending) := by
    rw [isFinal]
    rfl
  have stillReady : final.ready = true := by
    rw [Process.ready, dtls]
    exact done
  have packets : final.sentBy.map Prod.snd =
      client.sentBy.map Prod.snd ++ frames.map relay.packet := by
    rw [sentBy, List.map_append]
    congr 1
    rw [List.map_map]
    exact List.map_id' _
  refine ⟨ordered.consistent.frame frame, ?_, ?_, ?_, ?_, ?_, ?_, ?_⟩
  · rw [frame.nextSessionId, frame.allocated]
    exact ordered.counter
  · rw [frame.relays, frame.allocated]
    exact ordered.listed
  · intro entry member
    rw [sentBy] at member
    rw [frame.allocated]
    rcases List.mem_append.mp member with earlier | new
    · exact ordered.labelled entry earlier
    · obtain ⟨packet, among, rfl⟩ := List.mem_map.mp new
      obtain ⟨bytes, -, rfl⟩ := List.mem_map.mp among
      exact ⟨ordered.nonzero present, ordered.listed _ (ordered.entry present), bytes, rfl⟩
  · have calls : final.callbacks = client.callbacks := by rw [isFinal]; rfl
    rw [calls, stillReady, ordered.fired, ready none]
  · intro other isOther
    obtain rfl := Option.some.inj (dtls.symm.trans isOther)
    refine ⟨old.running, old.ssl, old.password, ?_, ?_⟩
    · rw [packets, ← List.append_assoc]
      exact old.kept.append sub
    · intro holds
      rw [packets, ← List.append_assoc]
      change channel.sent ++ records = _
      rw [old.all holds, exact (written holds)]
      rfl
  · rw [stillReady]
    intro none
    cases none
  · intro index other found
    rw [passed_append relay sentBy]
    have there : (client.setRelay number changed).relay? index = some other := by
      rw [← found, isFinal]
      rfl
    rw [Process.relay?_setRelay present] at there
    split at there
    · obtain rfl := Option.some.inj there
      rw [same, if_pos rfl]
      exact queue
    · rename_i elsewhere
      have different : relay.sessionId ≠ other.sessionId :=
        fun equal => elsewhere (ordered.distinct present there equal.symm)
      rw [if_neg different, List.append_nil]
      exact ordered.queues index other there

/-- What the invariant looks at is the same. -/
theorem Ordered.congr (ordered : Ordered taken config client) (consistent : Consistent next)
    (server : ∃ stats crashed, next.server = { client.server with stats, crashed })
    (relays : ∀ index, next.relay? index = client.relay? index)
    (sentBy : next.sentBy = client.sentBy)
    (fired : next.callbacks.count true = client.callbacks.count true) :
    Ordered taken config next := by
  obtain ⟨stats, crashed, server⟩ := server
  have ready : next.ready = client.ready := by rw [Process.ready, server, Process.ready]
  refine ⟨consistent, ?_, ?_, ?_, ?_, ?_, ?_, ?_⟩
  · rw [server]
    exact ordered.counter
  · rw [server]
    exact ordered.listed
  · rw [sentBy, server]
    exact ordered.labelled
  · rw [fired, ready]
    exact ordered.fired
  · intro channel present
    rw [server] at present
    have old := ordered.channel channel present
    refine ⟨old.running, old.ssl, old.password, ?_, ?_⟩
    · rw [sentBy]
      exact old.kept
    · rw [sentBy]
      exact old.all
  · rw [ready, sentBy]
    exact ordered.quiet
  · intro number relay present
    rw [relays] at present
    have same : passed next relay.sessionId = passed client relay.sessionId := by
      rw [passed, sentBy, passed]
    rw [same]
    exact ordered.queues number relay present

/-- The channel has other operations in flight. -/
theorem Ordered.setDtls (ordered : Ordered taken config client)
    (present : client.server.dtls = some channel) (pending : List ChannelOp) :
    Ordered taken config (client.setDtls { channel with pending }) := by
  have old := ordered.channel channel present
  have ready : (client.setDtls { channel with pending }).ready = client.ready := by
    rw [Process.ready, Process.ready, present]
    rfl
  refine ⟨ordered.consistent.frame .setDtls, ordered.counter, ordered.listed, ordered.labelled,
    ?_, ?_, ?_, ordered.queues⟩
  · rw [ready]
    exact ordered.fired
  · intro other isOther
    obtain rfl := Option.some.inj isOther
    exact ⟨old.running, old.ssl, old.password, old.kept, old.all⟩
  · rw [ready]
    exact ordered.quiet

/-- Flushing a relay empties its queue and leaves the others alone. -/
theorem Ordered.flush (ordered : Ordered taken config client) (ready : client.ready = true)
    (present : client.relay? number = some relay)
    (written : taken → ∀ call, answers.write call = .written) :
    Ordered taken config (client.flush answers number) ∧
      (client.flush answers number).ready = true ∧
      ∀ index, (client.flush answers number).relay? index =
        if index = number then some { relay with pendingFrames := [] }
        else client.relay? index := by
  have flushed : client.flush answers number =
      (client.setRelay number { relay with pendingFrames := [] }).sendAll answers relay.sessionId
        (relay.pendingFrames.map relay.packet) := by
    unfold Process.flush
    rw [present, ready]
    rfl
  rw [flushed]
  have queue := ordered.queues number relay present
  refine ⟨ordered.hand present rfl (fun _ => ready) written (by rwa [List.append_nil]), ?_, ?_⟩
  · obtain ⟨channel, isChannel, done⟩ := exists_channel ready
    have old := ordered.channel channel isChannel
    obtain ⟨records, writes, pending, sent, -⟩ :=
      DtlsChannel.sendAll_ready (old.ssl done) done old.running answers
        (relay.pendingFrames.map relay.packet)
    have there : (client.setRelay number { relay with pendingFrames := [] }).server.dtls =
        some channel := isChannel
    rw [Process.sendAll_some there, sent]
    exact done
  · intro index
    rw [Process.relay?_sendAll, Process.relay?_setRelay present]

/-- The queue of a session's relay, if it has one, is empty. -/
def EmptyAt (client : Process) (number : Nat) : Prop :=
  ∀ relay, client.relay? number = some relay → relay.pendingFrames = []

/-- Flushing the relays of a list empties their queues. -/
theorem Ordered.flushAll (entries : List (UInt16 × Nat)) (ordered : Ordered taken config client)
    (ready : client.ready = true)
    (known : ∀ entry ∈ entries, ∃ relay, client.relay? entry.2 = some relay)
    (written : taken → ∀ call, answers.write call = .written) :
    Ordered taken config
        (entries.foldl (fun client entry => client.flush answers entry.2) client) ∧
      ∀ index, index ∈ entries.map Prod.snd ∨ EmptyAt client index →
        EmptyAt (entries.foldl (fun client entry => client.flush answers entry.2) client)
          index := by
  induction entries generalizing client with
  | nil =>
    refine ⟨ordered, fun index holds => ?_⟩
    rcases holds with none | empty
    · cases none
    · exact empty
  | cons entry rest ih =>
    obtain ⟨relay, present⟩ := known entry List.mem_cons_self
    obtain ⟨flushed, stillReady, relays⟩ := ordered.flush ready present written
    have others : ∀ other ∈ rest, ∃ relay,
        (client.flush answers entry.2).relay? other.2 = some relay := by
      intro other member
      rw [relays]
      split
      · exact ⟨_, rfl⟩
      · exact known other (List.mem_cons_of_mem _ member)
    obtain ⟨final, empties⟩ := ih flushed stillReady others
    refine ⟨final, fun index holds => empties index ?_⟩
    by_cases here : index = entry.2
    · refine .inr fun other found => ?_
      rw [relays, if_pos here] at found
      rw [← Option.some.inj found]
    · rcases holds with among | empty
      · rcases List.mem_cons.mp among with first | later
        · exact absurd first here
        · exact .inl later
      · refine .inr fun other found => ?_
        rw [relays, if_neg here] at found
        exact empty other found

/-- The invariant between two events. -/
structure Settled (taken : Prop) (config : ClientConfig) (client : Process) : Prop where
  /-- Records and queues are in order. -/
  ordered : Ordered taken config client
  /-- No queue is left behind. -/
  flushed : Flushed client

/-- A relay that changes, with its queue as it was. -/
theorem Settled.setRelay (settled : Settled taken config client)
    (present : client.relay? number = some relay) (same : changed.sessionId = relay.sessionId)
    (queue : changed.pendingFrames = relay.pendingFrames)
    (frames : acceptedFrames changed.trace = acceptedFrames relay.trace) :
    Settled taken config (client.setRelay number changed) := by
  have old := settled.ordered.queues number relay present
  refine ⟨settled.ordered.setRelay present same (by rw [queue, frames, old]), ?_⟩
  intro ready index other found
  rw [Process.relay?_setRelay present] at found
  split at found
  · obtain rfl := Option.some.inj found
    rw [queue]
    exact settled.flushed ready number relay present
  · exact settled.flushed ready index other found

/-- What the invariant looks at is the same. -/
theorem Settled.congr (settled : Settled taken config client) (consistent : Consistent next)
    (server : ∃ stats crashed, next.server = { client.server with stats, crashed })
    (relays : ∀ index, next.relay? index = client.relay? index)
    (sentBy : next.sentBy = client.sentBy)
    (fired : next.callbacks.count true = client.callbacks.count true) :
    Settled taken config next := by
  refine ⟨settled.ordered.congr consistent server relays sentBy fired, ?_⟩
  intro ready index other found
  obtain ⟨stats, crashed, server⟩ := server
  rw [relays] at found
  rw [Process.ready, server] at ready
  exact settled.flushed ready index other found

/-- The process ends. -/
theorem Settled.crash (settled : Settled taken config client) :
    Settled taken config client.crash :=
  settled.congr (settled.ordered.consistent.frame .crash) ⟨_, true, rfl⟩ (fun _ => rfl) rfl rfl

/-- The channel has other operations in flight. -/
theorem Settled.setDtls (settled : Settled taken config client)
    (present : client.server.dtls = some channel) (pending : List ChannelOp) :
    Settled taken config (client.setDtls { channel with pending }) := by
  refine ⟨settled.ordered.setDtls present pending, ?_⟩
  intro ready
  refine settled.flushed ?_
  rw [Process.ready, present]
  exact ready

/-- A relay accepts a datagram and sends or queues its frame. -/
theorem Settled.onDatagram (settled : Settled taken config client)
    (present : client.relay? number = some relay) (data : Bytes)
    (written : taken → ∀ call, answers.write call = .written) :
    Settled taken config (client.onDatagram number relay data answers) := by
  unfold Process.onDatagram
  dsimp only
  rcases UdpRelay.onReceiveLocal_cases relay data client.ready with
    ⟨receive, same⟩ | ⟨request, -, -, same⟩
  · rw [same, Option.toList_none, Process.sendAll_nil]
    exact settled.setRelay present rfl rfl rfl
  have old := settled.ordered.queues number relay present
  have more : acceptedFrames (relay.trace ++ [.handled relay.senderEp request]) =
      acceptedFrames relay.trace ++ [UdpRelay.frameOf request] := List.filterMap_append
  rw [same]
  dsimp only
  cases ready : client.ready with
  | true =>
    have empty := settled.flushed ready number relay present
    generalize isChanged : (relay.forward request true).1.doReceiveLocal = changed
    have pending : changed.pendingFrames = relay.pendingFrames := by rw [← isChanged]; rfl
    have trace : changed.trace = relay.trace ++ [.handled relay.senderEp request] := by
      rw [← isChanged]
      rfl
    have ordered : Ordered taken config ((client.setRelay number changed).sendAll answers
        relay.sessionId ([UdpRelay.frameOf request].map relay.packet)) := by
      refine settled.ordered.hand present (by rw [← isChanged]; rfl) (fun _ => ready) written ?_
      rw [empty, List.append_nil] at old
      rw [trace, more, pending, empty, List.append_nil, old]
    refine ⟨ordered, ?_⟩
    intro _ index other found
    rw [Process.relay?_sendAll, Process.relay?_setRelay present] at found
    split at found
    · obtain rfl := Option.some.inj found
      rw [pending, empty]
    · exact settled.flushed ready index other found
  | false =>
    generalize isChanged : (relay.forward request false).1.doReceiveLocal = changed
    have pending : changed.pendingFrames =
        relay.pendingFrames ++ [UdpRelay.frameOf request] := by rw [← isChanged]; rfl
    have trace : changed.trace = relay.trace ++ [.handled relay.senderEp request] := by
      rw [← isChanged]
      rfl
    have none : (relay.forward request false).2.toList = [] := rfl
    rw [none, Process.sendAll_nil]
    refine ⟨settled.ordered.setRelay present (by rw [← isChanged]; rfl) ?_, ?_⟩
    · rw [trace, more, pending, ← List.append_assoc, old]
    · intro yes
      have no : (client.setRelay number changed).ready = false := ready
      rw [no] at yes
      cases yes

/-- A reply leaves the queues alone. -/
theorem Settled.onDtlsData (settled : Settled taken config client) (data : Bytes) :
    Settled taken config (client.onDtlsData data) := by
  unfold Process.onDtlsData
  split
  · exact settled
  split
  · exact settled
  rename_i number _
  split
  · exact settled.crash
  rename_i relay present
  split
  · exact settled.crash
  rename_i changed handled
  have set : Settled taken config (client.setRelay number changed) := by
    rcases UdpRelay.onDtlsData_cases handled with rfl | ⟨parsed, -, -, -, rfl⟩
    · exact settled.setRelay present rfl rfl rfl
    · refine settled.setRelay present rfl rfl ?_
      exact List.filterMap_append.trans (List.append_nil _)
  exact set.congr (set.ordered.consistent.frame ⟨rfl, rfl, rfl, rfl, rfl⟩) ⟨_, _, rfl⟩
    (fun _ => rfl) rfl rfl

/-- A receive of the channel. -/
theorem Settled.onReceive (settled : Settled taken config client)
    (present : client.server.dtls = some channel) :
    Settled taken config (client.onReceive channel answers) := by
  have running := (settled.ordered.channel channel present).running
  unfold Process.onReceive DtlsChannel.onReceive DtlsChannel.doReceive
  rw [if_pos running]
  cases done : channel.handshakeDone with
  | true =>
    have set := settled.setDtls present (channel.pending ++ [.receive])
    rw [if_pos rfl, if_pos running]
    dsimp only
    split
    · exact set.onDtlsData _
    · exact set
  | false =>
    rw [if_neg (by decide), if_pos (by exact running)]
    exact settled.setDtls present (channel.pending ++ [.attempt] ++ [.receive])

/-- The handshake completes: the password is announced and every queue is flushed. -/
theorem Settled.complete (settled : Settled taken config client)
    (present : client.server.dtls = some channel) (ssl : channel.ssl = true)
    (undone : channel.handshakeDone = false)
    (written : taken → ∀ call, answers.write call = .written) :
    Settled taken config ((client.setDtls
      ({ channel with handshakeDone := true }.send answers channel.authLine)).onHandshake
        answers true) := by
  have ordered := settled.ordered
  have old := ordered.channel channel present
  have unready : client.ready = false := by
    rw [Process.ready, present]
    exact undone
  have nothing := ordered.quiet unready
  have fresh : channel.sent = [] := by
    have kept := old.kept
    rw [announced, undone, nothing] at kept
    exact List.sublist_nil.mp kept
  obtain ⟨records, writes, pending, sent, sub, exact⟩ :=
    @DtlsChannel.send_ready { channel with handshakeDone := true } ssl rfl old.running answers
      channel.authLine
  rw [sent]
  generalize isChanged :
    DtlsChannel.extend { channel with handshakeDone := true } records writes pending = changed
  have begun : Ordered taken config { client.setDtls changed with
      callbacks := client.callbacks ++ [true]
      server := { (client.setDtls changed).server with dtlsReady := true } } := by
    have ready : changed.handshakeDone = true := by rw [← isChanged]; rfl
    have line : changed.authLine = channel.authLine := by rw [← isChanged]; rfl
    have all : changed.sent = records := by
      rw [← isChanged]
      change channel.sent ++ records = records
      rw [fresh, List.nil_append]
    refine ⟨ordered.consistent.frame ⟨rfl, rfl, rfl, rfl, rfl⟩, ordered.counter, ordered.listed,
      ordered.labelled, ?_, ?_, ?_, ordered.queues⟩
    · rw [List.count_append, ordered.fired, unready, Process.ready]
      simp [Process.setDtls, DtlsChannel.isReady, ready]
    · intro other isOther
      obtain rfl := Option.some.inj isOther
      have expected : announced changed ++ client.sentBy.map Prod.snd = [channel.authLine] := by
        rw [announced, ready, line, nothing]
        rfl
      refine ⟨by rw [← isChanged]; exact old.running, fun _ => by rw [← isChanged]; exact ssl,
        by rw [← isChanged]; exact old.password, ?_, ?_⟩
      · rw [all]
        exact expected ▸ sub
      · intro holds
        rw [all, exact (written holds)]
        exact expected.symm
    · intro no
      have yes : (some changed).any DtlsChannel.isReady = true := ready
      exact absurd (yes.symm.trans no) (by decide)
  have known : ∀ entry ∈ client.server.relays, ∃ relay, client.relay? entry.2 = some relay := by
    intro entry member
    obtain ⟨session, found, owned⟩ := (ordered.consistent.entries entry.1 entry.2).mp member
    obtain ⟨relay, isRelay, -⟩ := Option.map_eq_some_iff.mp owned
    exact ⟨relay, by rw [Process.relay?, found]; exact isRelay⟩
  have ready : (some changed).any DtlsChannel.isReady = true := by rw [← isChanged]; rfl
  obtain ⟨final, empties⟩ := begun.flushAll client.server.relays ready known written
  refine ⟨final, ?_⟩
  intro _ number relay found
  have entry := final.entry found
  rw [(Process.Frame.flushAll answers client.server.relays).relays] at entry
  exact empties number (.inl (List.mem_map_of_mem entry)) relay found

/-- An attempt of the handshake. -/
theorem Settled.doHandshake (settled : Settled taken config client)
    (present : client.server.dtls = some channel)
    (written : taken → ∀ call, answers.write call = .written) :
    Settled taken config (client.doHandshake channel answers) := by
  unfold Process.doHandshake DtlsChannel.doHandshake
  by_cases guarded : (channel.ssl && channel.running && !channel.handshakeDone) = true
  · rw [if_pos guarded]
    have parts : channel.ssl = true ∧ channel.handshakeDone = false := by
      simp only [Bool.and_eq_true, Bool.not_eq_true'] at guarded
      exact ⟨guarded.1.1, guarded.2⟩
    cases answers.handshake with
    | done => exact settled.complete present parts.1 parts.2 written
    | wantRead => exact settled.setDtls present (channel.pending ++ [.timeout])
    | wantWrite => exact settled.setDtls present (channel.pending ++ [.retry])
    | failed =>
      have set := settled.setDtls present channel.pending
      refine set.congr (set.ordered.consistent.frame ⟨rfl, rfl, rfl, rfl, rfl⟩) ⟨_, _, rfl⟩
        (fun _ => rfl)
        rfl ?_
      exact List.count_append.trans (Nat.add_zero _)
  · rw [if_neg guarded]
    exact settled.setDtls present channel.pending

/-- An operation of the channel. -/
theorem Settled.onChannel (settled : Settled taken config client)
    (present : client.server.dtls = some channel) (op : ChannelOp) (failed : Bool)
    (written : taken → ∀ call, answers.write call = .written) :
    Settled taken config (client.onChannel (channel.complete op) op failed answers) := by
  have begun := settled.setDtls present (channel.pending.erase op)
  have there : (client.setDtls (channel.complete op)).server.dtls = some (channel.complete op) :=
    rfl
  cases op with
  | attempt => exact begun.doHandshake there written
  | timeout | retry =>
    cases failed with
    | true => exact begun
    | false => exact begun.doHandshake there written
  | receive =>
    cases failed with
    | true => exact begun
    | false => exact begun.onReceive there

/-- Work of the relays and of the channel. -/
theorem Settled.work (settled : Settled taken config client)
    (written : taken → WritesTaken event) (work : Process.Work client event next) :
    Settled taken config next := by
  cases work with
  | arrive present sender data =>
    refine settled.setRelay present rfl rfl ?_
    exact List.filterMap_append.trans (List.append_nil _)
  | handle present data answers => exact settled.onDatagram present data written
  | failed present =>
    refine settled.setRelay present UdpRelay.onReceiveFailed_sessionId ?_ ?_
    all_goals
      unfold UdpRelay.onReceiveFailed
      split <;> rfl
  | channel present op failed answers => exact settled.onChannel present op failed written

/-- A session changes, and its relay stays, goes, or is new. -/
theorem Settled.put {scope : Scope} (settled : Settled taken config client)
    (found : client.sessions[number]? = some session)
    (consistent : Consistent (client.putScope number scope))
    (counter : scope.server.nextSessionId.toNat = scope.server.allocated + 1)
    (listed : ∀ entry ∈ scope.server.relays, entry.1.toNat ≤ scope.server.allocated)
    (grown : client.server.allocated ≤ scope.server.allocated)
    (dtls : scope.server.dtls = client.server.dtls)
    (owned : ∀ relay, scope.session.udpRelay = some relay → session.udpRelay = some relay ∨
      ∃ sid, relay = UdpRelay.start sid ∧ client.server.allocated < sid.toNat) :
    Settled taken config (client.putScope number scope) := by
  have ordered := settled.ordered
  have ready : (client.putScope number scope).ready = client.ready := by
    rw [Process.ready, Process.ready]
    exact congrArg _ dtls
  -- A relay that was there before is where it was; a new one has sent nothing.
  have known {index : Nat} {relay : UdpRelay}
      (there : (client.putScope number scope).relay? index = some relay) :
      client.relay? index = some relay ∨
        ∃ sid, relay = UdpRelay.start sid ∧ client.server.allocated < sid.toNat := by
    rw [Process.relay?_putScope found] at there
    split at there
    · rename_i same
      rcases owned relay there with old | new
      · left
        rw [same, Process.relay?, found]
        exact old
      · exact .inr new
    · exact .inl there
  refine ⟨⟨consistent, counter, listed, ?_, ?_, ?_, ?_, ?_⟩, ?_⟩
  · intro entry member
    obtain ⟨nonzero, below, label⟩ := ordered.labelled entry member
    exact ⟨nonzero, Nat.le_trans below grown, label⟩
  · rw [ready]
    exact ordered.fired
  · intro channel present
    have old := ordered.channel channel (dtls.symm.trans present)
    exact ⟨old.running, old.ssl, old.password, old.kept, old.all⟩
  · rw [ready]
    exact ordered.quiet
  · intro index relay there
    rcases known there with old | ⟨sid, rfl, fresh⟩
    · exact ordered.queues index relay old
    · have none : passed client sid = [] := by
        rw [passed, List.filter_eq_nil_iff.mpr, List.map_nil]
        intro entry member
        have below := (ordered.labelled entry member).2.1
        have different : entry.1 ≠ sid := by
          rintro rfl
          omega
        simpa using different
      change passed client sid ++ [] = []
      rw [none]
      rfl
  · intro isReady index relay there
    rw [ready] at isReady
    rcases known there with old | ⟨sid, rfl, -⟩
    · exact settled.flushed isReady index relay old
    · rfl

/-- The next id is free. -/
theorem Ordered.fresh (ordered : Ordered taken config client) :
    client.server.nextSessionId ≠ 0 ∧
      client.server.findRelay client.server.nextSessionId = none := by
  have counter := ordered.counter
  refine ⟨?_, ?_⟩
  · intro zero
    rw [zero] at counter
    cases counter
  · refine List.lookup_eq_none_iff.mpr fun entry member => ?_
    have below := ordered.listed entry member
    have different : client.server.nextSessionId ≠ entry.1 := by
      intro same
      rw [same] at counter
      omega
    simpa using different

/-- A session changes without a new relay. -/
theorem Settled.plain {scope : Scope} (settled : Settled taken config client)
    (found : client.sessions[number]? = some session)
    (consistent : Consistent (client.putScope number scope))
    (nextId : scope.server.nextSessionId = client.server.nextSessionId)
    (allocated : scope.server.allocated = client.server.allocated)
    (dtls : scope.server.dtls = client.server.dtls)
    (relays : scope.server.relays ⊆ client.server.relays)
    (relay : scope.session.udpRelay = session.udpRelay ∨ scope.session.udpRelay = none) :
    Settled taken config (client.putScope number scope) := by
  refine settled.put found consistent ?_ ?_ (Nat.le_of_eq allocated.symm) dtls ?_
  · rw [nextId, allocated]
    exact settled.ordered.counter
  · intro entry member
    rw [allocated]
    exact settled.ordered.listed entry (relays member)
  · intro other owned
    rcases relay with same | none
    · exact .inl (same.symm.trans owned)
    · rw [none] at owned
      cases owned

/-- A session registers a new relay. -/
theorem Settled.registered {scope : Scope} (settled : Settled taken config client)
    (found : client.sessions[number]? = some session)
    (consistent : Consistent (client.putScope number scope))
    (few : scope.server.allocated < 65535)
    (same : scope.registry = (Scope.registry ⟨client.server, session⟩).register) :
    Settled taken config (client.putScope number scope) := by
  have counter := settled.ordered.counter
  have allocated : scope.server.allocated = client.server.allocated + 1 :=
    congrArg Registry.allocated same
  have nextId : scope.server.nextSessionId = client.server.nextSessionId + 1 :=
    congrArg Registry.nextSessionId same
  have relays : scope.server.relays = (client.server.nextSessionId, session.number) ::
      client.server.relays.filter fun entry => entry.1 ≠ client.server.nextSessionId :=
    congrArg Registry.relays same
  refine settled.put found consistent ?_ ?_ (by omega) (congrArg Registry.dtls same) ?_
  · have one : (1 : UInt16).toNat = 1 := rfl
    rw [nextId, UInt16.toNat_add, counter, allocated, one]
    exact Nat.mod_eq_of_lt (by omega)
  · intro entry member
    rw [relays] at member
    rcases List.mem_cons.mp member with rfl | old
    · dsimp only
      omega
    · have below := settled.ordered.listed entry (List.mem_of_mem_filter old)
      omega
  · intro relay owned
    have new : scope.session.udpRelay = some (UdpRelay.start client.server.nextSessionId) :=
      congrArg Registry.relay same
    refine .inr ⟨client.server.nextSessionId, ?_, by omega⟩
    exact (Option.some.inj (new.symm.trans owned)).symm

/-- **Step.** Every event keeps records and queues in order, while ids remain. -/
theorem Settled.step (settled : Settled taken config client)
    (few : next.server.allocated < 65535) (written : taken → WritesTaken event)
    (stepped : client.step config event = some next) : Settled taken config next := by
  have ordered := settled.ordered
  have consistent : Consistent next := ordered.consistent.step (fun _ => ordered.fresh) stepped
  rcases Process.step_work stepped with ⟨world, -, rfl⟩ |
    ⟨number, op, result, world, session, -, found, member, admitted, rfl⟩ | work
  · exact settled.congr consistent (Process.accept_server config client world)
      (Process.relay?_accept world) rfl rfl
  · generalize handled :
      (Scope.complete ⟨client.server, session⟩ op).handle config world op result = scope
      at few consistent ⊢
    have outcome : Scope.Outcome (Scope.complete ⟨client.server, session⟩ op) op scope := by
      rw [← handled]
      exact Scope.handle_outcome admitted
    cases outcome with
    | plain added same pending early _ =>
      have relays : scope.server.relays = client.server.relays := congrArg Registry.relays same
      exact settled.plain found consistent (congrArg Registry.nextSessionId same)
        (congrArg Registry.allocated same) (congrArg Registry.dtls same)
        (relays ▸ List.Subset.refl _) (.inl (congrArg Registry.relay same))
    | destroyed same pending =>
      have kept := Registry.destroy_keeps
        (Scope.complete ⟨client.server, session⟩ op).registry
      rw [← same] at kept
      obtain ⟨nextId, allocated, dtls, relays, relay⟩ := kept
      exact settled.plain found consistent nextId allocated dtls relays relay
    | registered request same pending => exact settled.registered found consistent few same
  · exact settled.work written work

/-- Before the first event nothing was sent. -/
theorem settled_start (taken : Prop) (config : ClientConfig) (ssl : Bool) :
    Settled taken config (Process.start config ssl) := by
  have unready : (Process.start config ssl).ready = false := by
    unfold Process.ready Process.start
    dsimp only
    split <;> rfl
  refine ⟨⟨consistent_start config ssl, rfl, ?_, ?_, ?_, ?_, fun _ => rfl, ?_⟩, ?_⟩
  · intro entry member
    cases member
  · intro entry member
    cases member
  · rw [unready]
    rfl
  · intro channel present
    unfold Process.start at present
    dsimp only at present
    split at present
    · obtain rfl := Option.some.inj present
      exact ⟨rfl, Bool.noConfusion, rfl, List.Sublist.refl _, fun _ => rfl⟩
    · cases present
  · intro number relay present
    cases present
  · intro ready
    rw [unready] at ready
    cases ready

/-- Records and queues are in order in every run, while ids remain. -/
theorem settled_run {ssl : Bool} {events : List Event}
    (ran : run (Process.step config) (Process.start config ssl) events = some client)
    (few : client.server.allocated < 65535)
    (written : taken → ∀ event ∈ events, WritesTaken event) : Settled taken config client := by
  have meets : Meets (Process.step config) (fun _ event => taken → WritesTaken event)
      (Process.start config ssl) events :=
    meets_of_mem fun event member _ holds => written holds event member
  have keeps : ∀ state event next,
      (state.server.allocated < 65535 → Settled taken config state) →
      (taken → WritesTaken event) → state.step config event = some next →
      next.server.allocated < 65535 → Settled taken config next := by
    intro state event next held taken stepped few
    have before := Nat.lt_of_le_of_lt (Process.step_allocated stepped) few
    exact (held before).step few taken stepped
  exact run_invariant_of_meets keeps (fun _ => settled_start taken config ssl) meets ran few

/-- **Order of the client's records.** In every run that allocates fewer than 65535 ids and in
which `SSL_write` takes what it is given, the handshake is reported complete at most once, the
password precedes all packets, and each relay's packets and its queue are the frames it has
accepted. -/
theorem send_order (config : ClientConfig) (ssl : Bool) (events : List Event) (client : Process)
    (ran : run (Process.step config) (Process.start config ssl) events = some client)
    (few : client.server.allocated < 65535) (written : ∀ event ∈ events, WritesTaken event) :
    SendOrder client := by
  have settled : Settled True config client := settled_run ran few fun _ => written
  have ordered := settled.ordered
  refine ⟨?_, ?_, ?_⟩
  · rw [ordered.fired]
    split <;> decide
  · intro channel present
    have all := (ordered.channel channel present).all trivial
    cases done : channel.handshakeDone with
    | true =>
      right
      rw [all, announced, done]
      rfl
    | false =>
      have unready : client.ready = false := by
        rw [Process.ready, present]
        exact done
      rw [announced, done, ordered.quiet unready] at all
      exact .inl ⟨all, ordered.quiet unready⟩
  · intro sid number entry
    obtain ⟨session, found, owned⟩ := (ordered.consistent.entries sid number).mp entry
    obtain ⟨relay, isRelay, same⟩ := Option.map_eq_some_iff.mp owned
    have present : client.relay? number = some relay := by
      rw [Process.relay?, found]
      exact isRelay
    refine ⟨relay, present, same, ?_, fun ready => settled.flushed ready number relay present⟩
    rw [← same]
    exact ordered.queues number relay present

/-- An association sends one datagram before the handshake is complete and one behind it. -/
def twoDatagrams : List Event :=
  association 0 ++
    [.arrive 0 .unspecified [0, 0, 0, 1, 8, 8, 8, 8, 0, 53, 1], .handle 0 {},
      .channel .attempt false { handshake := .done },
      .arrive 0 .unspecified [0, 0, 0, 1, 8, 8, 8, 8, 0, 53, 2], .handle 0 {}]

/-- Both datagrams were sent, and the run meets the assumptions. -/
theorem send_order_two : ∃ client,
    run (Process.step {}) (Process.start {} true) twoDatagrams = some client ∧
      client.server.allocated < 65535 ∧ client.sentBy.length = 2 ∧ SendOrder client := by
  have checked : (run (Process.step {}) (Process.start {} true) twoDatagrams).any
      (fun client => decide (client.server.allocated < 65535 ∧ client.sentBy.length = 2)) =
      true := by decide +kernel
  obtain ⟨client, ran, good⟩ := exists_of_run checked
  obtain ⟨few, two⟩ := of_decide_eq_true good
  have written : ∀ event ∈ twoDatagrams, WritesTaken event := by
    simp [twoDatagrams, association, WritesTaken]
  exact ⟨client, ran, few, two, send_order {} true twoDatagrams client ran few written⟩

end Overplus.Verif.ChannelOrder
