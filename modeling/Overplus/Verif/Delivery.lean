import Overplus.Server.DtlsSteps
import Overplus.Verif.ChannelOrder

/-!
# Delivery between a client and its DTLS session

The client's relays share one DTLS session of the server, which remembers for every target the
id of the relay that wrote to it last. The two machines are joined by the records they exchange.
Either side reads any record that the other has written, in any order and as often as it likes,
so records may be lost, reordered and repeated.

A reply that reaches a relay comes from a target to which the server has sent for that relay.
The argument is a history: every call of `do_send_to_target` goes back to a packet of a relay,
every entry of the server's table and every record to the client goes back to such a call. The
one record of the client that is not a packet is the password, so the password must not be a
frame itself.
-/
namespace Overplus.Verif.Delivery

open Client Server ChannelOrder

/-- A client and its session at the server. -/
structure Link where
  /-- The client. -/
  client : Process
  /-- The session. -/
  server : DtlsServerSession

/-- What can happen next. -/
inductive LinkEvent where
  /-- An event of the client. -/
  | client (event : Client.Event)
  /-- An event of the session. -/
  | server (event : DtlsEvent)

namespace Link

/-- Records the client has written. -/
def written (link : Link) : List Bytes := (link.client.server.dtls.map (·.sent)).getD []

/-- What is read was written by the other side. -/
def admits (link : Link) : LinkEvent → Bool
  | .client (.channel _ _ answers) =>
    answers.read.all fun record => decide (.record record ∈ link.server.trace)
  | .server (.datagram answers) =>
    match answers.read with
    | .data record => decide (record ∈ link.written)
    | _ => true
  | _ => true

/-- One event. -/
def step (sha224 : Bytes → Bytes) (serverConfig : ServerConfig) (config : ClientConfig)
    (link : Link) (event : LinkEvent) : Option Link :=
  if link.admits event then
    match event with
    | .client event => (link.client.step config event).map fun client => { link with client }
    | .server event =>
      (link.server.step sha224 serverConfig event).map fun server => { link with server }
  else none

/-- The client has started the channel, and the session was created. -/
def start (config : ClientConfig) (clientSsl serverSsl : Bool) : Link :=
  ⟨.start config clientSsl, .created serverSsl⟩

end Link

/-- A relay has sent a packet with this frame. -/
def Sent (client : Process) (sid : UInt16) (frame : UdpFrame) : Prop :=
  ∃ packet parsed, (sid, packet) ∈ client.sentBy ∧
    UdpFrame.parseFresh (packet.drop 2) = .ok parsed ∧ parsed.accepted = true ∧
    parsed.frame = frame

/-- The server calls `do_send_to_target` with these arguments for a frame: it names the target,
or a domain that the server was asked to resolve. -/
def SendsFor (trace : List DtlsEffect) (frame : UdpFrame) (endpoint : Endpoint) (payload : Bytes)
    (sid : UInt16) : Prop :=
  .sendToTarget endpoint payload sid ∈ trace ∧ frame.payload = payload ∧
    if frame.addrType = UdpFrame.addrDomain then
      .resolveAndSend frame.address frame.port payload sid ∈ trace
    else endpoint = DtlsServerSession.frameEndpoint frame

/-- Every frame handed to a relay is a reply from a target to which the server has sent a frame
of this relay. -/
def NoCrossDelivery (link : Link) : Prop :=
  ∀ sid bytes, (sid, bytes) ∈ link.client.handedTo →
    (∃ endpoint data, bytes = UdpFrame.generate endpoint data) ∧
      ∀ endpoint data, bytes = UdpFrame.generate endpoint data →
        ∃ frame payload, Sent link.client sid frame ∧
          SendsFor link.server.trace frame endpoint payload sid

/-- Behind its first two bytes, the line with the password is not a frame. -/
def PasswordUnframed (config : ClientConfig) : Prop :=
  ∀ parsed, UdpFrame.parseFresh ((config.textPassword ++ [10]).drop 2) = .ok parsed →
    parsed.accepted = false

section Server

/-- What the session does goes back to frames of the relays. -/
structure Traced (origin : UInt16 → UdpFrame → Prop) (session : DtlsServerSession) : Prop where
  /-- Calls of `do_send_to_target`. -/
  sends : ∀ endpoint payload sid, .sendToTarget endpoint payload sid ∈ session.trace →
    ∃ frame, origin sid frame ∧ SendsFor session.trace frame endpoint payload sid
  /-- Resolutions in flight. -/
  resolving : ∀ domain port payload sid, .resolve domain port payload sid ∈ session.pending →
    .resolveAndSend domain port payload sid ∈ session.trace ∧
      ∃ frame, origin sid frame ∧ frame.addrType = UdpFrame.addrDomain ∧
        frame.address = domain ∧ frame.port = port ∧ frame.payload = payload
  /-- Entries of `target_to_session_`. -/
  table : ∀ endpoint sid, session.targetToSession endpoint = some sid →
    ∃ payload, .sendToTarget endpoint payload sid ∈ session.trace
  /-- Records for the client. -/
  records : ∀ record, .record record ∈ session.trace → ∃ endpoint data sid,
    record = be16 sid ++ UdpFrame.generate endpoint data ∧
      (sid = 0 ∨ ∃ payload, .sendToTarget endpoint payload sid ∈ session.trace)

/-- Effects that need no justification. -/
def isPlain : DtlsEffect → Bool
  | .sendToTarget _ _ _ | .record _ => false
  | _ => true

variable {origin larger : UInt16 → UdpFrame → Prop} {session next : DtlsServerSession}
  {effects : List DtlsEffect} {trace : List DtlsEffect} {frame : UdpFrame} {endpoint : Endpoint}
  {payload : Bytes} {sid : UInt16} {answers : Answers} {event : DtlsEvent}

/-- What was done stays done. -/
theorem SendsFor.mono (sends : SendsFor trace frame endpoint payload sid)
    (grows : ∀ effect ∈ trace, effect ∈ effects) : SendsFor effects frame endpoint payload sid := by
  obtain ⟨sent, same, target⟩ := sends
  refine ⟨grows _ sent, same, ?_⟩
  split
  · rename_i domain
    rw [if_pos domain] at target
    exact grows _ target
  · rename_i fixed
    rwa [if_neg fixed] at target

/-- More frames justify more. -/
theorem Traced.mono (traced : Traced origin session)
    (grows : ∀ sid frame, origin sid frame → larger sid frame) : Traced larger session where
  sends endpoint payload sid member := by
    obtain ⟨frame, sent, target⟩ := traced.sends endpoint payload sid member
    exact ⟨frame, grows _ _ sent, target⟩
  resolving domain port payload sid member := by
    obtain ⟨asked, frame, sent, rest⟩ := traced.resolving domain port payload sid member
    exact ⟨asked, frame, grows _ _ sent, rest⟩
  table := traced.table
  records := traced.records

/-- Plain effects, and operations that are not resolutions, need no justification. -/
theorem Traced.plain (traced : Traced origin session)
    (trace : next.trace = session.trace ++ effects)
    (plain : ∀ effect ∈ effects, isPlain effect = true)
    (table : next.targetToSession = session.targetToSession)
    (pending : ∀ domain port payload sid, .resolve domain port payload sid ∈ next.pending →
      .resolve domain port payload sid ∈ session.pending) : Traced origin next := by
  have grows : ∀ effect ∈ session.trace, effect ∈ next.trace := by
    intro effect member
    rw [trace]
    exact List.mem_append_left _ member
  have old {effect : DtlsEffect} (special : isPlain effect = false)
      (member : effect ∈ next.trace) : effect ∈ session.trace := by
    rw [trace] at member
    rcases List.mem_append.mp member with earlier | new
    · exact earlier
    · rw [plain effect new] at special
      cases special
  refine ⟨?_, ?_, ?_, ?_⟩
  · intro endpoint payload sid member
    obtain ⟨frame, sent, target⟩ := traced.sends endpoint payload sid (old rfl member)
    exact ⟨frame, sent, target.mono grows⟩
  · intro domain port payload sid member
    obtain ⟨asked, rest⟩ := traced.resolving _ _ _ _ (pending _ _ _ _ member)
    exact ⟨grows _ asked, rest⟩
  · intro endpoint sid found
    rw [table] at found
    obtain ⟨payload, sent⟩ := traced.table endpoint sid found
    exact ⟨payload, grows _ sent⟩
  · intro record member
    obtain ⟨endpoint, data, sid, same, known⟩ := traced.records record (old rfl member)
    refine ⟨endpoint, data, sid, same, ?_⟩
    rcases known with zero | ⟨payload, sent⟩
    · exact .inl zero
    · exact .inr ⟨payload, grows _ sent⟩

/-- Quiet work. -/
theorem Traced.quiet (traced : Traced origin session)
    (same : DtlsServerSession.Quiet session next) : Traced origin next := by
  obtain ⟨effects, state, ssl, authBuf, crashed, rfl, quiet⟩ := same
  refine traced.plain rfl ?_ rfl fun _ _ _ _ member => member
  intro effect member
  have still := quiet effect member
  cases effect <;> first | rfl | cases still

/-- An operation that is not a resolution is started. -/
theorem Traced.await (traced : Traced origin session) {op : DtlsOp}
    (other : ∀ domain port payload sid, op ≠ .resolve domain port payload sid) :
    Traced origin (session.await op) := by
  refine traced.plain (List.append_nil _).symm (by simp) rfl ?_
  intro domain port payload sid member
  rcases List.mem_append.mp member with old | new
  · exact old
  · exact absurd (List.mem_singleton.mp new).symm (other domain port payload sid)

/-- An operation is taken off the list. -/
theorem Traced.complete (traced : Traced origin session) (op : DtlsOp) :
    Traced origin (session.complete op) :=
  traced.plain (List.append_nil _).symm (by simp) rfl
    fun _ _ _ _ member => List.mem_of_mem_erase member

/-- The target's socket is read. -/
theorem Traced.doReadTarget (traced : Traced origin session) :
    Traced origin session.doReadTarget := by
  unfold DtlsServerSession.doReadTarget
  split
  · exact traced
  · exact traced.await (by simp)

/-- The session is stopped. -/
theorem Traced.stop (traced : Traced origin session) : Traced origin session.stop := by
  have ended (effects : List DtlsEffect) (plain : ∀ effect ∈ effects, isPlain effect = true)
      (ssl : Bool) : Traced origin { session with
        destroyed := true, state := .destroy, ssl := ssl, trace := session.trace ++ effects } :=
    traced.plain rfl plain rfl fun _ _ _ _ member => member
  unfold DtlsServerSession.stop
  split
  · exact traced
  · dsimp only
    split
    · have freed := ended ([.openssl .sslShutdown session.ssl] ++ [.openssl .sslFree session.ssl] ++
        [.destroyed]) (by simp [isPlain]) false
      rw [← List.append_assoc, ← List.append_assoc] at freed
      exact freed
    · exact ended [.destroyed] (by simp [isPlain]) session.ssl

/-- A datagram is sent to a target for a frame. -/
theorem Traced.doSendToTarget (traced : Traced origin session) (sent : origin sid frame)
    (same : frame.payload = payload)
    (target : if frame.addrType = UdpFrame.addrDomain then
        .resolveAndSend frame.address frame.port payload sid ∈ session.trace
      else endpoint = DtlsServerSession.frameEndpoint frame) :
    Traced origin (session.doSendToTarget endpoint payload sid) := by
  generalize isNext : session.doSendToTarget endpoint payload sid = next
  have trace : next.trace = session.trace ++ [.sendToTarget endpoint payload sid] := by
    rw [← isNext, DtlsServerSession.doSendToTarget_trace]
  have pending : next.pending = session.pending ++ [.targetSend] := by
    rw [← isNext, DtlsServerSession.doSendToTarget_pending]
  have table (other : Endpoint) (found : UInt16) (known : next.targetToSession other = some found) :
      session.targetToSession other = some found ∨ other = endpoint ∧ found = sid := by
    rw [← isNext, DtlsServerSession.doSendToTarget_table] at known
    split at known
    · exact .inl known
    · by_cases here : other = endpoint
      · rw [here, Function.update_self] at known
        exact .inr ⟨here, (Option.some.inj known).symm⟩
      · rw [Function.update_of_ne here] at known
        exact .inl known
  have grows : ∀ effect ∈ session.trace, effect ∈ next.trace := by
    intro effect member
    rw [trace]
    exact List.mem_append_left _ member
  have now : .sendToTarget endpoint payload sid ∈ next.trace := by
    rw [trace]
    exact List.mem_append_right _ (List.mem_singleton_self _)
  refine ⟨?_, ?_, ?_, ?_⟩
  · intro other bytes id member
    rw [trace] at member
    rcases List.mem_append.mp member with earlier | new
    · obtain ⟨frame, known, rest⟩ := traced.sends other bytes id earlier
      exact ⟨frame, known, rest.mono grows⟩
    · obtain ⟨rfl, rfl, rfl⟩ := DtlsEffect.sendToTarget.inj (List.mem_singleton.mp new)
      have held :
          SendsFor (session.trace ++ [.sendToTarget other bytes id]) frame other bytes id := by
        refine ⟨List.mem_append_right _ (List.mem_singleton_self _), same, ?_⟩
        split
        · rename_i domain
          rw [if_pos domain] at target
          exact List.mem_append_left _ target
        · rename_i fixed
          rwa [if_neg fixed] at target
      rw [← trace] at held
      exact ⟨frame, sent, held⟩
  · intro domain port bytes id member
    rw [pending] at member
    rcases List.mem_append.mp member with old | new
    · obtain ⟨asked, rest⟩ := traced.resolving domain port bytes id old
      exact ⟨grows _ asked, rest⟩
    · cases List.mem_singleton.mp new
  · intro other id known
    rcases table other id known with old | ⟨rfl, rfl⟩
    · obtain ⟨bytes, earlier⟩ := traced.table other id old
      exact ⟨bytes, grows _ earlier⟩
    · exact ⟨payload, now⟩
  · intro record member
    rw [trace] at member
    rcases List.mem_append.mp member with earlier | new
    · obtain ⟨other, data, id, isRecord, known⟩ := traced.records record earlier
      refine ⟨other, data, id, isRecord, ?_⟩
      rcases known with zero | ⟨bytes, done⟩
      · exact .inl zero
      · exact .inr ⟨bytes, grows _ done⟩
    · cases List.mem_singleton.mp new

/-- A name is resolved for a frame, or its endpoint is in the cache. -/
theorem Traced.doResolveAndSend (traced : Traced origin session) (sent : origin sid frame)
    (domain : frame.addrType = UdpFrame.addrDomain) :
    Traced origin
      (session.doResolveAndSend answers frame.address frame.port frame.payload sid) := by
  have asked : Traced origin
      (session.emit (.resolveAndSend frame.address frame.port frame.payload sid)) :=
    traced.plain rfl (by simp [isPlain]) rfl fun _ _ _ _ member => member
  have recorded : .resolveAndSend frame.address frame.port frame.payload sid ∈
      (session.emit (.resolveAndSend frame.address frame.port frame.payload sid)).trace :=
    List.mem_append_right _ (List.mem_singleton_self _)
  unfold DtlsServerSession.doResolveAndSend
  dsimp only
  split
  · refine asked.doSendToTarget sent rfl ?_
    rw [if_pos domain]
    exact recorded
  · refine ⟨asked.sends, ?_, asked.table, asked.records⟩
    intro name port payload id member
    rcases List.mem_append.mp member with old | new
    · exact asked.resolving name port payload id old
    · obtain ⟨rfl, rfl, rfl, rfl⟩ := DtlsOp.resolve.inj (List.mem_singleton.mp new)
      exact ⟨recorded, frame, sent, domain, rfl, rfl, rfl⟩

/-- A frame of a relay is handled. -/
theorem Traced.onFrame (traced : Traced origin session) (sent : origin sid frame) :
    Traced origin (session.onFrame answers sid frame) := by
  unfold DtlsServerSession.onFrame
  split
  · rename_i domain
    exact traced.doResolveAndSend sent domain
  · rename_i fixed
    split
    · refine traced.doSendToTarget sent rfl ?_
      rw [if_neg fixed]
    · exact traced

/-- A record for the client carries the id under which its target is known. -/
theorem Traced.reply (traced : Traced origin session) {before : DtlsServerSession}
    (sender : Endpoint) (data : Bytes)
    (earlier : DtlsServerSession.Quiet (session.complete .targetReceive) before) :
    Traced origin (before.emit (.record (session.replyRecord sender data))) := by
  have quiet := (traced.complete .targetReceive).quiet earlier
  have kept : before.targetToSession = session.targetToSession := by
    obtain ⟨effects, state, ssl, authBuf, crashed, rfl, -⟩ := earlier
    rfl
  have grows {effect : DtlsEffect} (member : effect ∈ before.trace) :
      effect ∈ (before.emit (.record (session.replyRecord sender data))).trace :=
    List.mem_append_left _ member
  have old {effect : DtlsEffect} (other : effect ≠ .record (session.replyRecord sender data))
      (member : effect ∈ (before.emit (.record (session.replyRecord sender data))).trace) :
      effect ∈ before.trace := by
    rcases List.mem_append.mp member with earlier | new
    · exact earlier
    · exact absurd (List.mem_singleton.mp new) other
  refine ⟨?_, ?_, ?_, ?_⟩
  · intro endpoint payload sid member
    obtain ⟨frame, sent, rest⟩ := quiet.sends endpoint payload sid (old (by simp) member)
    exact ⟨frame, sent, rest.mono fun _ => grows⟩
  · intro domain port payload sid member
    obtain ⟨asked, rest⟩ := quiet.resolving domain port payload sid member
    exact ⟨grows asked, rest⟩
  · intro endpoint sid found
    obtain ⟨payload, sent⟩ := quiet.table endpoint sid found
    exact ⟨payload, grows sent⟩
  · intro record member
    by_cases new : record = session.replyRecord sender data
    · refine ⟨sender, data, (session.targetToSession sender).getD 0, new, ?_⟩
      cases entry : session.targetToSession sender with
      | none => exact .inl rfl
      | some sid =>
        obtain ⟨payload, sent⟩ := quiet.table sender sid (by rw [kept]; exact entry)
        exact .inr ⟨payload, grows sent⟩
    · have other : DtlsEffect.record record ≠ .record (session.replyRecord sender data) :=
        fun same => new (DtlsEffect.record.inj same)
      obtain ⟨endpoint, data, sid, same, known⟩ := quiet.records record (old other member)
      refine ⟨endpoint, data, sid, same, ?_⟩
      rcases known with zero | ⟨payload, sent⟩
      · exact .inl zero
      · exact .inr ⟨payload, grows sent⟩

/-- **Step of the session.** What the session does goes back to frames of the relays, if every
frame it reads is one. -/
theorem Traced.step (traced : Traced origin session)
    (outcome : DtlsServerSession.Outcome session event next)
    (reads : ∀ answers record parsed, event = .datagram answers → answers.read = .data record →
      UdpFrame.parseFresh (record.drop 2) = .ok parsed → parsed.accepted = true →
      origin (ofBe16 (record.getD 0 0) (record.getD 1 0)) parsed.frame) : Traced origin next := by
  cases outcome with
  | quiet same => exact traced.quiet same
  | stopped same => exact (traced.quiet same).stop
  | proxying same => exact (traced.quiet same).await (by simp)
  | frame same read decoded accepted =>
    exact (traced.quiet same).onFrame (reads _ _ _ rfl read decoded accepted)
  | idle member same => exact (traced.complete _).quiet same
  | reading member same => exact ((traced.complete _).quiet same).doReadTarget
  | @resolved domain payload port sid _ endpoint _ member chosen =>
    obtain ⟨asked, frame, sent, isDomain, rfl, rfl, rfl⟩ :=
      traced.resolving domain port payload sid member
    have stored : Traced origin ((session.complete
        (.resolve frame.address frame.port frame.payload sid)).emit
          (.putUdp (Session.dnsKey frame.address (decimal frame.port.toNat)) endpoint)) :=
      (traced.complete _).plain rfl (by simp [isPlain]) rfl fun _ _ _ _ member => member
    refine stored.doSendToTarget sent rfl ?_
    rw [if_pos isDomain]
    exact List.mem_append_left _ asked
  | replied member earlier later =>
    exact ((traced.reply _ _ earlier).quiet later).doReadTarget
  | stop => exact traced.stop

end Server

section Joined

variable {sha224 : Bytes → Bytes} {serverConfig : ServerConfig} {config : ClientConfig}
  {link next : Link} {event : LinkEvent} {client : Process} {server : DtlsServerSession}

/-- Both sides are in order, and what was handed to relays goes back to calls of
`do_send_to_target`. -/
structure Justified (config : ClientConfig) (link : Link) : Prop where
  /-- The client's packets and ids are in order. -/
  settled : Settled False config link.client
  /-- What the session does goes back to the client's packets. -/
  traced : Traced (Sent link.client) link.server
  /-- What was handed to relays goes back to what the session did. -/
  handed : ∀ sid bytes, (sid, bytes) ∈ link.client.handedTo → ∃ endpoint data payload,
    bytes = UdpFrame.generate endpoint data ∧
      .sendToTarget endpoint payload sid ∈ link.server.trace

/-- A relay's packet stays sent. -/
theorem Sent.mono {sid : UInt16} {frame : UdpFrame} {later : Process} (sent : Sent client sid frame)
    (grows : client.sentBy <+: later.sentBy) : Sent later sid frame := by
  obtain ⟨packet, parsed, member, rest⟩ := sent
  exact ⟨packet, parsed, grows.subset member, rest⟩

/-- The id in front of a record. -/
theorem ofBe16_record (sid : UInt16) (bytes : Bytes) :
    ofBe16 ((be16 sid ++ bytes).getD 0 0) ((be16 sid ++ bytes).getD 1 0) = sid := ofBe16_be16 sid

/-- The relay found under an id has this id, which is not zero. -/
theorem found_id {sid : UInt16} {number : Nat} {relay : UdpRelay}
    (ordered : Ordered False config client) (found : client.server.findRelay sid = some number)
    (present : client.relay? number = some relay) : relay.sessionId = sid ∧ sid ≠ 0 := by
  obtain ⟨session, at_, owned⟩ :=
    (ordered.consistent.entries sid number).mp (mem_of_lookup found)
  obtain ⟨other, isOther, same⟩ := Option.map_eq_some_iff.mp owned
  have there : client.relay? number = some other := by
    rw [Process.relay?, at_]
    exact isOther
  obtain rfl := Option.some.inj (present.symm.trans there)
  refine ⟨same, ?_⟩
  rintro rfl
  have nonzero := ordered.nonzero present
  rw [same] at nonzero
  exact absurd nonzero (by decide)

/-- An event of the client. -/
theorem Justified.clientStep {event : Client.Event} (justified : Justified config link)
    (few : client.server.allocated < 65535)
    (reads : ∀ op failed answers record, event = .channel op failed answers →
      answers.read = some record → .record record ∈ link.server.trace)
    (stepped : link.client.step config event = some client) :
    Justified config { link with client } := by
  have settled := justified.settled.step few False.elim stepped
  obtain ⟨grows, handed⟩ := Process.step_hands stepped
  refine ⟨settled, justified.traced.mono fun _ _ sent => sent.mono grows, ?_⟩
  intro sid bytes member
  rcases handed with same | ⟨op, failed, answers, record, isEvent, read, hands⟩
  · rw [same] at member
    exact justified.handed sid bytes member
  · obtain ⟨number, relay, found, present, more⟩ := hands
    rw [more] at member
    rcases List.mem_append.mp member with old | new
    · exact justified.handed sid bytes old
    · obtain ⟨rfl, rfl⟩ := Prod.mk.inj (List.mem_singleton.mp new)
      have wrote := reads op failed answers record isEvent read
      obtain ⟨endpoint, data, id, rfl, known⟩ := justified.traced.records record wrote
      rw [ofBe16_record] at found
      obtain ⟨same, nonzero⟩ := found_id justified.settled.ordered found present
      rcases known with zero | ⟨payload, sent⟩
      · exact absurd zero nonzero
      · exact ⟨endpoint, data, payload, rfl, by rw [same]; exact sent⟩

/-- A frame that the session reads was sent by a relay. -/
theorem sent_of_written {record : Bytes} {parsed : UdpFrame.Parsed}
    (ordered : Ordered False config link.client) (unframed : PasswordUnframed config)
    (wrote : record ∈ link.written) (decoded : UdpFrame.parseFresh (record.drop 2) = .ok parsed)
    (accepted : parsed.accepted = true) :
    Sent link.client (ofBe16 (record.getD 0 0) (record.getD 1 0)) parsed.frame := by
  cases present : link.client.server.dtls with
  | none =>
    rw [Link.written, present] at wrote
    cases wrote
  | some channel =>
    rw [Link.written, present] at wrote
    have ok := ordered.channel channel present
    rcases List.mem_append.mp (ok.kept.subset wrote) with password | packet
    · have line : record = config.textPassword ++ [10] := by
        rw [announced] at password
        split at password
        · rw [List.mem_singleton.mp password, DtlsChannel.authLine, ok.password]
        · cases password
      rw [line] at decoded
      rw [unframed parsed decoded] at accepted
      cases accepted
    · obtain ⟨entry, member, rfl⟩ := List.mem_map.mp packet
      obtain ⟨-, -, frame, label⟩ := ordered.labelled entry member
      have id : ofBe16 (entry.2.getD 0 0) (entry.2.getD 1 0) = entry.1 := by
        rw [label]
        exact ofBe16_record entry.1 frame
      rw [id]
      exact ⟨entry.2, parsed, member, decoded, accepted, rfl⟩

/-- An event of the session. -/
theorem Justified.serverStep {event : DtlsEvent} (justified : Justified config link)
    (unframed : PasswordUnframed config)
    (reads : ∀ answers record, event = .datagram answers → answers.read = .data record →
      record ∈ link.written)
    (stepped : link.server.step sha224 serverConfig event = some server) :
    Justified config { link with server } := by
  have outcome := DtlsServerSession.step_outcome stepped
  refine ⟨justified.settled, justified.traced.step outcome ?_, ?_⟩
  · intro answers record parsed isEvent read decoded accepted
    exact sent_of_written justified.settled.ordered unframed (reads answers record isEvent read)
      decoded accepted
  · intro sid bytes member
    obtain ⟨endpoint, data, payload, same, sent⟩ := justified.handed sid bytes member
    exact ⟨endpoint, data, payload, same, outcome.extends.subset sent⟩

/-- One side moves, and reads only what the other side has written. -/
inductive Link.Move (sha224 : Bytes → Bytes) (serverConfig : ServerConfig) (config : ClientConfig)
    (link : Link) : LinkEvent → Link → Prop
  /-- The client moves. -/
  | client {event : Client.Event} {client : Process}
    (reads : ∀ op failed answers record, event = .channel op failed answers →
      answers.read = some record → .record record ∈ link.server.trace)
    (moved : link.client.step config event = some client) :
    Move sha224 serverConfig config link (.client event) { link with client }
  /-- The session moves. -/
  | server {event : DtlsEvent} {server : DtlsServerSession}
    (reads : ∀ answers record, event = .datagram answers → answers.read = .data record →
      record ∈ link.written)
    (moved : link.server.step sha224 serverConfig event = some server) :
    Move sha224 serverConfig config link (.server event) { link with server }

/-- A step is a move of one side. -/
theorem step_move (stepped : link.step sha224 serverConfig config event = some next) :
    link.Move sha224 serverConfig config event next := by
  unfold Link.step at stepped
  split at stepped
  · rename_i admitted
    split at stepped
    · obtain ⟨client, moved, rfl⟩ := Option.map_eq_some_iff.mp stepped
      refine .client ?_ moved
      rintro op failed answers record rfl read
      simpa [Link.admits, read] using admitted
    · obtain ⟨server, moved, rfl⟩ := Option.map_eq_some_iff.mp stepped
      refine .server ?_ moved
      rintro answers record rfl read
      simpa [Link.admits, read] using admitted
  · cases stepped

/-- Ids are never given back to the counter. -/
theorem step_allocated (stepped : link.step sha224 serverConfig config event = some next) :
    link.client.server.allocated ≤ next.client.server.allocated := by
  cases step_move stepped with
  | client reads moved => exact Process.step_allocated moved
  | server reads moved => exact Nat.le_refl _

/-- **Step.** Every event keeps both histories in agreement, while ids remain. -/
theorem Justified.step (justified : Justified config link) (unframed : PasswordUnframed config)
    (few : next.client.server.allocated < 65535)
    (stepped : link.step sha224 serverConfig config event = some next) :
    Justified config next := by
  cases step_move stepped with
  | client reads moved => exact justified.clientStep few reads moved
  | server reads moved => exact justified.serverStep unframed reads moved

/-- Before the first event nothing was done. -/
theorem justified_start (config : ClientConfig) (clientSsl serverSsl : Bool) :
    Justified config (.start config clientSsl serverSsl) where
  settled := settled_start False config clientSsl
  traced := ⟨fun _ _ _ member => (by cases DtlsServerSession.created_quiet member),
    fun _ _ _ _ member => (by cases member), fun _ _ found => (by cases found),
    fun _ member => (by cases DtlsServerSession.created_quiet member)⟩
  handed _ _ member := by cases member

/-- **No cross-association delivery.** In every run of a client and its DTLS session, with fewer
than 65535 ids allocated and a password that is not a frame, every reply that the client hands to
a relay comes from a target to which the server had sent a frame of this relay. -/
theorem no_cross_delivery (sha224 : Bytes → Bytes) (serverConfig : ServerConfig)
    (config : ClientConfig) (clientSsl serverSsl : Bool) (events : List LinkEvent) (link : Link)
    (unframed : PasswordUnframed config)
    (ran : run (Link.step sha224 serverConfig config) (.start config clientSsl serverSsl) events =
      some link)
    (few : link.client.server.allocated < 65535) : NoCrossDelivery link := by
  have keeps : ∀ state event next, (state.client.server.allocated < 65535 →
      Justified config state) → state.step sha224 serverConfig config event = some next →
      next.client.server.allocated < 65535 → Justified config next := by
    intro state event next held stepped few
    have before := Nat.lt_of_le_of_lt (step_allocated stepped) few
    exact (held before).step unframed few stepped
  have justified : Justified config link :=
    run_invariant keeps (fun _ => justified_start config clientSsl serverSsl) ran few
  intro sid bytes member
  obtain ⟨endpoint, data, payload, rfl, sent⟩ := justified.handed sid bytes member
  refine ⟨⟨endpoint, data, rfl⟩, ?_⟩
  intro other rest same
  obtain rfl := UdpFrame.generate_endpoint same
  obtain ⟨frame, origin, target⟩ := justified.traced.sends endpoint payload sid sent
  exact ⟨frame, payload, origin, target⟩

end Joined

section Samples

/-- A target by the byte its address repeats. -/
def target (byte : UInt8) : Endpoint := ⟨.v4 ⟨[byte, byte, byte, byte], rfl⟩, 53⟩

/-- The packet of relay 1 for a datagram to 8.8.8.8. -/
def packet : Bytes := [0, 1] ++ UdpFrame.generate (target 8) [1]

/-- An association sends a datagram to 8.8.8.8. The session reads two records of the client and
then a datagram of the given target, and the client reads the session's record. -/
def exchange (first second : Bytes) (source : Endpoint) : List LinkEvent :=
  (SessionIds.association 0).map .client ++
    [.client (.arrive 0 .unspecified [0, 0, 0, 1, 8, 8, 8, 8, 0, 53, 1]),
      .client (.handle 0 {}),
      .client (.channel .attempt false { handshake := .done }),
      .server (.datagram { accept := .done, read := .data first }),
      .server (.datagram { read := .data second }),
      .server (.completed .targetReceive (.received source [7]) {}),
      .client (.channel .receive false
        { read := some ([0, 1] ++ UdpFrame.generate source [7]) })]

/-- A reply from 8.8.8.8 reaches the relay that has written there. -/
theorem no_cross_delivery_sample : ∃ link,
    run (Link.step id ⟨[[0x70]]⟩ { textPassword := [0x70] })
        (.start { textPassword := [0x70] } true true)
        (exchange [0x70, 10] packet (target 8)) = some link ∧
      link.client.handedTo = [(1, UdpFrame.generate (target 8) [7])] ∧ NoCrossDelivery link := by
  have checked : (run (Link.step id ⟨[[0x70]]⟩ { textPassword := [0x70] })
      (.start { textPassword := [0x70] } true true) (exchange [0x70, 10] packet (target 8))).any
        (fun link => decide (link.client.handedTo = [(1, UdpFrame.generate (target 8) [7])] ∧
          link.client.server.allocated < 65535)) = true := by decide +kernel
  have unframed : PasswordUnframed { textPassword := [0x70] } := by
    intro parsed decoded
    have refused : UdpFrame.parseFresh [] = .ok ⟨false, {}, 0, false⟩ := by decide +kernel
    obtain rfl := Except.ok.inj (refused.symm.trans decoded)
    rfl
  obtain ⟨link, ran, good⟩ := exists_of_run checked
  obtain ⟨handed, few⟩ := of_decide_eq_true good
  exact ⟨link, ran, handed, no_cross_delivery _ _ _ _ _ _ link unframed ran few⟩

/-- A password that is the packet of relay 1 for a datagram to 9.9.9.9, without its last byte. -/
def framedPassword : Bytes := ([0, 1] ++ UdpFrame.generate (target 9) [10]).dropLast

/-- The session takes a packet that overtakes the password for the password, since its first line
is allowed, and then the password for a packet. A reply from 9.9.9.9 reaches relay 1, which has
never written there. -/
theorem password_taken_for_packet : ∃ link,
    run (Link.step id ⟨[[0, 1, 13]]⟩ { textPassword := framedPassword })
        (.start { textPassword := framedPassword } true true)
        (exchange packet (framedPassword ++ [10]) (target 9)) = some link ∧
      link.client.server.allocated < 65535 ∧ ¬ NoCrossDelivery link := by
  have checked : (run (Link.step id ⟨[[0, 1, 13]]⟩ { textPassword := framedPassword })
      (.start { textPassword := framedPassword } true true)
      (exchange packet (framedPassword ++ [10]) (target 9))).any
        (fun link => decide (link.client.handedTo = [(1, UdpFrame.generate (target 9) [7])] ∧
          link.client.sentBy = [(1, packet)] ∧ link.client.server.allocated < 65535)) = true := by
    decide +kernel
  obtain ⟨link, ran, good⟩ := exists_of_run checked
  obtain ⟨handed, sentBy, few⟩ := of_decide_eq_true good
  refine ⟨link, ran, few, fun delivered => ?_⟩
  have member : (1, UdpFrame.generate (target 9) [7]) ∈ link.client.handedTo := by
    rw [handed]
    exact List.mem_singleton_self _
  obtain ⟨frame, payload, ⟨bytes, parsed, among, decoded, -, rfl⟩, -, -, aimed⟩ :=
    (delivered 1 _ member).2 (target 9) [7] rfl
  rw [sentBy] at among
  obtain ⟨-, rfl⟩ := Prod.mk.inj (List.mem_singleton.mp among)
  have known : UdpFrame.parseFresh (packet.drop 2) =
      .ok ⟨true, ⟨UdpFrame.addrIpv4, [8, 8, 8, 8], 53, [1]⟩, 12, false⟩ := by decide +kernel
  obtain rfl := Except.ok.inj (known.symm.trans decoded)
  rw [if_neg (by decide)] at aimed
  exact absurd aimed (by decide +kernel)

end Samples

end Overplus.Verif.Delivery
