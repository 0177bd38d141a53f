import Overplus.Server.DtlsTrace
import Overplus.Verif.DatagramSources
import Overplus.Verif.Delivery
import Overplus.Verif.RelayReplies

/-!
# Datagrams from end to end

A datagram of an application goes through a relay, its queue, the channel and the server's DTLS
session to a target, and a target's datagram comes back the same way. Records may be lost,
reordered and repeated in between, and associations come and go. What the server hands to a
target goes back to one datagram that has arrived at the relay of the association it is sent for,
and what a relay hands to an application goes back to one datagram of a target to which the server
has sent for this association. An IP datagram is the same at both ends. A datagram for a domain
loses the first byte of its payload.
-/
namespace Overplus.Verif.DatagramPath

open Client ChannelOrder SessionIds Delivery DatagramSources
open Server (DtlsServerSession DtlsEvent DtlsEffect ServerConfig)

section Frames

open UdpFrame FrameDecoding

variable {endpoint : Endpoint} {data domain payload : Bytes} {port : UInt16}
  {parsed : UdpFrame.Parsed} {request : UdpRequest}

/-- The declared length of a frame is its total length, as far as that fits its word. -/
theorem declaredLen_layout {total : Nat} {rest : Bytes}
    (layout : data = be16 magic ++ (be16 (UInt16.ofNat total) ++ rest)) :
    declaredLen data = total % 65536 := by
  have word : ofBe16 (data.getD 2 0) (data.getD 3 0) = UInt16.ofNat total :=
    ofBe16_part (be16 magic) _ layout rfl
  rw [declaredLen, word, UInt16.toNat_ofNat']

/-- What is accepted of a generated IP frame is the frame it was generated from. -/
theorem ip_decoded (small : payload.length ≤ 65535)
    (decoded : parseFresh (generate endpoint payload) = .ok parsed)
    (accepted : parsed.accepted = true) :
    parsed.frame =
      ⟨kindOf endpoint.address, endpoint.address.toBytes, endpoint.port, payload⟩ := by
  have around := overhead_eq endpoint.address
  have family := family_cases endpoint.address
  have layout := generate_eq endpoint payload
  generalize generate endpoint payload = data at layout decoded
  generalize endpoint.address.toBytes = octets at around family layout ⊢
  generalize kindOf endpoint.address = kind at family layout ⊢
  rw [around] at layout
  have typed : data.getD 4 0 = kind := by
    rw [layout]
    rfl
  have declared := declaredLen_layout layout
  by_cases header : HeaderOk data
  · by_cases room : 7 + octets.length ≤ declaredLen data
    · have run := parse_fixed {} 0 header kind octets.length family typed room
      have whole : data.length = 7 + octets.length + payload.length := by
        rw [layout]
        simp only [List.length_append, List.length_cons, be16_length]
        omega
      -- The declared bytes are all bytes, and they can be read in one way only.
      have exact : declaredLen data = data.length := by omega
      have parts := fixed_layout octets.length header.2.2.2 room
      rw [exact, List.take_length, typed] at parts
      have same := parts.symm.trans layout
      have front : data.take headerSize = be16 magic ++ be16
          (UInt16.ofNat (7 + octets.length + payload.length)) := by
        rw [layout]
        rfl
      rw [front, List.append_assoc] at same
      have behind : (data.drop 5).take octets.length ++
          (be16 (ofBe16 (data.getD (5 + octets.length) 0) (data.getD (5 + octets.length + 1) 0)) ++
            (data.drop (7 + octets.length)).take (data.length - (7 + octets.length))) =
          octets ++ (be16 endpoint.port ++ payload) :=
        (List.cons.inj (List.append_cancel_left (List.append_cancel_left same))).2
      have size : ((data.drop 5).take octets.length).length = octets.length := by
        rw [List.length_take, List.length_drop]
        omega
      obtain ⟨address, others⟩ := List.append_inj behind size
      obtain ⟨port, bytes⟩ := List.append_inj others rfl
      obtain rfl := Except.ok.inj (run.symm.trans decoded)
      rw [exact, address, be16_injective port, bytes]
    · have other {kind : UInt8} (different : data.getD 4 0 ≠ kind) (bound : Nat)
          (is : data.getD 4 0 = kind) : declaredLen data < bound := absurd is different
      have short : ∃ left, parseFresh data = .ok ⟨false, left, 0, false⟩ := by
        rcases family with ⟨rfl, size⟩ | ⟨rfl, size⟩
        · exact parse_unaccepted {} 0 header (fun _ => by omega)
            (other (by rw [typed]; decide) _) (other (by rw [typed]; decide) _)
        · exact parse_unaccepted {} 0 header (other (by rw [typed]; decide) _)
            (other (by rw [typed]; decide) _) (fun _ => by omega)
      obtain ⟨left, refused⟩ := short
      obtain rfl := Except.ok.inj (refused.symm.trans decoded)
      cases accepted
  · obtain rfl := Except.ok.inj ((parse_refused header).symm.trans decoded)
    cases accepted

/-- What is accepted of a generated domain frame has lost the first byte of its payload. -/
theorem domain_decoded (short : domain.length ≤ 255)
    (small : domain.length + payload.length ≤ 65535)
    (decoded : parseFresh (generateDomain domain port payload) = .ok parsed)
    (accepted : parsed.accepted = true) :
    parsed.frame = ⟨addrDomain, domain, port, payload.tail⟩ := by
  have layout := generateDomain_eq domain port payload
  have shape (fits : 8 + domain.length + payload.length ≤ 65535) :=
    generateDomain_domainFrame port [] short fits
  rw [List.append_nil] at shape
  generalize generateDomain domain port payload = data at layout decoded shape
  have typed : data.getD 4 0 = addrDomain := by
    rw [layout]
    rfl
  have length : (data.getD 5 0).toNat = domain.length := by
    have fifth : data.getD 5 0 = UInt8.ofNat domain.length := by
      rw [layout]
      rfl
    rw [fifth, UInt8.toNat_ofNat']
    exact Nat.mod_eq_of_lt (by omega)
  have declared := declaredLen_layout layout
  by_cases header : HeaderOk data
  · by_cases room : 8 + domain.length ≤ declaredLen data
    · have run := @parse_domain data {} 0 header typed (by omega)
      rw [length] at run
      split at run
      · cases run.symm.trans decoded
      · obtain rfl := Except.ok.inj (run.symm.trans decoded)
        let front := be16 magic ++ (be16 (UInt16.ofNat (8 + domain.length + payload.length)) ++
          [addrDomain, UInt8.ofNat domain.length])
        have parts : data = (front ++ domain) ++ (be16 port ++ payload) := by
          rw [layout]
          simp only [front, List.append_assoc, List.cons_append, List.nil_append]
        have address : (data.drop 6).take domain.length = domain := by
          rw [parts, List.append_assoc]
          exact List.take_left
        have size : (front ++ domain).length = 6 + domain.length := List.length_append
        have word : ofBe16 (data.getD (6 + domain.length) 0) (data.getD (6 + domain.length + 1) 0) =
            port := ofBe16_part (front ++ domain) port parts size.symm
        have bytes : data.drop (9 + domain.length) = payload.tail := by
          have behind : (front ++ domain ++ be16 port).length = 8 + domain.length := by
            rw [List.length_append, size, be16_length]
            omega
          rw [show 9 + domain.length = 8 + domain.length + 1 by omega, ← List.drop_drop, parts,
            ← List.append_assoc, List.drop_left' behind, List.drop_one]
        have rest : payload.tail.length ≤ declaredLen data - (9 + domain.length) := by
          rw [List.length_tail]
          omega
        rw [address, word, bytes, List.take_of_length_le rest]
    · have other {kind : UInt8} (different : data.getD 4 0 ≠ kind) (bound : Nat)
          (is : data.getD 4 0 = kind) : declaredLen data < bound := absurd is different
      obtain ⟨left, refused⟩ := parse_unaccepted {} 0 header (other (by rw [typed]; decide) _)
        (fun _ => by omega) (other (by rw [typed]; decide) _)
      obtain rfl := Except.ok.inj (refused.symm.trans decoded)
      cases accepted
  · obtain rfl := Except.ok.inj ((parse_refused header).symm.trans decoded)
    cases accepted

/-- The endpoint of an IP frame is the endpoint it was generated for. -/
theorem frameEndpoint_ip (endpoint : Endpoint) (payload : Bytes) :
    DtlsServerSession.frameEndpoint
      ⟨kindOf endpoint.address, endpoint.address.toBytes, endpoint.port, payload⟩ = endpoint := by
  obtain ⟨address, port⟩ := endpoint
  cases address with
  | v4 bytes =>
    have word : be32 (wordAt bytes.val 0) = bytes.val := by
      have split := @drop_wordAt bytes.val 0 (by rw [bytes.property])
      have none : bytes.val.drop (0 + 4) = [] := List.drop_eq_nil_of_le (by rw [bytes.property])
      rw [none, List.append_nil] at split
      exact split.symm
    have same : Address.ofWord (wordAt bytes.val 0) = .v4 bytes :=
      congrArg Address.v4 (Subtype.ext word)
    exact congrArg (Endpoint.mk · port) same
  | v6 bytes =>
    have copied : FixedBytes.copy 16 bytes.val = bytes :=
      Subtype.ext (List.take_left' bytes.property)
    exact congrArg (fun address => Endpoint.mk (.v6 address) port) copied

/-- What a decoded SOCKS5 datagram holds, by its address type. -/
theorem request_sizes (read : UdpRequest.parse data = some request)
    (small : data.length ≤ 65535) :
    (request.addrType = 0x01 ∨ request.addrType = 0x04) ∧ request.payload.length ≤ 65535 ∨
      request.addrType = 0x03 ∧ request.dstAddr.length ≤ 255 ∧
        request.dstAddr.length + request.payload.length ≤ 65535 := by
  unfold UdpRequest.parse at read
  dsimp only at read
  have fourth := (data.getD 4 0).toNat_lt
  split_ifs at read with _ _ v4 _ domain _ _ v6 _
  all_goals obtain rfl := Option.some.inj read
  · refine .inl ⟨.inl v4, ?_⟩
    simp only [UdpRequest.parseAddress, List.length_drop]
    omega
  · refine .inr ⟨domain, ?_, ?_⟩
    · simp only [UdpRequest.parseAddress, List.length_take]
      omega
    · simp only [UdpRequest.parseAddress, List.length_take, List.length_drop]
      omega
  · refine .inl ⟨.inr v6, ?_⟩
    simp only [UdpRequest.parseAddress, List.length_drop]
    omega

/-- **What the server decodes of a relay's frame.** The frame of an IP datagram names its target
and has its payload. The frame of a datagram for a domain has lost the first byte. -/
theorem frameOf_decoded (read : UdpRequest.parse data = some request)
    (small : data.length ≤ 65535)
    (decoded : parseFresh (UdpRelay.frameOf request) = .ok parsed)
    (accepted : parsed.accepted = true) :
    if request.addrType = 0x03 then
      parsed.frame = ⟨addrDomain, request.dstAddr, request.dstPort, request.payload.tail⟩
    else parsed.frame.addrType ≠ addrDomain ∧
      DtlsServerSession.frameEndpoint parsed.frame = request.destEndpoint ∧
      parsed.frame.payload = request.payload := by
  rcases request_sizes read small with ⟨ip, bytes⟩ | ⟨domain, short, bytes⟩
  · have other : request.addrType ≠ 0x03 := by rcases ip with v4 | v6 <;> simp [*]
    rw [UdpRelay.frameOf, if_neg other] at decoded
    rw [if_neg other, ip_decoded bytes decoded accepted]
    refine ⟨?_, frameEndpoint_ip _ _, rfl⟩
    change kindOf request.destEndpoint.address ≠ addrDomain
    rcases family_cases request.destEndpoint.address with ⟨kind, -⟩ | ⟨kind, -⟩
    · rw [kind]
      decide
    · rw [kind]
      decide
  · rw [UdpRelay.frameOf, if_pos domain] at decoded
    rw [if_pos domain]
    exact domain_decoded short bytes decoded accepted

end Frames

section Server

variable {sha224 : Bytes → Bytes} {config : ServerConfig} {session next : DtlsServerSession}
  {event : DtlsEvent} {record : Bytes}

/-- **Records carry datagrams of targets.** An event writes a record for a datagram of a target
only. -/
theorem record_cases (stepped : session.step sha224 config event = some next)
    (member : .record record ∈ next.trace) :
    .record record ∈ session.trace ∨ ∃ sender data answers,
      event = .completed .targetReceive (.received sender data) answers ∧
        record = session.replyRecord sender data := by
  have adds : DtlsServerSession.Adds (fun effect => effect = .record record →
      ∃ sender data answers,
        event = .completed .targetReceive (.received sender data) answers ∧
          record = session.replyRecord sender data) session next := by
    refine DtlsServerSession.step_adds ?_ ?_ ?_ stepped
    · rintro effect other rfl
      cases other
    · intro answers read isEvent isRead same
      cases same
    · rintro sender data answers isEvent same
      exact ⟨sender, data, answers, isEvent, (DtlsEffect.record.inj same).symm⟩
  obtain ⟨effects, trace, each⟩ := adds
  rw [trace] at member
  rcases List.mem_append.mp member with old | new
  · exact .inl old
  · exact .inr (each _ new rfl)

/-- What a target sends fits a datagram. -/
theorem received_small {sender : Endpoint} {data : Bytes} {answers : Server.Answers}
    (stepped : session.step sha224 config
      (.completed .targetReceive (.received sender data) answers) = some next) :
    data.length ≤ 65535 := by
  unfold DtlsServerSession.step at stepped
  split at stepped
  · cases stepped
  dsimp only at stepped
  split at stepped
  · rename_i enabled
    exact of_decide_eq_true enabled.2
  · cases stepped

end Server

section Joined

variable {sha224 : Bytes → Bytes} {serverConfig : ServerConfig} {config : ClientConfig}
  {past : List LinkEvent} {link next : Link} {event : LinkEvent} {client : Process}
  {server : DtlsServerSession} {number : Nat} {relay old : UdpRelay} {frame : UdpFrame}
  {app sender : Endpoint} {packet data : Bytes}

/-- The events of the client. -/
def clientEvents (past : List LinkEvent) : List Client.Event :=
  past.filterMap fun event => match event with
    | .client event => some event
    | .server _ => none

/-- A datagram of a target was received. -/
def Received (past : List LinkEvent) (sender : Endpoint) (data : Bytes) : Prop :=
  data.length ≤ 65535 ∧
    ∃ answers, .server (.completed .targetReceive (.received sender data) answers) ∈ past

/-- What was received stays received. -/
theorem Received.mono (received : Received past sender data) (event : LinkEvent) :
    Received (past ++ [event]) sender data := by
  obtain ⟨small, answers, member⟩ := received
  exact ⟨small, answers, List.mem_append_left _ member⟩

/-- A datagram for an application was made of a frame that was handed to its relay. -/
def Returned (client : Process) (sid : UInt16) (frame : UdpFrame) (packet : Bytes) : Prop :=
  packet = (UdpRelay.response frame).serialize ∧ ∃ bytes parsed,
    (sid, bytes) ∈ client.handedTo ∧ UdpFrame.parseFresh bytes = .ok parsed ∧
      parsed.accepted = true ∧ parsed.frame = frame

/-- What goes either way has its source at the other end. -/
structure Traceable (config : ClientConfig) (past : List LinkEvent) (link : Link) : Prop where
  /-- Both sides are in order. -/
  justified : Justified config link
  /-- What the client has sent comes from datagrams of applications. -/
  provenance : Provenance (clientEvents past) link.client
  /-- Records for the client carry datagrams of targets. -/
  records : ∀ record, .record record ∈ link.server.trace → ∃ sid sender data,
    record = be16 sid ++ UdpFrame.generate sender data ∧ Received past sender data
  /-- Frames handed to relays are those of datagrams of targets. -/
  handed : ∀ entry ∈ link.client.handedTo, ∃ sender data,
    entry.2 = UdpFrame.generate sender data ∧ Received past sender data
  /-- Replies go to those who have written, and are made of such frames. -/
  replied : ∀ number relay frame app packet, link.client.relay? number = some relay →
    .replied frame app packet ∈ relay.trace →
      Wrote (clientEvents past) number app ∧ Returned link.client relay.sessionId frame packet

/-- A changed relay has the id it had. -/
theorem change_sessionId {before after : Process} {event : Client.Event}
    (change : Change before event after number old relay) : relay.sessionId = old.sessionId := by
  cases change with
  | carried same => exact same.sessionId
  | arrived sender data small own => rfl
  | handled data held => exact UdpRelay.onReceiveLocal_sessionId
  | delivered bytes parsed handed decoded accepted => rfl

/-- What a relay sends to an application: it was sent before, or the relay has turned a frame
into a datagram for whoever it has for the frame's source. -/
theorem change_replied {before after : Process} {event : Client.Event}
    (change : Change before event after number old relay)
    (member : .replied frame app packet ∈ relay.trace) :
    .replied frame app packet ∈ old.trace ∨
      (Returned after old.sessionId frame packet ∧ relay = old.deliver frame ∧
        app = (old.targetToSender (UdpRelay.targetKey frame.address frame.port)).getD
          old.senderEp) := by
  cases change with
  | carried same =>
    rw [same.trace] at member
    exact .inl member
  | arrived sender data small own =>
    rcases List.mem_append.mp member with earlier | new
    · exact .inl earlier
    · cases List.mem_singleton.mp new
  | handled data held =>
    rcases UdpRelay.onReceiveLocal_cases old data before.ready with
      ⟨receive, same⟩ | ⟨request, -, -, same⟩
    · rw [same] at member
      exact .inl member
    · have trace : (old.forward request before.ready).1.doReceiveLocal.trace =
          old.trace ++ [.handled old.senderEp request] := by
        cases before.ready <;> rfl
      rw [same] at member
      dsimp only at member
      rw [trace] at member
      rcases List.mem_append.mp member with earlier | new
      · exact .inl earlier
      · cases List.mem_singleton.mp new
  | delivered bytes parsed handed decoded accepted =>
    rcases List.mem_append.mp member with earlier | new
    · exact .inl earlier
    · obtain ⟨rfl, rfl, rfl⟩ := RelayEffect.replied.inj (List.mem_singleton.mp new)
      exact .inr ⟨⟨rfl, bytes, parsed, handed, decoded, accepted, rfl⟩, rfl, rfl⟩

/-- A relay to which a frame was handed has handled a datagram. -/
theorem handled_of_handed (justified : Justified config link) {bytes : Bytes}
    (present : link.client.relay? number = some relay)
    (handed : (relay.sessionId, bytes) ∈ link.client.handedTo) :
    ∃ sender request, .handled sender request ∈ relay.trace := by
  obtain ⟨endpoint, data, payload, -, sent⟩ := justified.handed _ _ handed
  obtain ⟨frame, ⟨packet, parsed, among, -⟩, -⟩ := justified.traced.sends _ _ _ sent
  have passes : packet.drop 2 ∈ passed link.client relay.sessionId := by
    refine List.mem_map.mpr ⟨(relay.sessionId, packet), List.mem_filter.mpr ⟨among, ?_⟩, rfl⟩
    exact decide_eq_true rfl
  have accepted : packet.drop 2 ∈ acceptedFrames relay.trace := by
    rw [← justified.settled.ordered.queues number relay present]
    exact List.mem_append_left _ passes
  obtain ⟨effect, member, same⟩ := List.mem_filterMap.mp accepted
  cases effect with
  | handled sender request => exact ⟨sender, request, member⟩
  | arrived sender data => cases same
  | replied frame app packet => cases same

/-- An event of the client. -/
theorem Traceable.clientStep {event : Client.Event} (traceable : Traceable config past link)
    (few : client.server.allocated < 65535)
    (reads : ∀ op failed answers record, event = .channel op failed answers →
      answers.read = some record → .record record ∈ link.server.trace)
    (stepped : link.client.step config event = some client) :
    Traceable config (past ++ [.client event]) { link with client } := by
  have ordered := traceable.justified.settled.ordered
  have justified := traceable.justified.clientStep few reads stepped
  have events : clientEvents (past ++ [.client event]) = clientEvents past ++ [event] :=
    List.filterMap_append
  have provenance := traceable.provenance.step ordered.consistent ordered.counter stepped
  obtain ⟨-, hands⟩ := Process.step_hands stepped
  have kept : link.client.handedTo ⊆ client.handedTo := by
    rcases hands with same | ⟨_, _, _, _, -, -, _, _, -, -, more⟩
    · rw [same]
      exact List.Subset.refl _
    · rw [more]
      exact List.subset_append_left _ _
  refine ⟨justified, events ▸ provenance, ?_, ?_, ?_⟩
  · intro record member
    obtain ⟨sid, sender, data, same, received⟩ := traceable.records record member
    exact ⟨sid, sender, data, same, received.mono _⟩
  · intro entry member
    rcases hands with same | ⟨op, failed, answers, record, isEvent, read, -, relay, -, -, more⟩
    · rw [same] at member
      obtain ⟨sender, data, bytes, received⟩ := traceable.handed entry member
      exact ⟨sender, data, bytes, received.mono _⟩
    · rw [more] at member
      rcases List.mem_append.mp member with old | new
      · obtain ⟨sender, data, bytes, received⟩ := traceable.handed entry old
        exact ⟨sender, data, bytes, received.mono _⟩
      · obtain rfl := List.mem_singleton.mp new
        obtain ⟨sid, sender, data, rfl, received⟩ :=
          traceable.records record (reads op failed answers record isEvent read)
        exact ⟨sender, data, rfl, received.mono _⟩
  · intro number relay frame app packet present member
    rcases (step_effects ordered.consistent stepped).relays number relay present with
      ⟨old, isOld, change⟩ | ⟨-, sid, rfl⟩
    · rw [change_sessionId change, events]
      rcases change_replied change member with earlier | ⟨returned, delivered, chosen⟩
      · obtain ⟨wrote, same, bytes, parsed, handed, rest⟩ :=
          traceable.replied number old frame app packet isOld earlier
        exact ⟨wrote.mono event, same, bytes, parsed, kept handed, rest⟩
      · refine ⟨?_, returned⟩
        have sourced := traceable.provenance.relays number old isOld
        cases entry : old.targetToSender (UdpRelay.targetKey frame.address frame.port) with
        | some held =>
          rw [entry] at chosen
          obtain rfl : app = held := chosen
          exact (sourced.table _ app entry).mono event
        | none =>
          -- The sender has written, since the reply is one to a datagram of this relay.
          rw [entry] at chosen
          obtain rfl : app = old.senderEp := chosen
          obtain ⟨-, bytes, parsed, handed, -⟩ := returned
          rw [← change_sessionId change] at handed
          obtain ⟨sender, request, known⟩ := handled_of_handed justified present handed
          have wrote := (provenance.relays number relay present).sender sender request known
          rw [delivered] at wrote
          exact wrote
    · cases member

/-- An event of the session. -/
theorem Traceable.serverStep {event : DtlsEvent} (traceable : Traceable config past link)
    (unframed : PasswordUnframed config)
    (reads : ∀ answers record, event = .datagram answers → answers.read = .data record →
      record ∈ link.written)
    (stepped : link.server.step sha224 serverConfig event = some server) :
    Traceable config (past ++ [.server event]) { link with server } := by
  have events : clientEvents (past ++ [.server event]) = clientEvents past :=
    List.filterMap_append.trans (List.append_nil _)
  refine ⟨traceable.justified.serverStep unframed reads stepped, events ▸ traceable.provenance,
    ?_, ?_, events ▸ traceable.replied⟩
  · intro record member
    rcases record_cases stepped member with
      old | ⟨sender, data, answers, rfl, rfl⟩
    · obtain ⟨sid, sender, data, same, received⟩ := traceable.records record old
      exact ⟨sid, sender, data, same, received.mono _⟩
    · refine ⟨_, sender, data, rfl, received_small stepped, answers, ?_⟩
      exact List.mem_append_right _ (List.mem_singleton_self _)
  · intro entry member
    obtain ⟨sender, data, bytes, received⟩ := traceable.handed entry member
    exact ⟨sender, data, bytes, received.mono _⟩

/-- **Step.** Every event keeps everything traceable, while ids remain. -/
theorem Traceable.step (traceable : Traceable config past link) (unframed : PasswordUnframed config)
    (few : next.client.server.allocated < 65535)
    (stepped : link.step sha224 serverConfig config event = some next) :
    Traceable config (past ++ [event]) next := by
  cases step_move stepped with
  | client reads moved => exact traceable.clientStep few reads moved
  | server reads moved => exact traceable.serverStep unframed reads moved

/-- Before the first event nothing was sent. -/
theorem traceable_start (config : ClientConfig) (clientSsl serverSsl : Bool) :
    Traceable config [] (.start config clientSsl serverSsl) where
  justified := justified_start config clientSsl serverSsl
  provenance := ⟨fun _ => Nat.le_refl _, fun _ _ _ given => absurd rfl given,
    fun _ _ present => (by cases present), fun _ member => (by cases member)⟩
  records _ member := by cases DtlsServerSession.created_quiet member
  handed _ member := by cases member
  replied _ _ _ _ _ present := by cases present

/-- Every run is traceable, while ids remain. -/
theorem run_traceable {clientSsl serverSsl : Bool} {events : List LinkEvent}
    (unframed : PasswordUnframed config)
    (ran : run (Link.step sha224 serverConfig config) (.start config clientSsl serverSsl) events =
      some link)
    (few : link.client.server.allocated < 65535) : Traceable config events link := by
  have held := @run_history _ _ _ _ _ _
    (fun past state => state.client.server.allocated < 65535 → Traceable config past state) []
    (by
      intro past state event next held stepped few
      exact (held (Nat.lt_of_le_of_lt (step_allocated stepped) few)).step unframed few stepped)
    (fun _ => traceable_start config clientSsl serverSsl) ran
  exact held few

end Joined

/-- The password of the sample exchange is too short for a frame. -/
theorem sample_unframed : PasswordUnframed { textPassword := [0x70] } := by
  intro parsed decoded
  have refused : UdpFrame.parseFresh [] = .ok ⟨false, {}, 0, false⟩ := by decide +kernel
  obtain rfl := Except.ok.inj (refused.symm.trans decoded)
  rfl

/-- The reply of the sample exchange, as its relay sends it. -/
def sampleReply : RelayEffect :=
  .replied ⟨UdpFrame.addrIpv4, [8, 8, 8, 8], 53, [7]⟩ .unspecified
    [0, 0, 0, 1, 8, 8, 8, 8, 0, 53, 7]

/-- An application asks 8.8.8.8 and is answered. -/
theorem sample_runs : ∃ link relay,
    run (Link.step id ⟨[[0x70]]⟩ { textPassword := [0x70] })
        (.start { textPassword := [0x70] } true true)
        (exchange [0x70, 10] packet (target 8)) = some link ∧
      link.client.server.allocated < 65535 ∧
      .sendToTarget (target 8) [1] 1 ∈ link.server.trace ∧
      link.client.relay? 0 = some relay ∧ sampleReply ∈ relay.trace := by
  have checked : (run (Link.step id ⟨[[0x70]]⟩ { textPassword := [0x70] })
      (.start { textPassword := [0x70] } true true) (exchange [0x70, 10] packet (target 8))).any
        (fun link => decide (link.client.server.allocated < 65535 ∧
          .sendToTarget (target 8) [1] 1 ∈ link.server.trace ∧
          (link.client.relay? 0).any (fun relay => decide (sampleReply ∈ relay.trace)) =
            true)) = true := by decide +kernel
  obtain ⟨link, ran, good⟩ := exists_of_run checked
  obtain ⟨few, sent, replied⟩ := of_decide_eq_true good
  obtain ⟨relay, present, member⟩ := (Option.any_eq_true _ _).mp replied
  exact ⟨link, relay, ran, few, sent, present, of_decide_eq_true member⟩

/-- **What targets get.** In every run of a client and its DTLS session, with fewer than 65535 ids
allocated and a password that is not a frame, each datagram that the server sends for an
association goes back to a datagram that has arrived at the relay of the one session with this id.
If the application named an IP address, target and payload are the application's. If it named a
domain, this domain was resolved, and the payload lacks its first byte. -/
theorem uplink_traced (sha224 : Bytes → Bytes) (serverConfig : ServerConfig)
    (config : ClientConfig) (clientSsl serverSsl : Bool) (events : List LinkEvent) (link : Link)
    (unframed : PasswordUnframed config)
    (ran : run (Link.step sha224 serverConfig config) (.start config clientSsl serverSsl) events =
      some link)
    (few : link.client.server.allocated < 65535)
    (endpoint : Endpoint) (payload : Bytes) (sid : UInt16)
    (sent : .sendToTarget endpoint payload sid ∈ link.server.trace) :
    ∃ number request, (∀ other, idAt link.client other = sid ↔ other = number) ∧
      Asked (clientEvents events) number request ∧
      if request.addrType = 0x03 then
        .resolveAndSend request.dstAddr request.dstPort payload sid ∈ link.server.trace ∧
          payload = request.payload.tail
      else endpoint = request.destEndpoint ∧ payload = request.payload := by
  have traceable := run_traceable unframed ran few
  obtain ⟨frame, ⟨packet, parsed, among, decoded, accepted, rfl⟩, -, same, target⟩ :=
    traceable.justified.traced.sends endpoint payload sid sent
  obtain ⟨number, request, nonzero, own, asked, bytes⟩ := traceable.provenance.sent _ among
  dsimp only at nonzero own bytes
  refine ⟨number, request, ?_, asked, ?_⟩
  · intro other
    constructor
    · intro equal
      refine traceable.provenance.unique other number (equal.trans own.symm) ?_
      rwa [equal]
    · rintro rfl
      exact own
  · obtain ⟨sender, data, -, small, read⟩ := asked
    rw [bytes] at decoded
    have exact := frameOf_decoded read small decoded accepted
    split at exact
    · rw [if_pos ‹_›]
      rw [exact] at same target
      exact ⟨by simpa [UdpFrame.addrDomain] using target, same.symm⟩
    · rw [if_neg ‹_›]
      rw [if_neg exact.1] at target
      exact ⟨target.trans exact.2.1, same.symm.trans exact.2.2⟩

/-- The datagram for 8.8.8.8 goes back to the one that has arrived. -/
theorem uplink_traced_sample : ∃ link,
    run (Link.step id ⟨[[0x70]]⟩ { textPassword := [0x70] })
        (.start { textPassword := [0x70] } true true)
        (exchange [0x70, 10] packet (target 8)) = some link ∧
      ∃ number request, (∀ other, idAt link.client other = 1 ↔ other = number) ∧
        Asked (clientEvents (exchange [0x70, 10] packet (target 8))) number request ∧
        if request.addrType = 0x03 then
          .resolveAndSend request.dstAddr request.dstPort [1] 1 ∈ link.server.trace ∧
            [1] = request.payload.tail
        else target 8 = request.destEndpoint ∧ [1] = request.payload := by
  obtain ⟨link, -, ran, few, sent, -⟩ := sample_runs
  exact ⟨link, ran, uplink_traced _ _ _ _ _ _ link sample_unframed ran few _ _ _ sent⟩

/-- **What applications get.** In every run of a client and its DTLS session, with fewer than 65535
ids allocated and a password that is not a frame, each datagram that a relay sends to an
application goes back to a datagram of a target to which the server had sent for this relay: the
frame it is made of holds that target and the datagram's payload. The application has written to
this relay, and a datagram of an IPv4 target reaches it with its true source and payload. -/
theorem downlink_traced (sha224 : Bytes → Bytes) (serverConfig : ServerConfig)
    (config : ClientConfig) (clientSsl serverSsl : Bool) (events : List LinkEvent) (link : Link)
    (unframed : PasswordUnframed config)
    (ran : run (Link.step sha224 serverConfig config) (.start config clientSsl serverSsl) events =
      some link)
    (few : link.client.server.allocated < 65535) (number : Nat) (relay : UdpRelay)
    (present : link.client.relay? number = some relay) (frame : UdpFrame) (app : Endpoint)
    (packet : Bytes) (replied : .replied frame app packet ∈ relay.trace) :
    Wrote (clientEvents events) number app ∧ ∃ sender data, Received events sender data ∧
      (∃ payload, .sendToTarget sender payload relay.sessionId ∈ link.server.trace) ∧
      frame = ⟨FrameDecoding.kindOf sender.address, sender.address.toBytes, sender.port, data⟩ ∧
      packet = (UdpRelay.response frame).serialize ∧
      (sender.address.isV4 = true → UdpRequest.parse packet = some
        { addrType := 0x01, dstAddr := sender.address.toBytes, dstPort := sender.port,
          payload := data }) := by
  have traceable := run_traceable unframed ran few
  obtain ⟨wrote, rfl, bytes, parsed, handed, decoded, accepted, rfl⟩ :=
    traceable.replied number relay frame app packet present replied
  obtain ⟨sender, data, isFrame, received⟩ := traceable.handed _ handed
  obtain ⟨endpoint, other, payload, again, sent⟩ := traceable.justified.handed _ _ handed
  obtain rfl : bytes = UdpFrame.generate sender data := isFrame
  obtain rfl := UdpFrame.generate_endpoint again
  have exact := ip_decoded received.1 decoded accepted
  refine ⟨wrote, sender, data, received, ⟨payload, sent⟩, exact, rfl, ?_⟩
  intro v4
  rw [exact]
  obtain ⟨address, port⟩ := sender
  cases address with
  | v4 octets => exact RelayReplies.parse_serialize_ipv4 octets.property
  | v6 octets => cases v4

/-- The reply of 8.8.8.8 goes back to the target's datagram. -/
theorem downlink_traced_sample : ∃ link relay,
    run (Link.step id ⟨[[0x70]]⟩ { textPassword := [0x70] })
        (.start { textPassword := [0x70] } true true)
        (exchange [0x70, 10] packet (target 8)) = some link ∧
      link.client.relay? 0 = some relay ∧
      Wrote (clientEvents (exchange [0x70, 10] packet (target 8))) 0 .unspecified ∧
      ∃ sender data, Received (exchange [0x70, 10] packet (target 8)) sender data ∧
        (∃ payload, .sendToTarget sender payload relay.sessionId ∈ link.server.trace) ∧
        (⟨0x01, [8, 8, 8, 8], 53, [7]⟩ : UdpFrame) =
          ⟨FrameDecoding.kindOf sender.address, sender.address.toBytes, sender.port, data⟩ ∧
        [0, 0, 0, 1, 8, 8, 8, 8, 0, 53, 7] =
          (UdpRelay.response ⟨0x01, [8, 8, 8, 8], 53, [7]⟩).serialize ∧
        (sender.address.isV4 = true →
          UdpRequest.parse [0, 0, 0, 1, 8, 8, 8, 8, 0, 53, 7] = some
            { addrType := 0x01, dstAddr := sender.address.toBytes, dstPort := sender.port,
              payload := data }) := by
  obtain ⟨link, relay, ran, few, -, present, replied⟩ := sample_runs
  exact ⟨link, relay, ran, present, downlink_traced _ _ _ _ _ _ link sample_unframed ran few 0 relay
    present _ _ _ replied⟩

end Overplus.Verif.DatagramPath
