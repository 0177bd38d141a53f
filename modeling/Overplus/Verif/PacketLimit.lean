import Overplus.Verif.UdpBuffer

/-!
# The length limit of the Trojan UDP mode

A session gives up on a client when more bytes than one read holds are unparsed and no packet
is complete. The limit is compared with the whole encoding, address and length included, so
it is below the longest valid packet: a stream of valid packets is never rejected, however it
is cut into reads, exactly when each of them has at most one byte more than a read.
-/
namespace Overplus.Verif.PacketLimit

open Server UdpBuffer

/-- A valid packet of a client: where it goes, and a payload that fits a datagram. -/
structure ValidPacket where
  /-- Where it goes. -/
  address : WireAddress
  /-- The datagram. -/
  payload : { payload : Bytes // payload.length ≤ 65507 }

namespace ValidPacket

/-- The packet on the wire. -/
def bytes (packet : ValidPacket) : Bytes :=
  packet.address.bytes ++ UDPPacket.tail packet.payload.val

/-- What the packet is parsed to. -/
def parsed (packet : ValidPacket) : UDPPacket where
  address := packet.address.parsed
  length := UInt16.ofNat packet.payload.val.length
  payload := packet.payload.val

/-- A packet is parsed whole. -/
theorem parse_bytes (packet : ValidPacket) :
    UDPPacket.parse packet.bytes = some (packet.parsed, packet.bytes.length) := by
  have whole := packet.address.parse_bytes []
  rw [List.append_nil] at whole
  have small := packet.payload.property
  exact UDPPacket.parse_tail whole (by omega)

/-- A packet has bytes. -/
theorem bytes_ne_nil (packet : ValidPacket) : packet.bytes ≠ [] := by
  have positive := (UDPPacket.parse_spec packet.parse_bytes).1
  exact List.length_pos_iff.mp positive

/-- The length of a packet for a name. -/
theorem length_domainName (name : DomainName) (port : UInt16)
    (payload : { payload : Bytes // payload.length ≤ 65507 }) :
    (⟨.domainName name port, payload⟩ : ValidPacket).bytes.length =
      name.val.length + payload.val.length + 8 := by
  simp only [bytes, WireAddress.bytes, WireAddress.host, UDPPacket.tail, crlf, be16_length,
    List.length_append, List.length_cons, List.length_nil]
  omega

/-- A proper beginning of a packet is no packet. -/
theorem parse_part (packet : ValidPacket) {part rest : Bytes} (split : packet.bytes = part ++ rest)
    (proper : rest ≠ []) : UDPPacket.parse part = none := by
  have delimiting : SelfDelimiting UDPPacket.parse := TrojanUdp.parse_selfDelimiting
  have whole := packet.parse_bytes
  rw [split] at whole
  exact delimiting.parse_part whole proper

end ValidPacket

/-- What a step reads of the client's packets: the payload of the request, or a chunk. -/
def streamBytes (event : Event) : Bytes :=
  match event.op, event.result with
  | .firstRead, .read data => (TrojanReq.parse {} data).2.payload
  | .udpFirstRead, .read data => data
  | .udpRead, .read data => data
  | _, _ => []

/-- The client's packets as far as they were read. -/
def clientStream (events : List Event) : Bytes := events.flatMap streamBytes

/-- The session that a step hands to `handle_trojan_udp_proxy` or to the client read handler of
`udp_async_bidirectional_read`, if it comes to one of them. -/
def holding (config : ServerConfig) (session : Session) (event : Event) : Option Session :=
  let session := session.complete event.op
  match event.op, event.result with
  | .firstRead, .read data =>
    let session := (session.fill .down data).emit (.firstMessage data)
    let request := session.trojanReq.parse (session.inBuf.take data.length)
    let parsed := session.takeTrojanReq request.2
    if VRequest.isVProtocol session.inBuf = false ∧ request.1 ≠ -1 ∧
        parsed.password ∈ config.allowedPasswords ∧ parsed.vprotocol = false ∧
        parsed.trojanReq.command = some .udpAssociate then
      some { parsed with upstreamUdpBuff := parsed.trojanReq.payload }
    else none
  | .udpFirstRead, .read data => some ((session.receive .down data).appendUdp data.length)
  | .udpRead, .read data => some ((session.receive .down data).appendUdp data.length)
  | _, _ => none

/-- The step comes to the branch for a packet that is too long. -/
def RejectsPacket (config : ServerConfig) (session : Session) (event : Event) : Prop :=
  ∃ held ∈ holding config session event,
    UDPPacket.parse held.remaining = none ∧ held.tooLong = true

instance (config : ServerConfig) (session : Session) (event : Event) :
    Decidable (RejectsPacket config session event) :=
  inferInstanceAs (Decidable (∃ held ∈ holding config session event, _ ∧ _))

variable {config : ServerConfig} {session next held : Session} {event : Event} {past : List Event}

/-- One more step reads on. -/
theorem clientStream_concat (past : List Event) (event : Event) :
    clientStream (past ++ [event]) = clientStream past ++ streamBytes event := by
  simp [clientStream]

/-- The first message of an allowed UDP client leads to `handle_trojan_udp_proxy`, and the reads
of the UDP mode lead to one of the two functions. -/
theorem step_holding (found : holding config session event = some held)
    (stepped : session.step config event = some next) :
    next = held.handleTrojanUdpProxy event.world ∨ next = held.onUdpRead event.world := by
  obtain ⟨-, -, rfl⟩ := Session.step_some stepped
  obtain ⟨op, result, world⟩ := event
  unfold holding at found
  dsimp only at found ⊢
  split at found
  · split at found
    · rename_i data allowed
      obtain ⟨plain, valid, password, trojan, command⟩ := allowed
      obtain rfl := Option.some.inj found
      left
      simp only [Session.handle, Session.onFirstMessage, plain, Session.authenticate]
      rw [if_neg (by simp), if_pos (by simpa using valid), if_pos password,
        if_pos ⟨trojan, command⟩]
    · cases found
  · exact .inl (by rw [← Option.some.inj found]; rfl)
  · exact .inr (by rw [← Option.some.inj found]; rfl)
  · cases found

/-- **A rejected packet ends the session.** -/
theorem destroyed_of_rejects (rejects : RejectsPacket config session event)
    (stepped : session.step config event = some next) : next.state = .destroy := by
  obtain ⟨held, found, none, long⟩ := rejects
  rcases step_holding found stepped with rfl | rfl
  · exact Session.handleTrojanUdpProxy_tooLong event.world none long
  · exact Session.onUdpRead_tooLong event.world none long

/-- The session handed on holds what was read. -/
theorem holding_holds (found : holding config session event = some held) :
    ∃ data effect buff, event.result = .read data ∧
      (session.complete event.op).packetSource data event.op = some (effect, buff) ∧
      (session.complete event.op).Holds effect buff held := by
  obtain ⟨op, result, world⟩ := event
  unfold holding at found
  dsimp only at found ⊢
  split at found
  · split at found
    · rename_i data _
      refine ⟨data, _, _, rfl, rfl, ?_⟩
      rw [← Option.some.inj found]
      have message : (data ++ (session.complete .firstRead).inBuf.drop data.length).take
          data.length = data := List.take_left
      refine ⟨rfl, rfl, ?_, rfl⟩
      change (session.trojanReq.parse (List.take _ (data ++ _))).2.payload = _
      rw [message]
      rfl
    · cases found
  · rename_i data
    rw [← Option.some.inj found]
    exact ⟨data, _, _, rfl, rfl, Session.receive_holds _ data⟩
  · rename_i data
    rw [← Option.some.inj found]
    exact ⟨data, _, _, rfl, rfl, Session.receive_holds _ data⟩
  · cases found

section Limit

variable {op : Op} {data buff : Bytes} {effect : Effect} {world : World} {result : Result}

/-- Operations that read packets are not of the TCP mode. -/
theorem not_tcp_of_source (source : session.packetSource data op = some (effect, buff)) :
    op.isTcp = false := by
  rcases Session.packetSource_op source with rfl | rfl | rfl <;> rfl

/-- Only reads read packets. -/
theorem streamBytes_not_read (other : ∀ data, result ≠ .read data) :
    streamBytes ⟨op, result, world⟩ = [] := by
  cases result with
  | read data => exact absurd rfl (other data)
  | _ => cases op <;> rfl

/-- The TCP mode reads no packets. -/
theorem streamBytes_tcp (own : op.isTcp = true) : streamBytes ⟨op, result, world⟩ = [] := by
  cases op <;> cases own <;> rfl

/-- While the first message is read nothing else is in flight. -/
theorem pending_firstRead {room : Prop} (stage : Stage room session)
    (reading : .firstRead ∈ session.pending) : session.pending = [.firstRead] := by
  cases stage with
  | greeting greeting =>
    obtain ⟨only, pending, -⟩ := greeting.pending
    rw [pending, List.mem_singleton] at reading
    rw [pending, reading]
  | tcp tcp => cases tcp _ reading
  | udp udp => cases udp.pending _ reading

/-- A session that holds a read has its bytes behind the unparsed ones. -/
theorem holds_remaining {room : Prop} (world : World) (stage : Stage room session)
    (member : op ∈ session.pending)
    (source : (session.complete op).packetSource data op = some (effect, buff))
    (holds : (session.complete op).Holds effect buff held) :
    held.remaining = session.remaining ++ streamBytes ⟨op, .read data, world⟩ := by
  have unparsed : held.remaining = buff.drop session.udpBuffOffset := by
    rw [Session.remaining, holds.buff, holds.offset]
    rfl
  rw [unparsed]
  cases stage with
  | greeting greeting =>
    obtain ⟨⟨empty, start⟩, ⟨only, pending, hello⟩, trojanReq⟩ := greeting
    rw [pending, List.mem_singleton] at member
    subst member
    rcases Session.packetSource_op source with rfl | rfl | rfl
    · obtain ⟨-, rfl⟩ := Prod.mk.inj (Option.some.inj source)
      change List.drop _ (session.trojanReq.parse data).2.payload = _
      rw [Session.remaining, empty, start, trojanReq, List.drop_zero, List.drop_zero]
      rfl
    · cases hello
    · cases hello
  | tcp tcp =>
    have other := not_tcp_of_source source
    rw [tcp op member] at other
    cases other
  | udp udp =>
    rcases Session.packetSource_op source with rfl | rfl | rfl
    · cases udp.pending _ member
    all_goals
      obtain ⟨-, rfl⟩ := Prod.mk.inj (Option.some.inj source)
      exact List.drop_append_of_le_length udp.inside

/-- What was read is parsed packet by packet up to the unparsed bytes. -/
def ParsedUpTo (stream : Bytes) (session : Session) : Prop :=
  ∃ packets, Decoded UDPPacket.parse stream packets session.remaining

/-- Other functions leave what is parsed. -/
theorem ParsedUpTo.goes {stream : Bytes} {records : Effect → Prop} {starts : Op → Prop}
    (parsed : ParsedUpTo stream session) (goes : session.Goes records starts next) :
    ParsedUpTo stream next := by
  have same : next.remaining = session.remaining := by
    rw [Session.remaining, goes.buff, goes.offset]
    rfl
  rwa [ParsedUpTo, same]

/-- Bytes held follow those read before. -/
theorem ParsedUpTo.read {stream more : Bytes} (parsed : ParsedUpTo stream session)
    (unparsed : held.remaining = session.remaining ++ more) : ParsedUpTo (stream ++ more) held := by
  obtain ⟨packets, decoded⟩ := parsed
  refine ⟨packets, ?_⟩
  rw [unparsed]
  exact decoded.append TrojanUdp.parse_selfDelimiting more

/-- Stepping over a packet parses one more. -/
theorem ParsedUpTo.skipPacket {stream : Bytes} (parsed : ParsedUpTo stream held) :
    ParsedUpTo stream held.skipPacket := by
  obtain ⟨packets, decoded⟩ := parsed
  unfold Session.skipPacket
  split
  · exact ⟨packets, decoded⟩
  · rename_i packet len found
    have bounds := UDPPacket.parse_spec found
    rw [Session.remaining, List.length_drop] at bounds
    obtain ⟨buff, offset, advanced, -, dropped⟩ := held.advance_spec len (by omega)
    refine ⟨packets ++ [packet], ?_⟩
    rw [advanced]
    change Decoded _ _ _ (buff.drop offset)
    rw [dropped]
    exact decoded.next found

/-- Where a session stands with respect to the client's packets: it serves a TCP target, or has
parsed them up to the unparsed bytes. -/
structure Follows (past : List Event) (session : Session) : Prop where
  /-- The stage of the buffer. -/
  stage : Stage False session
  /-- What was read is parsed up to the unparsed bytes. -/
  parsed : session.OnlyTcp ∨ ParsedUpTo (clientStream past) session

/-- **One step** parses on from where the client's packets were parsed to. -/
theorem Follows.step (follows : Follows past session)
    (stepped : session.step config event = some next) : Follows (past ++ [event]) next := by
  refine ⟨step_stage follows.stage False.elim stepped, ?_⟩
  obtain ⟨member, admitted, outcome⟩ := Session.step_outcome stepped
  obtain ⟨op, result, world⟩ := event
  rcases follows.parsed with tcp | parsed
  · have rest : (session.complete op).OnlyTcp := fun other left =>
      tcp other (List.mem_of_mem_erase left)
    exact .inl (rest.outcome (tcp op member) outcome)
  rw [clientStream_concat]
  -- Steps that read nothing of the packets leave them parsed as they are.
  have quiet {base : Session} {records : Effect → Prop} {starts : Op → Prop}
      (nothing : streamBytes ⟨op, result, world⟩ = [])
      (goes : base.Goes records starts next) (same : base.remaining = session.remaining) :
      ParsedUpTo (clientStream past ++ streamBytes ⟨op, result, world⟩) next := by
    rw [nothing, List.append_nil]
    have kept : ParsedUpTo (clientStream past) base := by rwa [ParsedUpTo, same]
    exact kept.goes goes
  cases outcome with
  | failed =>
    have goes : (session.complete op).Goes Effect.IsPlain Op.IsUdp (session.complete op).destroy :=
      .destroy
    exact .inr (quiet (streamBytes_not_read (by simp)) goes rfl)
  | @greeted _ later _ greeting =>
    have goes : (session.complete op).Goes Effect.IsPlain (·.isGreeting = true)
        ((session.complete op).await later) := .await greeting
    exact .inr (quiet (streamBytes_not_read (by simp)) goes rfl)
  | tcp own state goes => exact .inr (quiet (streamBytes_tcp own) goes rfl)
  | service state goes =>
    left
    intro other started
    rcases goes.pending started with old | new
    · have alone := pending_firstRead follows.stage member
      change other ∈ session.pending.erase .firstRead at old
      rw [alone] at old
      cases old
    · exact new
  | packet source holds goes ended =>
    have unparsed := holds_remaining world follows.stage member source holds
    exact .inr ((parsed.read unparsed).skipPacket.goes goes)
  | resolved chosen goes => exact .inr (quiet rfl goes rfl)
  | @unresolved first packet key _ none =>
    let completed := session.complete (.udpResolve first packet key)
    have goes : completed.Goes Effect.IsPlain Op.IsUdp completed.destroy := .destroy
    exact .inr (quiet rfl goes rfl)
  | resumed own goes => exact .inr (quiet (streamBytes_not_read (by simp)) goes rfl)
  | replied goes => exact .inr (quiet rfl goes rfl)

/-- Every run parses the client's packets up to the unparsed bytes. -/
theorem run_follows {kind : SessionKind} {events : List Event}
    (ran : run (Session.step config) (Session.start kind) events = some session) :
    Follows events session := by
  have keeps : ∀ past state event next, Follows past state →
      Session.step config state event = some next → Follows (past ++ [event]) next :=
    fun _ _ _ _ follows stepped => follows.step stepped
  have start : Follows [] (Session.start kind) :=
    ⟨.greeting ⟨⟨rfl, rfl⟩, ⟨.handshake, rfl, rfl⟩, rfl⟩, .inr ⟨[], .start []⟩⟩
  have reached := run_history keeps start ran
  rwa [List.nil_append] at reached

/-- Where every packet has at most one byte more than a read, no step rejects one. -/
theorem Follows.not_rejects {packets : List ValidPacket} (follows : Follows past session)
    (member : event.op ∈ session.pending)
    (short : ∀ packet ∈ packets, packet.bytes.length ≤ maxBuffSize + 1)
    (stream : clientStream (past ++ [event]) <+: packets.flatMap ValidPacket.bytes) :
    ¬ RejectsPacket config session event := by
  rintro ⟨held, found, none, long⟩
  obtain ⟨data, effect, buff, read, source, holds⟩ := holding_holds found
  obtain ⟨op, result, world⟩ := event
  subst read
  have parsed : ParsedUpTo (clientStream past) session := by
    rcases follows.parsed with tcp | parsed
    · have other := not_tcp_of_source source
      rw [tcp op member] at other
      cases other
    · exact parsed
  have unparsed := holds_remaining world follows.stage member source holds
  obtain ⟨values, decoded⟩ := parsed.read unparsed
  rw [← clientStream_concat] at decoded
  obtain ⟨more, whole⟩ := stream
  have size : held.remaining.length ≤ maxBuffSize := by
    rcases decoded.rest_lt TrojanUdp.parse_selfDelimiting ValidPacket.bytes ValidPacket.parsed
      ValidPacket.parse_bytes whole none with empty | ⟨packet, listed, less⟩
    · rw [empty]
      exact Nat.zero_le _
    · have limit := short packet listed
      omega
  have exceeds : maxBuffSize < held.upstreamUdpBuff.length - held.udpBuffOffset :=
    of_decide_eq_true long
  rw [Session.remaining, List.length_drop] at size
  omega

end Limit

section Rejection

variable {part data : Bytes}

/-- A live session in UDP mode with some bytes unparsed. -/
structure Live (part : Bytes) (session : Session) : Prop where
  /-- The process runs. -/
  running : session.crashed = false
  /-- The session forwards. -/
  forward : session.state = .forward
  /-- The offset is inside the buffer. -/
  inside : session.udpBuffOffset ≤ session.upstreamUdpBuff.length
  /-- The unparsed bytes. -/
  unparsed : session.remaining = part

/-- A live session that waits for the client. -/
structure Waits (part : Bytes) (session : Session) : Prop extends Live part session where
  /-- The client is read. -/
  reading : .udpFirstRead ∈ session.pending ∨ .udpRead ∈ session.pending

/-- The session with a chunk of the client in its buffer. -/
def withChunk (session : Session) (op : Op) (data : Bytes) : Session :=
  ((session.complete op).receive .down data).appendUdp data.length

/-- Every target is cached and sockets can be opened. -/
def servedWorld : World :=
  { cachedUdp := fun _ => some ⟨.ofWord 0x7f000001, 53⟩, openOk := true }

/-- A live session forwards already. -/
theorem Live.same (live : Live part session) : { session with state := .forward } = session := by
  rw [← live.forward]

/-- Starting an operation keeps a session live. -/
theorem Live.await (live : Live part session) (op : Op) : Live part (session.await op) :=
  ⟨live.running, live.forward, live.inside, live.unparsed⟩

/-- Completing an operation keeps a session live. -/
theorem Live.complete (live : Live part session) (op : Op) : Live part (session.complete op) :=
  ⟨live.running, live.forward, live.inside, live.unparsed⟩

/-- A chunk goes behind the unparsed bytes. -/
theorem Live.read (live : Live part session) (op : Op) (data : Bytes) :
    Live (part ++ data) (withChunk session op data) := by
  have holds := (session.complete op).receive_holds data
  have buff : (withChunk session op data).upstreamUdpBuff =
      session.upstreamUdpBuff ++ data := holds.buff
  have offset : (withChunk session op data).udpBuffOffset = session.udpBuffOffset :=
    holds.offset
  have frame : (withChunk session op data).crashed = session.crashed ∧
      (withChunk session op data).state = session.state := by
    simp only [withChunk, Session.appendUdp, Session.receive, Session.emit, Session.fill,
      Session.complete, and_self]
  refine ⟨frame.1.trans live.running, frame.2.trans live.forward, ?_, ?_⟩
  · rw [buff, offset, List.length_append]
    exact Nat.le_add_right_of_le live.inside
  · rw [Session.remaining, buff, offset, List.drop_append_of_le_length live.inside, ← live.unparsed]
    rfl

/-- The limit is compared with the unparsed bytes. -/
theorem Live.tooLong (live : Live part session) :
    session.tooLong = decide (maxBuffSize < part.length) := by
  rw [Session.tooLong, ← live.unparsed, Session.remaining, List.length_drop]

/-- Behind a packet that ends where the buffer ends nothing is unparsed. -/
theorem Live.advance (live : Live part session) : Live [] (session.advance part.length) := by
  obtain ⟨running, forward, inside, rfl⟩ := live
  have room :
      session.udpBuffOffset + session.remaining.length ≤ session.upstreamUdpBuff.length := by
    rw [Session.remaining, List.length_drop]
    omega
  obtain ⟨buff, offset, advanced, within, dropped⟩ := session.advance_spec _ room
  rw [advanced]
  refine ⟨running, forward, within, ?_⟩
  change buff.drop offset = []
  rw [dropped, List.drop_length]

/-- A chunk can be read by a session that waits for it. -/
theorem Waits.enabled (waits : Waits part session) (config : ServerConfig)
    (admitted : data.length ≤ maxBuffSize) :
    ∃ op, (op = .udpFirstRead ∨ op = .udpRead) ∧
      session.step config ⟨op, .read data, servedWorld⟩ =
        some ((session.complete op).handle config servedWorld op (.read data)) := by
  rcases waits.reading with first | later
  · exact ⟨.udpFirstRead, .inl rfl, if_pos ⟨waits.running, first, decide_eq_true admitted⟩⟩
  · exact ⟨.udpRead, .inr rfl, if_pos ⟨waits.running, later, decide_eq_true admitted⟩⟩

/-- Bytes within the limit that are no packet yet are kept, and the client is read again. -/
theorem Waits.grow (waits : Waits part session) (config : ServerConfig)
    (fits : (part ++ data).length ≤ maxBuffSize)
    (none : UDPPacket.parse (part ++ data) = none) :
    ∃ event next, session.step config event = some next ∧ streamBytes event = data ∧
      Waits (part ++ data) next := by
  have admitted : data.length ≤ maxBuffSize := by
    rw [List.length_append] at fits
    omega
  obtain ⟨op, reads, stepped⟩ := waits.enabled config admitted
  have live := waits.toLive.read op data
  have short := live.tooLong
  rw [decide_eq_false (Nat.not_lt.mpr fits)] at short
  have unparsed := live.unparsed
  rcases reads with rfl | rfl
  · refine ⟨_, _, stepped, rfl, ?_⟩
    have kept : (withChunk session .udpFirstRead data).handleTrojanUdpProxy servedWorld =
        (withChunk session .udpFirstRead data).await .udpFirstRead := by
      simp [Session.handleTrojanUdpProxy, live.same, unparsed, none, short]
    change Waits _ ((withChunk session .udpFirstRead data).handleTrojanUdpProxy servedWorld)
    rw [kept]
    exact ⟨live.await _, .inl (List.mem_append_right _ List.mem_cons_self)⟩
  · refine ⟨_, _, stepped, rfl, ?_⟩
    have kept : (withChunk session .udpRead data).onUdpRead servedWorld =
        (withChunk session .udpRead data).await .udpRead := by
      simp [Session.onUdpRead, unparsed, none, short, Session.udpAsyncBidirectionalRead]
    change Waits _ ((withChunk session .udpRead data).onUdpRead servedWorld)
    rw [kept]
    exact ⟨live.await _, .inr (List.mem_append_right _ List.mem_cons_self)⟩

/-- A live session that has sent a packet waits for the client behind it. -/
theorem Live.resume (live : Live part session) (config : ServerConfig) {directions : List Direction}
    (sending : .udpSend directions ∈ session.pending) (down : .down ∈ directions) :
    ∃ next, session.step config ⟨.udpSend directions, .done, {}⟩ = some next ∧ Waits part next := by
  refine ⟨_, if_pos ⟨live.running, sending, rfl⟩, ?_⟩
  change Waits part ((session.complete _).udpAsyncBidirectionalRead directions)
  unfold Session.udpAsyncBidirectionalRead
  dsimp only
  rw [if_pos down]
  have reading : .udpRead ∈ ((session.complete (.udpSend directions)).await .udpRead).pending :=
    List.mem_append_right _ List.mem_cons_self
  have waiting := (live.complete (.udpSend directions)).await .udpRead
  split
  · exact ⟨waiting.await _, .inr (List.mem_append_left _ reading)⟩
  · exact ⟨waiting, .inr reading⟩

/-- Sending keeps a session live. -/
theorem Live.asyncSendTo (live : Live part session) (payload : Bytes) (endpoint : Endpoint)
    (directions : List Direction) :
    Live part (session.asyncSendTo payload endpoint directions) ∧
      .udpSend directions ∈ (session.asyncSendTo payload endpoint directions).pending :=
  ⟨⟨live.running, live.forward, live.inside, live.unparsed⟩,
    List.mem_append_right _ List.mem_cons_self⟩

/-- Sending the first packet keeps a session live. -/
theorem Live.openAndSend (live : Live part session) (payload : Bytes) (endpoint : Endpoint) :
    Live part (session.openAndSend servedWorld payload endpoint) ∧
      .udpSend dirBoth ∈ (session.openAndSend servedWorld payload endpoint).pending := by
  unfold Session.openAndSend
  split
  · exact live.asyncSendTo payload endpoint dirBoth
  · have opens : servedWorld.openOk = true := rfl
    rw [if_pos opens]
    have opened : Live part { session with udpOpen := true } :=
      ⟨live.running, live.forward, live.inside, live.unparsed⟩
    exact opened.asyncSendTo payload endpoint dirBoth

/-- Bytes that complete a packet are parsed and the packet is sent. -/
theorem Waits.send (waits : Waits part session) (config : ServerConfig) {packet : UDPPacket}
    (admitted : data.length ≤ maxBuffSize)
    (whole : UDPPacket.parse (part ++ data) = some (packet, (part ++ data).length)) :
    ∃ event sent directions, session.step config event = some sent ∧ streamBytes event = data ∧
      Live [] sent ∧ .udpSend directions ∈ sent.pending ∧ .down ∈ directions := by
  obtain ⟨op, reads, stepped⟩ := waits.enabled config admitted
  have live := waits.toLive.read op data
  have unparsed := live.unparsed
  rcases reads with rfl | rfl
  · have handled : (withChunk session .udpFirstRead data).handleTrojanUdpProxy servedWorld =
        ((withChunk session .udpFirstRead data).advance (part ++ data).length).openAndSend
          servedWorld packet.payload ⟨.ofWord 0x7f000001, 53⟩ := by
      simp only [Session.handleTrojanUdpProxy, live.same, unparsed, whole]
      rfl
    obtain ⟨behind, sending⟩ := live.advance.openAndSend packet.payload ⟨.ofWord 0x7f000001, 53⟩
    exact ⟨_, _, dirBoth, stepped.trans (congrArg some handled), rfl, behind, sending, by decide⟩
  · have handled : (withChunk session .udpRead data).onUdpRead servedWorld =
        ((withChunk session .udpRead data).advance (part ++ data).length).asyncSendTo
          packet.payload ⟨.ofWord 0x7f000001, 53⟩ [.down] := by
      simp only [Session.onUdpRead, unparsed, whole]
      rfl
    obtain ⟨behind, sending⟩ :=
      live.advance.asyncSendTo packet.payload ⟨.ofWord 0x7f000001, 53⟩ [.down]
    exact ⟨_, _, [.down], stepped.trans (congrArg some handled), rfl, behind, sending, by decide⟩

/-- A packet with at most one byte more than a read can be read in two parts; it is sent, and the
client is read again. -/
theorem Waits.packet (waits : Waits [] session) (config : ServerConfig) (packet : ValidPacket)
    (fits : packet.bytes.length ≤ maxBuffSize + 1) :
    ∃ events next, run (Session.step config) session events = some next ∧
      clientStream events = packet.bytes ∧ Waits [] next := by
  have split := (List.dropLast_append_getLast packet.bytes_ne_nil).symm
  have short : packet.bytes.dropLast.length ≤ maxBuffSize := by
    rw [List.length_dropLast]
    omega
  have none := packet.parse_part split (by simp)
  obtain ⟨first, middle, stepped, front, half⟩ := waits.grow config short none
  have whole := packet.parse_bytes
  rw [split] at whole
  obtain ⟨second, sent, directions, more, rest, behind, sending, down⟩ :=
    half.send config (by simp [maxBuffSize]) whole
  obtain ⟨next, resumed, again⟩ := behind.resume config sending down
  refine ⟨[first, second, ⟨.udpSend directions, .done, {}⟩], next, ?_, ?_, again⟩
  · rw [run, stepped, Option.bind_some, run, more, Option.bind_some]
    exact run_single resumed
  · change streamBytes first ++ (streamBytes second ++ []) = _
    rw [front, rest, List.append_nil]
    exact split.symm

/-- Bytes above the limit that are no packet yet are rejected. -/
theorem Waits.reject (waits : Waits part session) (config : ServerConfig)
    (admitted : data.length ≤ maxBuffSize) (long : maxBuffSize < (part ++ data).length)
    (none : UDPPacket.parse (part ++ data) = none) :
    ∃ event next, session.step config event = some next ∧ streamBytes event = data ∧
      RejectsPacket config session event := by
  obtain ⟨op, reads, stepped⟩ := waits.enabled config admitted
  have live := waits.toLive.read op data
  have rejected : UDPPacket.parse (withChunk session op data).remaining = .none ∧
      (withChunk session op data).tooLong = true := by
    rw [live.unparsed, live.tooLong]
    exact ⟨none, decide_eq_true long⟩
  rcases reads with rfl | rfl
  · exact ⟨_, _, stepped, rfl, _, rfl, rejected⟩
  · exact ⟨_, _, stepped, rfl, _, rfl, rejected⟩

/-- A packet with more bytes is rejected one byte behind a whole read. -/
theorem Waits.long_packet (waits : Waits [] session) (config : ServerConfig) (packet : ValidPacket)
    (long : maxBuffSize + 1 < packet.bytes.length) :
    ∃ first reached event next, session.step config first = some reached ∧
      reached.step config event = some next ∧
      streamBytes first ++ streamBytes event <+: packet.bytes ∧
      reached.state = .forward ∧ RejectsPacket config reached event := by
  have cut (count : Nat) (less : count < packet.bytes.length) :
      UDPPacket.parse (packet.bytes.take count) = none := by
    refine packet.parse_part (List.take_append_drop count packet.bytes).symm ?_
    exact List.ne_nil_of_length_pos (by rw [List.length_drop]; omega)
  have size : (packet.bytes.take maxBuffSize).length = maxBuffSize :=
    List.length_take_of_le (by omega)
  obtain ⟨first, reached, stepped, front, waiting⟩ :=
    waits.grow config size.le (cut maxBuffSize (by omega))
  have joined : packet.bytes.take maxBuffSize ++ (packet.bytes.drop maxBuffSize).take 1 =
      packet.bytes.take (maxBuffSize + 1) := List.take_add.symm
  have one : ((packet.bytes.drop maxBuffSize).take 1).length = 1 :=
    List.length_take_of_le (by rw [List.length_drop]; omega)
  have admitted : ((packet.bytes.drop maxBuffSize).take 1).length ≤ maxBuffSize := by
    rw [one]
    decide
  obtain ⟨event, next, more, rest, rejects⟩ := waiting.reject config admitted
    (by rw [List.nil_append, List.length_append, one, size]; omega)
    (by rw [List.nil_append, joined]; exact cut _ long)
  refine ⟨first, reached, event, next, stepped, more, ?_, waiting.forward, rejects⟩
  rw [front, rest, joined]
  exact List.take_prefix _ _

/-- **A stream with a longer packet can be cut so that it is rejected**: the packets in front of
the first such packet are served, and it is rejected. -/
theorem Waits.rejected {packets : List ValidPacket} (waits : Waits [] session)
    (config : ServerConfig) (long : ∃ packet ∈ packets, maxBuffSize + 1 < packet.bytes.length) :
    ∃ events reached event next, run (Session.step config) session events = some reached ∧
      reached.step config event = some next ∧
      clientStream (events ++ [event]) <+: packets.flatMap ValidPacket.bytes ∧
      reached.state = .forward ∧ RejectsPacket config reached event := by
  induction packets generalizing session with
  | nil => simp at long
  | cons packet packets ih =>
    by_cases fits : packet.bytes.length ≤ maxBuffSize + 1
    · obtain ⟨events, middle, ran, front, waiting⟩ := waits.packet config packet fits
      have later : ∃ packet ∈ packets, maxBuffSize + 1 < packet.bytes.length := by
        obtain ⟨other, listed, exceeds⟩ := long
        rcases List.mem_cons.mp listed with rfl | behind
        · omega
        · exact ⟨other, behind, exceeds⟩
      obtain ⟨more, reached, event, next, ranOn, stepped, stream, rest⟩ := ih waiting later
      refine ⟨events ++ more, reached, event, next, ?_, stepped, ?_, rest⟩
      · rw [run_append ran]
        exact ranOn
      · rw [List.append_assoc, clientStream, List.flatMap_append, List.flatMap_cons]
        change clientStream events ++ clientStream (more ++ [event]) <+: _
        rw [front]
        exact (List.prefix_append_right_inj packet.bytes).mpr stream
    · obtain ⟨first, reached, event, next, stepped, more, stream, rest⟩ :=
        waits.long_packet config packet (by omega)
      refine ⟨[first], reached, event, next, run_single stepped, more, ?_, rest⟩
      rw [List.flatMap_cons]
      refine List.IsPrefix.trans ?_ (List.prefix_append _ _)
      rwa [clientStream_concat, clientStream, List.flatMap_singleton]

/-- A client with password `p` asks for UDP. -/
def udpRequest : List Event :=
  [⟨.handshake, .done, {}⟩,
    ⟨.firstRead, .read [0x70, 13, 10, 3, 1, 0, 0, 0, 0, 0, 0, 13, 10], {}⟩]

/-- Behind a request for UDP the session waits for packets. -/
theorem exists_waits : ∃ session,
    run (Session.step ⟨[[0x70]]⟩) (Session.start .tls) udpRequest = some session ∧
      Waits [] session := by
  have checked : (run (Session.step ⟨[[0x70]]⟩) (Session.start .tls) udpRequest).any
      (fun session => decide (session.crashed = false ∧ session.state = .forward ∧
        session.udpBuffOffset ≤ session.upstreamUdpBuff.length ∧ session.remaining = [] ∧
        .udpFirstRead ∈ session.pending)) = true := by
    decide +kernel
  obtain ⟨session, ran, good⟩ := exists_of_run checked
  obtain ⟨running, forward, inside, unparsed, reading⟩ := of_decide_eq_true good
  exact ⟨session, ran, ⟨running, forward, inside, unparsed⟩, .inl reading⟩

/-- A stream with a longer packet is rejected in some run. -/
theorem exists_rejection {packets : List ValidPacket}
    (long : ∃ packet ∈ packets, maxBuffSize + 1 < packet.bytes.length) :
    ∃ events session event next,
      run (Session.step ⟨[[0x70]]⟩) (Session.start .tls) events = some session ∧
      session.step ⟨[[0x70]]⟩ event = some next ∧
      clientStream (events ++ [event]) <+: packets.flatMap ValidPacket.bytes ∧
      session.state = .forward ∧ RejectsPacket ⟨[[0x70]]⟩ session event := by
  obtain ⟨waiting, ran, waits⟩ := exists_waits
  obtain ⟨events, session, event, next, ranOn, stepped, stream, rest⟩ :=
    waits.rejected ⟨[[0x70]]⟩ long
  refine ⟨udpRequest ++ events, session, event, next, ?_, stepped, ?_, rest⟩
  · rw [run_append ran]
    exact ranOn
  · have nothing : clientStream udpRequest = [] := by decide +kernel
    rw [List.append_assoc, clientStream, List.flatMap_append]
    change clientStream udpRequest ++ clientStream (events ++ [event]) <+: _
    rwa [nothing, List.nil_append]

/-- **A stream of valid packets is never rejected exactly when each has at most one byte more than
a read.** However the stream is cut into reads, no step of any run of the session on it comes to
the branch for a packet that is too long, if and only if every packet on the wire has at most
`MAX_BUFF_SIZE` + 1 bytes. -/
theorem never_rejected_iff (packets : List ValidPacket) :
    (∀ (config : ServerConfig) (kind : SessionKind) (events : List Event) (session next : Session)
      (event : Event), run (Session.step config) (Session.start kind) events = some session →
      session.step config event = some next →
      clientStream (events ++ [event]) <+: packets.flatMap ValidPacket.bytes →
      ¬ RejectsPacket config session event) ↔
    ∀ packet ∈ packets, packet.bytes.length ≤ maxBuffSize + 1 := by
  constructor
  · intro never packet listed
    by_contra long
    obtain ⟨events, session, event, next, ran, stepped, stream, -, rejects⟩ :=
      exists_rejection ⟨packet, listed, Nat.not_le.mp long⟩
    exact never _ _ events session next event ran stepped stream rejects
  · intro short config kind events session next event ran stepped stream
    have member := (Session.step_some stepped).1
    exact (run_follows ran).not_rejects member short stream

/-- A packet of twelve bytes for an IPv4 address. -/
def shortPacket : ValidPacket := ⟨.ipv4 Address.loopbackBytes 53, ⟨[7], by decide⟩⟩

/-- A short packet cut inside its address is not rejected. -/
theorem never_rejected_short : ∃ session next,
    run (Session.step ⟨[[0x70]]⟩) (Session.start .tls)
      (udpRequest ++ [⟨.udpFirstRead, .read [1, 127, 0], {}⟩]) = some session ∧
    session.step ⟨[[0x70]]⟩ ⟨.udpFirstRead, .read [0, 1, 0, 53, 0, 1, 13, 10, 7], servedWorld⟩ =
      some next ∧
    ¬ RejectsPacket ⟨[[0x70]]⟩ session
      ⟨.udpFirstRead, .read [0, 1, 0, 53, 0, 1, 13, 10, 7], servedWorld⟩ := by
  have checked : (run (Session.step ⟨[[0x70]]⟩) (Session.start .tls)
      (udpRequest ++ [⟨.udpFirstRead, .read [1, 127, 0], {}⟩])).any (fun session =>
        (session.step ⟨[[0x70]]⟩ ⟨.udpFirstRead, .read [0, 1, 0, 53, 0, 1, 13, 10, 7],
          servedWorld⟩).isSome) = true := by
    decide +kernel
  obtain ⟨session, ran, good⟩ := exists_of_run checked
  obtain ⟨next, stepped⟩ := Option.isSome_iff_exists.mp good
  have short : ∀ packet ∈ [shortPacket], packet.bytes.length ≤ maxBuffSize + 1 := by
    decide +kernel
  have stream : clientStream (udpRequest ++ [⟨.udpFirstRead, .read [1, 127, 0], {}⟩] ++
      [⟨.udpFirstRead, .read [0, 1, 0, 53, 0, 1, 13, 10, 7], servedWorld⟩]) <+:
        [shortPacket].flatMap ValidPacket.bytes := by
    decide +kernel
  exact ⟨session, next, ran, stepped,
    (never_rejected_iff [shortPacket]).mpr short _ _ _ _ _ _ ran stepped stream⟩

/-- The longest name with the longest datagram. -/
def longestPacket : ValidPacket where
  address := .domainName ⟨List.replicate 255 97, by decide +kernel⟩ 53
  payload := ⟨List.replicate 65507 0, List.length_replicate.le⟩

/-- The longest packet has 234 bytes more than a read. -/
theorem longestPacket_length : longestPacket.bytes.length = 65770 := by
  have name : (List.replicate 255 (97 : UInt8)).length = 255 := List.length_replicate
  have payload : longestPacket.payload.val.length = 65507 := List.length_replicate
  have length := ValidPacket.length_domainName ⟨List.replicate 255 97, by decide +kernel⟩ 53
    longestPacket.payload
  rw [payload, name] at length
  exact length

/-- **The longest valid packet is rejected.** A client sends a packet of 65507 bytes for a name of
255 bytes in two reads; the live session takes it for too long and is destroyed. -/
theorem longest_packet_rejected : ∃ events session event next,
    run (Session.step ⟨[[0x70]]⟩) (Session.start .tls) events = some session ∧
      session.step ⟨[[0x70]]⟩ event = some next ∧
      clientStream (events ++ [event]) <+: longestPacket.bytes ∧
      session.state = .forward ∧ RejectsPacket ⟨[[0x70]]⟩ session event ∧
      next.state = .destroy := by
  have long : ∃ packet ∈ [longestPacket], maxBuffSize + 1 < packet.bytes.length := by
    refine ⟨longestPacket, List.mem_singleton_self _, ?_⟩
    rw [longestPacket_length]
    decide
  obtain ⟨events, session, event, next, ran, stepped, stream, forward, rejects⟩ :=
    exists_rejection long
  rw [List.flatMap_singleton] at stream
  exact ⟨events, session, event, next, ran, stepped, stream, forward, rejects,
    destroyed_of_rejects rejects stepped⟩

end Rejection

end Overplus.Verif.PacketLimit
