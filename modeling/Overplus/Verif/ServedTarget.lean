import Overplus.Verif.NoOpenRelay
import Overplus.Verif.TrojanCodec
import Overplus.Verif.Tunnel

/-!
# The target of a TCP session

A session that forwards does so for the host and port its first message asks for, whichever of the
two protocols the message is in, and for a client with an allowed password. What it reads from the
client is the first message and behind it the bytes of the tunnel.
-/
namespace Overplus.Verif.ServedTarget

open Server Tunnel

/-- Reads of the client. -/
def readsClient : Op → Bool
  | .firstRead | .read .down | .udpFirstRead | .udpRead => true
  | _ => false

/-- Bytes of the client that a completion reads. -/
def clientData (event : Event) : Bytes :=
  match event.result with
  | .read data => if readsClient event.op then data else []
  | _ => []

/-- Bytes of the client that completions have read. -/
def clientBytes (events : List Event) : Bytes := events.flatMap clientData

/-- What `in_buf` holds behind the first message. -/
def bufferTail (data : Bytes) : Bytes := (List.replicate maxBuffSize 0).drop data.length

/-- What a session keeps of its first message. -/
structure Kept where
  /-- `vprotocol`. -/
  vprotocol : Bool
  /-- `v_req`. -/
  vReq : VRequest
  /-- `trojanReq`. -/
  trojanReq : TrojanReq
  /-- `remote_host`. -/
  remoteHost : Bytes
  /-- `remote_port`. -/
  remotePort : Bytes

/-- What a session keeps of its first message. -/
def kept (session : Session) : Kept :=
  ⟨session.vprotocol, session.vReq, session.trojanReq, session.remoteHost, session.remotePort⟩

/-- What a session keeps is what its first message asks for, with an allowed password. -/
inductive Asks (config : ServerConfig) (data : Bytes) (session : Kept) : Prop
  /-- With a V request. -/
  | vProtocol (beyond : Memory) (flag : session.vprotocol = true)
    (identified : VRequest.isVProtocol (data ++ bufferTail data) = true)
    (decoded : VRequest.unstream {} data beyond = .ok (true, session.vReq))
    (allowed : session.vReq.password ∈ config.allowedPasswords)
    (host : session.remoteHost = session.vReq.address)
    (port : session.remotePort = decimal session.vReq.port.toNat)
  /-- With a Trojan request. -/
  | trojan (flag : session.vprotocol = false)
    (identified : VRequest.isVProtocol (data ++ bufferTail data) = false)
    (parsed : (TrojanReq.parse {} data).1 ≠ -1)
    (tcp : session.trojanReq.command ≠ some .udpAssociate)
    (request : session.trojanReq = (TrojanReq.parse {} data).2)
    (allowed : session.trojanReq.password ∈ config.allowedPasswords)
    (host : session.remoteHost = session.trojanReq.address.address)
    (port : session.remotePort = decimal session.trojanReq.address.port.toNat)

variable {config : ServerConfig} {kind : SessionKind} {session next : Session} {world : World}
  {op : Op} {result : Result} {data : Bytes} {past : List Event}

section Frame

variable {effect : Effect} {direction : Direction} {lane : Lane}

@[simp]
theorem kept_await : kept (session.await op) = kept session := rfl

@[simp]
theorem kept_emit : kept (session.emit effect) = kept session := rfl

@[simp]
theorem kept_setLane : kept (session.setLane direction lane) = kept session := by
  cases direction <;> rfl

@[simp]
theorem kept_receive : kept (session.receive direction data) = kept session := by
  cases direction <;> rfl

@[simp]
theorem kept_destroy : kept session.destroy = kept session := by
  unfold Session.destroy
  split <;> rfl

@[simp]
theorem kept_asyncBidirectionalRead (directions : List Direction) :
    kept (session.asyncBidirectionalRead directions) = kept session := by
  unfold Session.asyncBidirectionalRead
  dsimp only
  split <;> split <;> rfl

@[simp]
theorem kept_doSend : kept (session.doSend direction) = kept session := by
  unfold Session.doSend
  dsimp only
  split
  · split <;> simp
  · rfl

@[simp]
theorem kept_asyncBidirectionalWrite (len : Nat) :
    kept (session.asyncBidirectionalWrite direction len) = kept session := by
  have queued (chunk : Bytes) : kept (session.enqueueWrite direction chunk) = kept session := by
    unfold Session.enqueueWrite
    dsimp only
    split <;> simp
  unfold Session.asyncBidirectionalWrite
  dsimp only
  split <;> simp [queued]

/-- Connecting keeps what was asked for. -/
theorem kept_doConnect (endpoint : Endpoint) :
    kept (session.doConnect endpoint) = kept session := rfl

end Frame

@[simp]
theorem startForwarding_trace :
    session.startForwarding.trace = session.trace ++ [.forwarding] := by
  simp only [Session.startForwarding, Session.asyncBidirectionalRead_trace]
  rfl

/-- How an operation of the TCP mode completes. -/
inductive TcpCompletion : Op → Result → Prop
  /-- With an error. -/
  | failed (op : Op) : TcpCompletion op .failed
  /-- The target's name is resolved. -/
  | resolved (dnsKey : Bytes) (results : List Endpoint) :
    TcpCompletion (.resolve dnsKey) (.resolved results)
  /-- The target is connected. -/
  | connected : TcpCompletion .connect .done
  /-- The early data was written. -/
  | written : TcpCompletion .payloadWrite .done
  /-- Bytes were read. -/
  | read (direction : Direction) (data : Bytes) : TcpCompletion (.read direction) (.read data)
  /-- Bytes were sent. -/
  | sent (direction : Direction) (position offered count : Nat) :
    TcpCompletion (.send direction position offered) (.sent count)

/-- Operations of the TCP mode complete in one of these ways. -/
theorem tcpCompletion_of_admits (own : op.isTcp = true) (admitted : op.admits result = true) :
    TcpCompletion op result := by
  cases result with
  | failed => exact .failed op
  | done =>
    cases op with
    | connect => exact .connected
    | payloadWrite => exact .written
    | resolve | read | send => cases admitted
    | _ => cases own
  | read data =>
    cases op with
    | read direction => exact .read direction data
    | resolve | connect | payloadWrite | send => cases admitted
    | _ => cases own
  | sent count =>
    cases op with
    | send direction position offered => exact .sent direction position offered count
    | resolve | connect | payloadWrite | read => cases admitted
    | _ => cases own
  | resolved results =>
    cases op with
    | resolve dnsKey => exact .resolved dnsKey results
    | connect | payloadWrite | read | send => cases admitted
    | _ => cases own
  | received sender data =>
    cases op with
    | resolve | connect | payloadWrite | read | send => cases admitted
    | _ => cases own

/-- **An operation of the TCP mode** keeps what was asked for. -/
theorem handle_kept (completion : TcpCompletion op result) :
    kept (session.handle config world op result) = kept session := by
  cases completion with
  | failed => rw [Session.handle_failed, kept_destroy]
  | resolved dnsKey results =>
    change kept (session.onResolved dnsKey results) = _
    unfold Session.onResolved
    split
    · exact kept_destroy
    · rw [kept_doConnect, kept_emit]
  | connected =>
    change kept (session.onConnected world) = _
    unfold Session.onConnected
    split
    · split
      · simp [Session.startForwarding]
      · exact kept_await
    · rfl
  | written => simp [Session.handle, Session.startForwarding]
  | read direction data =>
    simp only [Session.handle]
    split <;> simp
  | sent direction position offered count => simp [Session.handle]

/-- **An operation of the TCP mode** reads from the client for the tunnel only. -/
theorem handle_received (completion : TcpCompletion op result) :
    receivedBytes .down (session.handle config world op result).trace =
      receivedBytes .down session.trace ++ clientData ⟨op, result, world⟩ := by
  cases completion with
  | failed =>
    rw [Session.handle_failed, Session.destroy_trace]
    exact (List.append_nil _).symm
  | resolved dnsKey results =>
    change receivedBytes .down (session.onResolved dnsKey results).trace = _
    unfold Session.onResolved
    split
    · rw [Session.destroy_trace]
      exact (List.append_nil _).symm
    · change receivedBytes .down (session.trace ++ [_] ++ [_]) = _
      rw [receivedBytes_append, receivedBytes_append]
      exact List.append_assoc _ _ _
  | connected =>
    refine Eq.trans ?_ (List.append_nil _).symm
    change receivedBytes .down (session.onConnected world).trace = _
    unfold Session.onConnected
    split
    · split
      · rw [startForwarding_trace, receivedBytes_append]
        exact List.append_nil _
      · rfl
    · rfl
  | written =>
    refine Eq.trans ?_ (List.append_nil _).symm
    change receivedBytes .down (Session.startForwarding _).trace = _
    rw [startForwarding_trace, receivedBytes_append]
    change receivedBytes .down (session.trace ++ [_]) ++ [] = _
    rw [receivedBytes_handed, List.append_nil]
  | read direction data =>
    have reads : (if direction = .down then data else []) =
        clientData ⟨.read direction, .read data, world⟩ := by
      cases direction <;> rfl
    simp only [Session.handle]
    split
    · rw [Session.receive_trace, receivedBytes_received, reads]
    · rw [Session.asyncBidirectionalWrite_trace, Session.receive_trace, receivedBytes_received,
        reads]
  | sent direction position offered count =>
    simp only [Session.handle, Session.doSend_trace, Session.setLane_trace]
    change receivedBytes .down (session.trace ++ [_]) = _
    rw [receivedBytes_handed]
    exact (List.append_nil _).symm

/-- A session before its first message. -/
def Waiting (kind : SessionKind) (session : Session) : Prop :=
  ∃ op, op.isGreeting = true ∧ session = { Session.start kind with pending := [op] }

/-- A session that serves the TCP target of its first message. -/
structure Serving (config : ServerConfig) (past : List Event) (session : Session) : Prop where
  /-- Only operations of the TCP mode are in flight. -/
  tcp : session.OnlyTcp
  /-- The first message asked for the target, and the client's bytes are that message and those
  of the tunnel. -/
  asked : ∃ data, .firstMessage data ∈ session.trace ∧ Asks config data (kept session) ∧
    clientBytes past = data ++ receivedBytes .down session.trace

/-- Where a session stands with respect to its target. -/
inductive Course (config : ServerConfig) (kind : SessionKind) (past : List Event)
    (session : Session) : Prop
  /-- The first message was not read. -/
  | waiting (waiting : Waiting kind session) (silent : clientBytes past = [])
  /-- The session serves a TCP target. -/
  | serving (serving : Serving config past session)
  /-- The session is in UDP mode, or ended before it served a target. -/
  | other (relaying : Relaying session)

/-- Bytes of the client are counted completion by completion. -/
theorem clientBytes_concat (past : List Event) (event : Event) :
    clientBytes (past ++ [event]) = clientBytes past ++ clientData event := by
  rw [clientBytes, List.flatMap_append]
  exact congrArg _ (List.append_nil _)

/-- A completion that reads nothing from a client that sent nothing. -/
theorem clientBytes_concat_nil {event : Event} (before : clientBytes past = [])
    (none : clientData event = []) : clientBytes (past ++ [event]) = [] := by
  rw [clientBytes_concat, before, none]
  rfl

/-- A session that has done nothing yet. -/
theorem ready_start (kind : SessionKind) : Ready { Session.start kind with pending := [] } :=
  ⟨rfl, rfl, rfl, by simp [Session.start], by simp [Session.start]⟩

/-- Looking for the target of a request. -/
theorem serving_doResolve {parsed : Session} {event : Event} (idle : parsed.pending = [])
    (silent : receivedBytes .down parsed.trace = []) (message : .firstMessage data ∈ parsed.trace)
    (reads : clientData event = data) (before : clientBytes past = [])
    (asks : ∀ host service, host = (if parsed.vprotocol then parsed.vReq.address
        else parsed.trojanReq.address.address) →
      service = decimal (if parsed.vprotocol then parsed.vReq.port
        else parsed.trojanReq.address.port).toNat →
      Asks config data ⟨parsed.vprotocol, parsed.vReq, parsed.trojanReq, host, service⟩) :
    Serving config (past ++ [event]) (parsed.doResolve world) := by
  have read : clientBytes (past ++ [event]) = data := by
    rw [clientBytes_concat, before, reads]
    rfl
  unfold Session.doResolve
  dsimp only
  split
  · refine ⟨?_, data, List.mem_append_left _ message, asks _ _ rfl rfl, ?_⟩
    · intro op member
      have only : op ∈ parsed.pending ++ [Op.connect] := member
      rw [idle, List.nil_append, List.mem_singleton] at only
      rw [only]
      rfl
    · change _ = data ++ receivedBytes .down (parsed.trace ++ [_])
      rw [read, receivedBytes_append, silent]
      exact (List.append_nil _).symm
  · refine ⟨?_, data, List.mem_append_left _ message, asks _ _ rfl rfl, ?_⟩
    · intro op member
      have only : op ∈ parsed.pending ++ [Op.resolve _] := member
      rw [idle, List.nil_append, List.mem_singleton] at only
      rw [only]
      rfl
    · change _ = data ++ receivedBytes .down (parsed.trace ++ [_])
      rw [read, receivedBytes_append, silent]
      exact (List.append_nil _).symm

/-- The password check leads to a target, to the UDP mode or to the end. -/
theorem course_authenticate {parsed : Session} {event : Event} {valid : Bool}
    (ready : Ready parsed) (message : .firstMessage data ∈ parsed.trace)
    (reads : clientData event = data) (before : clientBytes past = [])
    (asks : valid = true → parsed.password ∈ config.allowedPasswords →
      ¬ (parsed.vprotocol = false ∧ parsed.trojanReq.command = some .udpAssociate) →
      ∀ host service, host = (if parsed.vprotocol then parsed.vReq.address
        else parsed.trojanReq.address.address) →
      service = decimal (if parsed.vprotocol then parsed.vReq.port
        else parsed.trojanReq.address.port).toNat →
      Asks config data ⟨parsed.vprotocol, parsed.vReq, parsed.trojanReq, host, service⟩) :
    Course config kind (past ++ [event]) (parsed.authenticate config world valid) := by
  by_cases fine : valid = true ∧ parsed.password ∈ config.allowedPasswords
  · unfold Session.authenticate
    rw [if_pos fine.1, if_pos fine.2]
    split
    · have started : Relaying { parsed with upstreamUdpBuff := parsed.trojanReq.payload } :=
        ⟨ready.relaying.udp, ready.relaying.quiet⟩
      exact .other (started.handleTrojanUdpProxy world)
    · rename_i tcp
      exact .serving (serving_doResolve ready.idle (ready.untouched .down).2 message reads before
        (asks fine.1 fine.2 tcp))
  · rw [NoOpenRelay.authenticate_refused fine]
    exact .other ready.destroy

/-- The first message leads to its target, to the UDP mode or to the end. -/
theorem course_firstRead (before : clientBytes past = []) :
    Course config kind (past ++ [⟨.firstRead, .read data, world⟩])
      ({ Session.start kind with pending := [] }.handle config world .firstRead (.read data)) := by
  have ready : Ready ((({ Session.start kind with pending := [] } : Session).fill .down data).emit
      (.firstMessage data)) :=
    ⟨rfl, rfl, rfl, by simp [Session.start, Session.fill, Session.emit],
      by simp [Session.start, Session.fill, Session.emit, isTraffic]⟩
  have message : ((({ Session.start kind with pending := [] } : Session).fill .down data).emit
      (.firstMessage data)).inBuf.take data.length = data := by simp [Session.emit, Session.fill]
  have buffer : ((({ Session.start kind with pending := [] } : Session).fill .down data).emit
      (.firstMessage data)).inBuf = data ++ bufferTail data := rfl
  have reads : clientData ⟨.firstRead, .read data, world⟩ = data := rfl
  change Course config kind _ (Session.onFirstMessage _ config world data.length)
  unfold Session.onFirstMessage
  simp only [message]
  split
  · rename_i identified
    rw [buffer] at identified
    split
    · exact .other ⟨ready.relaying.udp, ready.relaying.quiet⟩
    · rename_i decoded decodes
      refine course_authenticate ?_ (List.mem_singleton_self _) reads before ?_
      · exact ⟨ready.idle, ready.freshDown, ready.freshUp, ready.alive, ready.quiet⟩
      · rintro valid allowed - host service rfl rfl
        refine .vProtocol world.beyond rfl identified ?_ allowed rfl rfl
        rw [← valid]
        exact decodes
  · rename_i other
    rw [buffer] at other
    refine course_authenticate ?_ (List.mem_singleton_self _) reads before ?_
    · exact ⟨ready.idle, ready.freshDown, ready.freshUp, ready.alive, ready.quiet⟩
    · rintro valid allowed tcp host service rfl rfl
      have accepted : (TrojanReq.parse {} data).1 ≠ -1 := bne_iff_ne.mp valid
      exact .trojan rfl (by simpa using other) accepted (fun udp => tcp ⟨rfl, udp⟩) rfl allowed
        rfl rfl

/-- The handshakes lead to the first message, to its read or to the end. -/
theorem Waiting.step {event : Event} (waiting : Waiting kind session)
    (stepped : session.step config event = some next) :
    Waiting kind next ∧ clientData event = [] ∨
      next = Session.destroy { Session.start kind with pending := [] } ∨
      ∃ data world, event = ⟨.firstRead, .read data, world⟩ ∧
        next = { Session.start kind with pending := [] }.handle config world .firstRead
          (.read data) := by
  obtain ⟨pending, admitted, rfl⟩ := Session.step_some stepped
  obtain ⟨op, greeting, rfl⟩ := waiting
  obtain ⟨only, result, world⟩ := event
  obtain rfl : only = op := by simpa using pending
  have alone : Session.complete { Session.start kind with pending := [only] } only =
      { Session.start kind with pending := [] } := by simp [Session.complete]
  dsimp only
  rw [alone]
  cases result with
  | failed =>
    rw [Session.handle_failed]
    exact .inr (.inl rfl)
  | done =>
    cases only with
    | handshake =>
      cases kind with
      | tls => exact .inl ⟨⟨.firstRead, rfl, rfl⟩, rfl⟩
      | websocket => exact .inl ⟨⟨.accept, rfl, rfl⟩, rfl⟩
    | accept => exact .inl ⟨⟨.firstRead, rfl, rfl⟩, rfl⟩
    | firstRead => cases admitted
    | _ => cases greeting
  | read data =>
    cases only with
    | firstRead => exact .inr (.inr ⟨data, world, rfl, rfl⟩)
    | handshake | accept => cases admitted
    | _ => cases greeting
  | _ => cases only <;> first | (cases admitted; done) | cases greeting

/-- Serving goes on. -/
theorem Serving.step {event : Event} (serving : Serving config past session)
    (stepped : session.step config event = some next) :
    Serving config (past ++ [event]) next := by
  obtain ⟨-, -, outcome⟩ := Session.step_outcome stepped
  obtain ⟨pending, admitted, rfl⟩ := Session.step_some stepped
  have own := serving.tcp event.op pending
  have completion := tcpCompletion_of_admits own admitted
  have rest : (session.complete event.op).OnlyTcp := fun other left =>
    serving.tcp other (List.mem_of_mem_erase left)
  obtain ⟨data, message, asks, reads⟩ := serving.asked
  refine ⟨rest.outcome own outcome, data, outcome.extends.subset message, ?_, ?_⟩
  · rw [handle_kept completion]
    exact asks
  · rw [handle_received completion, clientBytes_concat, reads, List.append_assoc]
    rfl

/-- Every run of a session keeps it on its course. -/
theorem run_course {events : List Event}
    (ran : run (Session.step config) (Session.start kind) events = some session) :
    Course config kind events session := by
  have start : Course config kind [] (Session.start kind) :=
    .waiting ⟨.handshake, rfl, rfl⟩ rfl
  have course : Course config kind ([] ++ events) session := run_history ?_ start ran
  · exact course
  intro past state event next course stepped
  cases course with
  | waiting waiting silent =>
    rcases waiting.step stepped with ⟨still, none⟩ | rfl | ⟨data, world, rfl, rfl⟩
    · exact .waiting still (clientBytes_concat_nil silent none)
    · exact .other (ready_start kind).destroy
    · exact course_firstRead silent
  | serving serving => exact .serving (serving.step stepped)
  | other relaying => exact .other (relaying.step stepped)

/-- A session that forwards serves the target of its first message. -/
theorem run_serving {events : List Event}
    (ran : run (Session.step config) (Session.start kind) events = some session)
    (started : Effect.forwarding ∈ session.trace) : Serving config events session := by
  cases run_course ran with
  | waiting waiting =>
    obtain ⟨op, -, rfl⟩ := waiting
    cases started
  | serving serving => exact serving
  | other relaying => exact absurd started relaying.quiet

section Trojan

open TrojanCodec

/-- More bytes behind a request belong to its payload. -/
theorem bytes_append_payload (parts : RequestParts) (more : Bytes) :
    parts.bytes ++ more = { parts with payload := parts.payload ++ more }.bytes := by
  simp [RequestParts.bytes]

/-- **A Trojan tunnel forwards what is behind the request, and nothing else.** In every run of a
session that forwards for a Trojan client and was not destroyed, the bytes read from the client so
far are one Trojan request for a TCP target with an allowed password, and the payload of that
request is exactly what was handed to the target followed by what waits in the ring. The session
looked for the host and port of the request. -/
theorem trojan_tunnel_transparent (config : ServerConfig) (kind : SessionKind)
    (events : List Event) (session : Session)
    (ran : run (Session.step config) (Session.start kind) events = some session)
    (started : Effect.forwarding ∈ session.trace) (alive : session.state ≠ .destroy)
    (trojan : session.vprotocol = false) :
    ∃ parts : RequestParts, parts.password ∈ config.allowedPasswords ∧
      parts.command = .connect ∧ clientBytes events = parts.bytes ∧
      parts.payload = handedBytes .down session.trace ++ session.down.ring.contents ∧
      session.remoteHost = parts.address.parsed.address ∧
      session.remotePort = decimal parts.address.port.toNat := by
  obtain ⟨-, ops, -, lanes⟩ := run_tunnelling ran started alive
  have exact : handedBytes .down session.trace ++ session.down.ring.contents =
      session.initialPayload ++ receivedBytes .down session.trace := (lanes .down).exact
  obtain ⟨-, data, -, asks, reads⟩ := run_serving ran started
  cases asks with
  | vProtocol beyond flag =>
    have isV : session.vprotocol = true := flag
    rw [trojan] at isV
    cases isV
  | trojan _ _ parsed tcp request allowed host port =>
    obtain ⟨parts, of⟩ := RequestParts.exists_of_parse parsed
    have keeps : session.trojanReq = parts.request := by
      rw [of.parse] at request
      exact request
    have payload : session.initialPayload = parts.payload := by
      rw [Session.initialPayload, trojan, keeps]
      rfl
    have command : parts.command = .connect := by
      have other : session.trojanReq.command ≠ some .udpAssociate := tcp
      rw [keeps] at other
      cases isCommand : parts.command with
      | connect => rfl
      | udpAssociate => exact absurd (congrArg some isCommand) other
    refine ⟨{ parts with payload := parts.payload ++ receivedBytes .down session.trace }, ?_,
      command, ?_, ?_, ?_, ?_⟩
    · have shown : session.trojanReq.password ∈ config.allowedPasswords := allowed
      rw [keeps] at shown
      exact shown
    · rw [reads, of.whole, bytes_append_payload]
    · rw [exact, payload]
    · have found : session.remoteHost = session.trojanReq.address.address := host
      rw [found, keeps]
      rfl
    · have found : session.remotePort = decimal session.trojanReq.address.port.toNat := port
      rw [found, keeps]
      change decimal parts.address.parsed.port.toNat = decimal parts.address.port.toNat
      cases parts.address <;> rfl

/-- A Trojan client with password `p` has sent `h` with its request and three bytes behind it, of
which two were sent on. -/
theorem trojan_tunnel_transparent_sample : ∃ session,
    run (Session.step ⟨[[0x70]]⟩) (Session.start .tls) Tunnel.sampleEvents = some session ∧
      handedBytes .down session.trace = [0x68, 1, 2] ∧
      ∃ parts : RequestParts, parts.password ∈ [[(0x70 : UInt8)]] ∧ parts.command = .connect ∧
        clientBytes Tunnel.sampleEvents = parts.bytes ∧
        parts.payload = handedBytes .down session.trace ++ session.down.ring.contents ∧
        session.remoteHost = parts.address.parsed.address ∧
        session.remotePort = decimal parts.address.port.toNat := by
  have checked : (run (Session.step ⟨[[0x70]]⟩) (Session.start .tls) Tunnel.sampleEvents).any
      (fun session => decide (Effect.forwarding ∈ session.trace ∧ session.state ≠ .destroy ∧
        session.vprotocol = false ∧ handedBytes .down session.trace = [0x68, 1, 2])) = true := by
    decide +kernel
  obtain ⟨session, ran, good⟩ := exists_of_run checked
  obtain ⟨started, alive, trojan, handed⟩ := of_decide_eq_true good
  exact ⟨session, ran, handed, trojan_tunnel_transparent _ _ _ _ ran started alive trojan⟩

end Trojan

end Overplus.Verif.ServedTarget
