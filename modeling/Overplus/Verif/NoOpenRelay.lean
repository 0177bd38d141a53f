import Overplus.Server.DtlsSteps
import Overplus.Server.SessionOutcome

/-!
# No open relay

A session reaches out to the network only for a client that showed an allowed password. For
the TLS and websocket sessions the password is in the first message; for the DTLS session it
is the first line of a record received before proxying. The DTLS session's state moves only
forward. It makes no call of OpenSSL without its `ssl_` object if it got one at all: where
`SSL_new` failed, the constructor has already gone on to use it.
-/
namespace Overplus.Verif.NoOpenRelay

open Server

/-- The message parses as a V request or as a Trojan request, with an allowed password. -/
def Accepted (config : ServerConfig) (message : Bytes) : Prop :=
  (∃ beyond request, VRequest.unstream {} message beyond = .ok (true, request) ∧
      request.password ∈ config.allowedPasswords) ∨
    ((TrojanReq.parse {} message).1 ≠ -1 ∧
      (TrojanReq.parse {} message).2.password ∈ config.allowedPasswords)

/-- The effect is the arrival of an accepted first message. -/
def GrantedBy (config : ServerConfig) (effect : Effect) : Prop :=
  ∃ message, effect = .firstMessage message ∧ Accepted config message

/-- Effects that reach out to the network: resolutions, connections and datagrams. -/
def isOutbound : Effect → Bool
  | .resolve _ _ | .connect _ | .udpResolve _ _ | .datagram _ _ => true
  | _ => false

/-- Every outbound effect comes after an accepted first message. -/
def Authorised (config : ServerConfig) (trace : List Effect) : Prop :=
  Preceded (fun earlier _ => GrantedBy config earlier) (fun effect => isOutbound effect = true)
    trace

/-- A session whose client has not been accepted: it waits for the first message, or nothing
is in flight any more. -/
def Unaccepted (session : Session) : Prop :=
  session.pending = [] ∨ ∃ op, session.pending = [op] ∧ op.isGreeting = true ∧
    session.vReq = {} ∧ session.trojanReq = {}

/-- Outbound effects are authorised, and a session that may still cause some was accepted. -/
structure SessionGate (config : ServerConfig) (session : Session) : Prop where
  /-- What was done was authorised. -/
  authorised : Authorised config session.trace
  /-- What is in flight is authorised. -/
  accepted : (∃ effect ∈ session.trace, GrantedBy config effect) ∨ Unaccepted session

variable {config : ServerConfig} {session next : Session}

/-- An accepted session may do anything further. -/
theorem SessionGate.extend (authorised : Authorised config session.trace)
    (granted : ∃ effect ∈ session.trace, GrantedBy config effect)
    (extended : session.trace <+: next.trace) : SessionGate config next := by
  obtain ⟨suffix, extended⟩ := extended
  obtain ⟨effect, member, grants⟩ := granted
  refine ⟨?_, .inl ⟨effect, ?_, grants⟩⟩
  · rw [Authorised, ← extended]
    exact authorised.append fun _ _ _ => ⟨effect, member, grants⟩
  · rw [← extended]
    exact List.mem_append_left _ member

/-- A session that records nothing outbound and has nothing in flight stays authorised. -/
theorem SessionGate.finish {effects : List Effect} (authorised : Authorised config session.trace)
    (quiet : ∀ effect ∈ effects, isOutbound effect = false)
    (trace : next.trace = session.trace ++ effects) (unaccepted : Unaccepted next) :
    SessionGate config next := by
  refine ⟨?_, .inr unaccepted⟩
  rw [Authorised, trace]
  refine authorised.append fun effect member outbound => ?_
  rw [quiet effect member] at outbound
  cases outbound

/-- A refused message destroys the session. -/
theorem authenticate_refused {world : World} {valid : Bool}
    (refused : ¬ (valid = true ∧ session.password ∈ config.allowedPasswords)) :
    session.authenticate config world valid = session.destroy := by
  unfold Session.authenticate
  split
  · rename_i isValid
    rw [if_neg fun allowed => refused ⟨isValid, allowed⟩]
  · rfl

/-- The arrival of the first message is not outbound. -/
theorem firstMessage_quiet (message : Bytes) :
    ∀ effect ∈ [Effect.firstMessage message], isOutbound effect = false := by
  intro effect member
  rw [List.mem_singleton.mp member]
  rfl

/-- After the first message was parsed, the session goes on only when it was accepted. -/
theorem authenticate_gate {world : World} {valid : Bool} {parsed : Session} (message : Bytes)
    (authorised : Authorised config session.trace) (idle : parsed.pending = [])
    (trace : parsed.trace = session.trace ++ [.firstMessage message])
    (accepted : valid = true → parsed.password ∈ config.allowedPasswords →
      Accepted config message) :
    SessionGate config (parsed.authenticate config world valid) := by
  have quiet := firstMessage_quiet message
  by_cases allowed : valid = true ∧ parsed.password ∈ config.allowedPasswords
  · have kept := SessionGate.finish authorised quiet trace (.inl idle)
    refine SessionGate.extend kept.authorised ?_ (Session.authenticate_extends parsed world valid)
    refine ⟨.firstMessage message, by simp [trace], message, rfl, ?_⟩
    exact accepted allowed.1 allowed.2
  · rw [authenticate_refused allowed]
    refine SessionGate.finish authorised quiet ?_ (.inl ?_)
    · rw [Session.destroy_trace, trace]
    · rw [Session.destroy_pending, idle]

/-- The first message's handler goes on only for an accepted message. -/
theorem onFirstMessage_gate {world : World} {data : Bytes}
    (authorised : Authorised config session.trace) (idle : session.pending = [])
    (freshV : session.vReq = {}) (freshTrojan : session.trojanReq = {}) :
    SessionGate config
      (((session.fill .down data).emit (.firstMessage data)).onFirstMessage config world
        data.length) := by
  have message : ((session.fill .down data).emit (.firstMessage data)).inBuf.take data.length =
      data := by simp [Session.emit, Session.fill]
  unfold Session.onFirstMessage
  simp only [message]
  split
  · split
    · exact SessionGate.finish authorised (firstMessage_quiet data) rfl (.inl idle)
    · rename_i decoded decodes
      refine authenticate_gate data authorised idle rfl fun valid allowed => ?_
      refine .inl ⟨world.beyond, decoded.2, ?_, allowed⟩
      have fresh : ((session.fill .down data).emit (.firstMessage data)).vReq = {} := freshV
      rw [fresh] at decodes
      rw [decodes, ← valid]
  · refine authenticate_gate data authorised idle rfl fun valid allowed => .inr ?_
    have fresh : ((session.fill .down data).emit (.firstMessage data)).trojanReq = {} := freshTrojan
    rw [fresh] at valid allowed
    exact ⟨by simpa using valid, allowed⟩

/-- The handshakes lead to the first read or to the end. -/
theorem greeting_gate {world : World} {op : Op} {result : Result}
    (authorised : Authorised config session.trace) (idle : session.pending = [])
    (freshV : session.vReq = {}) (freshTrojan : session.trojanReq = {})
    (greeting : op.isGreeting = true) (admitted : op.admits result = true) :
    SessionGate config (session.handle config world op result) := by
  have waiting (op : Op) (isNext : op.isGreeting = true) : SessionGate config (session.await op) :=
    ⟨authorised, .inr (.inr ⟨op, by simp [Session.await, idle], isNext, freshV, freshTrojan⟩)⟩
  have ended : SessionGate config session.destroy := by
    refine ⟨?_, .inr (.inl ?_)⟩
    · rwa [Session.destroy_trace]
    · rw [Session.destroy_pending, idle]
  cases op with
  | handshake =>
    cases result with
    | failed => exact ended
    | done =>
      simp only [Session.handle]
      split
      · exact waiting .firstRead rfl
      · exact waiting .accept rfl
    | _ => cases admitted
  | accept =>
    cases result with
    | failed => exact ended
    | done => exact waiting .firstRead rfl
    | _ => cases admitted
  | firstRead =>
    cases result with
    | failed => exact ended
    | read data => exact onFirstMessage_gate authorised idle freshV freshTrojan
    | _ => cases admitted
  | _ => cases greeting

/-- Every step keeps outbound effects authorised. -/
theorem step_gate (config : ServerConfig) (session : Session) (event : Event) (next : Session)
    (gate : SessionGate config session) (stepped : session.step config event = some next) :
    SessionGate config next := by
  obtain ⟨-, -, outcome⟩ := Session.step_outcome stepped
  obtain ⟨pending, admitted, rfl⟩ := Session.step_some stepped
  obtain ⟨authorised, accepted⟩ := gate
  rcases accepted with granted | none | ⟨op, alone, greeting, freshV, freshTrojan⟩
  · have extended : session.trace <+: _ := outcome.extends
    exact SessionGate.extend authorised granted extended
  · simp [none] at pending
  · obtain same : event.op = op := by simpa [alone] using pending
    have idle : (session.complete op).pending = [] := by
      rw [Session.complete, alone, List.erase_cons_head]
    rw [same] at admitted ⊢
    exact greeting_gate authorised idle freshV freshTrojan greeting admitted

/-- Every reachable session has only authorised outbound effects. -/
theorem run_authorised {kind : SessionKind} {events : List Event}
    (ran : run (Session.step config) (Session.start kind) events = some session) :
    Authorised config session.trace := by
  have started : SessionGate config (Session.start kind) :=
    ⟨preceded_nil, .inr (.inr ⟨.handshake, rfl, rfl, rfl, rfl⟩)⟩
  exact (run_invariant (step_gate config) started ran).authorised

section Dtls

variable {sha224 : Bytes → Bytes} {ssl : Bool} {dtls : DtlsServerSession}

/-- The effect is the arrival, before proxying, of a record whose first line is an allowed
password. -/
def ShownBy (sha224 : Bytes → Bytes) (config : ServerConfig) (effect : DtlsEffect) : Prop :=
  ∃ record position, effect = .authRecord record ∧ find [10] record = some position ∧
    sha224 (record.take position) ∈ config.allowedPasswords

/-- Calls of `do_send_to_target` and of `do_resolve_and_send`. -/
def isTargetCall : DtlsEffect → Bool
  | .sendToTarget _ _ _ | .resolveAndSend _ _ _ _ => true
  | _ => false

/-- Resolutions, whose handlers call `do_send_to_target`. -/
def isResolve : DtlsOp → Bool
  | .resolve _ _ _ _ => true
  | _ => false

/-- Every call towards a target comes after an allowed password was shown. -/
def Shown (sha224 : Bytes → Bytes) (config : ServerConfig) (trace : List DtlsEffect) : Prop :=
  Preceded (fun earlier _ => ShownBy sha224 config earlier)
    (fun effect => isTargetCall effect = true) trace

/-- An allowed password was shown. -/
def Proved (sha224 : Bytes → Bytes) (config : ServerConfig) (dtls : DtlsServerSession) : Prop :=
  ∃ effect ∈ dtls.trace, ShownBy sha224 config effect

/-- Every call of OpenSSL behind `SSL_new`, which sets `ssl_`, was made with `ssl_` set. -/
def CallsLive (trace : List DtlsEffect) : Prop :=
  ∀ call live, DtlsEffect.openssl call live ∈ trace → call ≠ .sslNew → live = true

/-- What holds of every reachable DTLS session; `ssl` says whether `SSL_new` gave it an object. -/
structure DtlsGate (sha224 : Bytes → Bytes) (config : ServerConfig) (ssl : Bool)
    (dtls : DtlsServerSession) : Prop where
  /-- Calls towards targets were authorised. -/
  shown : Shown sha224 config dtls.trace
  /-- A session that proxies or resolves was authorised to. -/
  proved : dtls.state = .proxy ∨ (∃ op ∈ dtls.pending, isResolve op = true) →
    Proved sha224 config dtls
  /-- OpenSSL was called with `ssl_` set. -/
  live : ssl = true → CallsLive dtls.trace

/-- The gate is about the trace, the operations in flight and whether the session proxies. -/
theorem DtlsGate.congr {other : DtlsServerSession} (gate : DtlsGate sha224 config ssl dtls)
    (trace : other.trace = dtls.trace) (pending : other.pending = dtls.pending)
    (state : other.state = .proxy → dtls.state = .proxy) : DtlsGate sha224 config ssl other where
  shown := by
    rw [trace]
    exact gate.shown
  proved := by
    rw [Proved, trace, pending]
    exact fun needs => gate.proved (needs.imp_left state)
  live := by
    rw [trace]
    exact gate.live

/-- Effects can be recorded that are not calls towards a target, or once a password was
shown. -/
theorem DtlsGate.record {effects : List DtlsEffect} (gate : DtlsGate sha224 config ssl dtls)
    (live : ∀ call isLive, DtlsEffect.openssl call isLive ∈ effects → isLive = true)
    (allowed : (∀ effect ∈ effects, isTargetCall effect = false) ∨ Proved sha224 config dtls) :
    DtlsGate sha224 config ssl { dtls with trace := dtls.trace ++ effects } where
  shown := by
    refine gate.shown.append fun effect member requested => ?_
    rcases allowed with quiet | proved
    · rw [quiet effect member] at requested
      cases requested
    · exact proved
  proved := by
    intro needs
    obtain ⟨effect, member, shows⟩ := gate.proved needs
    exact ⟨effect, List.mem_append_left _ member, shows⟩
  live := by
    intro made call isLive member behind
    rcases List.mem_append.mp member with old | new
    · exact gate.live made call isLive old behind
    · exact live call isLive new

/-- Once shown, a password stays shown. -/
theorem Proved.emit (proved : Proved sha224 config dtls) (effect : DtlsEffect) :
    Proved sha224 config (dtls.emit effect) := by
  obtain ⟨earlier, member, shows⟩ := proved
  exact ⟨earlier, List.mem_append_left _ member, shows⟩

/-- An effect that is neither a call towards a target nor one of OpenSSL can be recorded. -/
theorem DtlsGate.emit (gate : DtlsGate sha224 config ssl dtls) (effect : DtlsEffect)
    (quiet : isTargetCall effect = false) (other : ∀ call live, effect ≠ .openssl call live) :
    DtlsGate sha224 config ssl (dtls.emit effect) := by
  refine gate.record ?_ (.inl ?_)
  · intro call live member
    exact absurd (List.mem_singleton.mp member).symm (other call live)
  · intro recorded member
    rwa [List.mem_singleton.mp member]

/-- A call towards a target can be made once a password was shown. -/
theorem DtlsGate.request (gate : DtlsGate sha224 config ssl dtls)
    (proved : Proved sha224 config dtls) (effect : DtlsEffect)
    (other : ∀ call live, effect ≠ .openssl call live) :
    DtlsGate sha224 config ssl (dtls.emit effect) := by
  refine gate.record ?_ (.inr proved)
  intro call live member
  exact absurd (List.mem_singleton.mp member).symm (other call live)

/-- OpenSSL can be called while `ssl_` is set. -/
theorem DtlsGate.call (gate : DtlsGate sha224 config ssl dtls) (set : dtls.ssl = true)
    (call : OpenSslCall) : DtlsGate sha224 config ssl (dtls.call call) := by
  refine gate.record ?_ (.inl ?_)
  · intro made live member
    obtain ⟨_, isLive⟩ := DtlsEffect.openssl.inj (List.mem_singleton.mp member)
    rw [isLive, set]
  · intro recorded member
    rw [List.mem_singleton.mp member]
    rfl

/-- An operation that is not a resolution, or any once a password was shown, can be started. -/
theorem DtlsGate.await (gate : DtlsGate sha224 config ssl dtls) (op : DtlsOp)
    (allowed : isResolve op = false ∨ Proved sha224 config dtls) :
    DtlsGate sha224 config ssl (dtls.await op) where
  shown := gate.shown
  live := gate.live
  proved := by
    rintro (proxying | ⟨started, member, resolves⟩)
    · exact gate.proved (.inl proxying)
    · rcases List.mem_append.mp member with old | new
      · exact gate.proved (.inr ⟨started, old, resolves⟩)
      · rcases allowed with plain | proved
        · rw [List.mem_singleton.mp new, plain] at resolves
          cases resolves
        · exact proved

/-- The output can be drained while `ssl_` is set. -/
theorem DtlsGate.drainWbio (gate : DtlsGate sha224 config ssl dtls) (set : dtls.ssl = true)
    (drained : List Bytes) : DtlsGate sha224 config ssl (dtls.drainWbio drained) := by
  obtain ⟨effects, drains, known⟩ := dtls.drainWbio_eq drained
  rw [drains]
  refine gate.record ?_ (.inl ?_)
  · intro call live member
    rcases known _ member with read | ⟨datagram, sent⟩
    · obtain ⟨_, isLive⟩ := DtlsEffect.openssl.inj read
      rw [isLive, set]
    · cases sent
  · intro effect member
    rcases known effect member with rfl | ⟨datagram, rfl⟩ <;> rfl

/-- A session can be stopped. -/
theorem DtlsGate.stop (gate : DtlsGate sha224 config ssl dtls) :
    DtlsGate sha224 config ssl dtls.stop := by
  unfold DtlsServerSession.stop
  split
  · exact gate
  · have ending : DtlsGate sha224 config ssl { dtls with destroyed := true, state := .destroy } :=
      gate.congr rfl rfl fun proxying => by cases proxying
    dsimp only
    split
    · rename_i set
      have freed := (ending.call set .sslShutdown).call set .sslFree
      refine DtlsGate.emit ?_ .destroyed rfl (by simp)
      exact freed.congr rfl rfl id
    · exact ending.emit .destroyed rfl (by simp)

/-- The target's socket can be read. -/
theorem DtlsGate.doReadTarget (gate : DtlsGate sha224 config ssl dtls) :
    DtlsGate sha224 config ssl dtls.doReadTarget := by
  unfold DtlsServerSession.doReadTarget
  split
  · exact gate
  · exact gate.await .targetReceive (.inl rfl)

/-- A datagram can be sent to a target once a password was shown. -/
theorem DtlsGate.doSendToTarget (gate : DtlsGate sha224 config ssl dtls)
    (proved : Proved sha224 config dtls) (endpoint : Endpoint) (payload : Bytes)
    (sessionId : UInt16) :
    DtlsGate sha224 config ssl (dtls.doSendToTarget endpoint payload sessionId) := by
  have requested := gate.request proved (.sendToTarget endpoint payload sessionId) (by simp)
  unfold DtlsServerSession.doSendToTarget
  dsimp only
  split
  all_goals
    refine DtlsGate.await ?_ .targetSend (.inl rfl)
    exact requested.congr rfl rfl id

/-- A name can be resolved for a target once a password was shown. -/
theorem DtlsGate.doResolveAndSend (gate : DtlsGate sha224 config ssl dtls)
    (proved : Proved sha224 config dtls) (answers : Answers) (domain : Bytes) (port : UInt16)
    (payload : Bytes) (sessionId : UInt16) :
    DtlsGate sha224 config ssl (dtls.doResolveAndSend answers domain port payload sessionId) := by
  have requested := gate.request proved (.resolveAndSend domain port payload sessionId) (by simp)
  have stillProved := proved.emit (.resolveAndSend domain port payload sessionId)
  unfold DtlsServerSession.doResolveAndSend
  dsimp only
  split
  · exact requested.doSendToTarget stillProved _ _ _
  · exact requested.await _ (.inr stillProved)

/-- A record can be handled while proxying. -/
theorem DtlsGate.onProxyRecord (gate : DtlsGate sha224 config ssl dtls)
    (proxying : dtls.state = .proxy) (answers : Answers) (record : Bytes) :
    DtlsGate sha224 config ssl (dtls.onProxyRecord answers record) := by
  have proved := (gate.proved (.inl proxying)).emit (.proxyRecord record)
  have received := gate.emit (.proxyRecord record) rfl (by simp)
  unfold DtlsServerSession.onProxyRecord
  dsimp only
  split
  · exact received
  · split
    · exact ⟨received.shown, received.proved, received.live⟩
    · split
      · unfold DtlsServerSession.onFrame
        split
        · exact received.doResolveAndSend proved _ _ _ _ _
        · split
          · exact received.doSendToTarget proved _ _ _
          · exact received
      · exact received

/-- A record can be handled before proxying. -/
theorem DtlsGate.onAuthRecord (gate : DtlsGate sha224 config ssl dtls) (set : dtls.ssl = true)
    (record : Bytes) : DtlsGate sha224 config ssl (dtls.onAuthRecord sha224 config record) := by
  have received := gate.emit (.authRecord record) rfl (by simp)
  have buffered : DtlsGate sha224 config ssl
      { (dtls.emit (.authRecord record)).startAuth with
        authBuf := (dtls.emit (.authRecord record)).startAuth.authBuf ++ record } :=
    received.congr rfl rfl fun proxying => by cases proxying
  unfold DtlsServerSession.onAuthRecord
  dsimp only
  split
  · exact buffered
  · rename_i position found
    have hashed := buffered.call set .evpDigest
    split
    · rename_i allowed
      refine DtlsGate.doReadTarget ⟨hashed.shown, fun _ => ?_, hashed.live⟩
      refine ⟨.authRecord record, ?_, record, position, rfl, ?_, ?_⟩
      · exact List.mem_append_left _ (List.mem_append_right _ (List.mem_singleton.mpr rfl))
      · exact found
      · exact allowed
    · exact hashed.stop

/-- An application record can be read. -/
theorem DtlsGate.tryReadAppData (gate : DtlsGate sha224 config ssl dtls) (answers : Answers) :
    DtlsGate sha224 config ssl (dtls.tryReadAppData sha224 config answers) := by
  unfold DtlsServerSession.tryReadAppData
  split
  · rename_i set
    have reading := gate.call set .sslRead
    dsimp only
    split
    · split
      · exact reading.call set .sslGetError
      · split
        · exact reading.onAuthRecord set _
        · rename_i proxying
          exact reading.onProxyRecord proxying _ _
        · exact reading
    · exact reading.call set .sslGetError
    · exact (reading.call set .sslGetError).stop
    · exact reading.call set .sslGetError
  · exact gate

/-- The handshake can go on. -/
theorem DtlsGate.processHandshake (gate : DtlsGate sha224 config ssl dtls) (answers : Answers) :
    DtlsGate sha224 config ssl (dtls.processHandshake sha224 config answers) := by
  unfold DtlsServerSession.processHandshake
  split
  · rename_i set
    have drained := (gate.call set .sslAccept).drainWbio set answers.drained
    have stillSet : ((dtls.call .sslAccept).drainWbio answers.drained).ssl = true := by
      rw [DtlsServerSession.drainWbio_ssl]
      exact set
    dsimp only
    split
    · refine DtlsGate.tryReadAppData ?_ answers
      exact drained.congr rfl rfl fun proxying => by cases proxying
    · exact drained.call stillSet .sslGetError
    · exact (drained.call stillSet .sslGetError).stop
  · exact gate

/-- A datagram of the client can be handled. -/
theorem DtlsGate.onDatagram (gate : DtlsGate sha224 config ssl dtls) (answers : Answers) :
    DtlsGate sha224 config ssl (dtls.onDatagram sha224 config answers) := by
  unfold DtlsServerSession.onDatagram
  split
  · exact gate
  · rename_i alive
    have set : dtls.ssl = true := by simpa using (not_or.mp alive).2
    have written := gate.call set .bioWrite
    dsimp only
    split
    · exact written.processHandshake answers
    · exact written.tryReadAppData answers
    · exact written.tryReadAppData answers
    · exact written

/-- A record can be sent to the client. -/
theorem DtlsGate.sendToClient (gate : DtlsGate sha224 config ssl dtls) (answers : Answers)
    (data : Bytes) : DtlsGate sha224 config ssl (dtls.sendToClient answers data) := by
  unfold DtlsServerSession.sendToClient
  split
  · exact gate
  · rename_i alive
    have set : dtls.ssl = true := by simpa using (not_or.mp alive).1
    have written := gate.call set .sslWrite
    dsimp only
    split
    · exact (written.emit (.record data) rfl (by simp)).drainWbio set _
    · exact (written.call set .sslGetError).call set .errGetError

/-- A completed operation can be handled. -/
theorem DtlsGate.handle (gate : DtlsGate sha224 config ssl dtls) {op : DtlsOp} (result : DtlsResult)
    (proved : isResolve op = true → Proved sha224 config dtls) (answers : Answers) :
    DtlsGate sha224 config ssl (dtls.handle answers op result) := by
  cases op with
  | resolve domain port payload sessionId =>
    cases result with
    | resolved results =>
      simp only [DtlsServerSession.handle]
      split
      · exact ⟨gate.shown, gate.proved, gate.live⟩
      · exact (gate.emit _ rfl (by simp)).doSendToTarget ((proved rfl).emit _) _ _ _
    | _ => exact gate
  | targetSend => exact gate
  | targetReceive =>
    cases result with
    | failed => exact gate.doReadTarget
    | received sender data => exact (gate.sendToClient _ _).doReadTarget
    | _ => exact gate

/-- Every event keeps the gate. -/
theorem dtls_step_gate (sha224 : Bytes → Bytes) (config : ServerConfig) (ssl : Bool)
    (dtls : DtlsServerSession) (event : DtlsEvent) (next : DtlsServerSession)
    (gate : DtlsGate sha224 config ssl dtls)
    (stepped : dtls.step sha224 config event = some next) : DtlsGate sha224 config ssl next := by
  unfold DtlsServerSession.step at stepped
  split at stepped
  · cases stepped
  cases event with
  | datagram answers =>
    obtain rfl := Option.some.inj stepped
    exact gate.onDatagram answers
  | completed op result answers =>
    dsimp only at stepped
    split at stepped
    · rename_i enabled
      obtain rfl := Option.some.inj stepped
      have completed : DtlsGate sha224 config ssl (dtls.complete op) := by
        refine ⟨gate.shown, ?_, gate.live⟩
        rintro (proxying | ⟨other, member, resolves⟩)
        · exact gate.proved (.inl proxying)
        · exact gate.proved (.inr ⟨other, List.mem_of_mem_erase member, resolves⟩)
      exact completed.handle result (fun resolves => gate.proved (.inr ⟨op, enabled.1, resolves⟩))
        answers
    · cases stepped
  | stop =>
    obtain rfl := Option.some.inj stepped
    exact gate.stop

/-- A session as its constructor leaves it. -/
theorem created_gate (sha224 : Bytes → Bytes) (config : ServerConfig) (ssl : Bool) :
    DtlsGate sha224 config ssl (DtlsServerSession.created ssl) := by
  have quiet : ∀ effect ∈ (DtlsServerSession.created ssl).trace, isTargetCall effect = false := by
    simp [DtlsServerSession.created_trace, isTargetCall]
  refine ⟨?_, ?_, ?_⟩
  · refine preceded_nil.append fun effect member requested => ?_
    rw [quiet effect member] at requested
    cases requested
  · rintro (proxying | ⟨op, member, _⟩)
    · cases proxying
    · cases member
  · rintro rfl call live member behind
    have known : ∀ effect ∈ (DtlsServerSession.created true).trace,
        effect = .openssl .sslNew false ∨ ∃ call, effect = .openssl call true := by
      simp [DtlsServerSession.created_trace]
    rcases known _ member with first | ⟨other, later⟩
    · exact absurd (DtlsEffect.openssl.inj first).1 behind
    · exact (DtlsEffect.openssl.inj later).2

end Dtls

/-- **No open relay.** In every run of a TLS or websocket session, every resolution, connection
and datagram comes after a first message that parsed with an allowed password. In every run of a
DTLS session, every call of `do_send_to_target` and `do_resolve_and_send` comes after a record in
state `AUTH` whose first line hashes to an allowed password, and the state never moves back.
OpenSSL is never called without `ssl_` exactly when `SSL_new` gave the session an object. -/
theorem no_open_relay (sha224 : Bytes → Bytes) (config : ServerConfig) :
    (∀ kind events session,
      run (Session.step config) (Session.start kind) events = some session →
        Authorised config session.trace) ∧
      ∀ ssl events dtls,
        run (DtlsServerSession.step sha224 config) (DtlsServerSession.created ssl) events =
            some dtls →
          Shown sha224 config dtls.trace ∧ (CallsLive dtls.trace ↔ ssl = true) ∧
            ∀ further later, run (DtlsServerSession.step sha224 config) dtls further = some later →
              dtls.state.rank ≤ later.state.rank := by
  refine ⟨fun kind events session ran => run_authorised ran, fun ssl events dtls ran => ?_⟩
  have gate := run_invariant (dtls_step_gate sha224 config ssl) (created_gate sha224 config ssl) ran
  refine ⟨gate.shown, ⟨fun live => ?_, gate.live⟩, fun further later goesOn => ?_⟩
  · have made : DtlsEffect.openssl .sslSetBio ssl ∈ (DtlsServerSession.created ssl).trace := by
      simp [DtlsServerSession.created_trace]
    exact live _ _ (DtlsServerSession.run_extends ran made) (by simp)
  · exact run_monotone (fun state => state.state.rank)
      (fun _ _ _ stepped => DtlsServerSession.step_rank stepped) goesOn

/-- A client that shows the password `p` and then sends one datagram to 127.0.0.1, port 53. -/
def sampleRecords : List DtlsEvent :=
  [.datagram { accept := .done, read := .data [0x70, 10] },
    .datagram { read := .data ([0, 1] ++ UdpFrame.generate ⟨.ofWord 0x7f000001, 53⟩ [7]) }]

/-- The sample client reaches its target, and only after its password was checked. -/
theorem no_open_relay_sample : ∃ dtls,
    run (DtlsServerSession.step id ⟨[[0x70]]⟩) (DtlsServerSession.created true) sampleRecords =
        some dtls ∧
      DtlsEffect.sendToTarget ⟨.ofWord 0x7f000001, 53⟩ [7] 1 ∈ dtls.trace ∧
      Shown id ⟨[[0x70]]⟩ dtls.trace ∧ CallsLive dtls.trace := by
  have checked : (run (DtlsServerSession.step id ⟨[[0x70]]⟩) (DtlsServerSession.created true)
      sampleRecords).any
        (fun dtls => decide (.sendToTarget ⟨.ofWord 0x7f000001, 53⟩ [7] 1 ∈ dtls.trace)) =
          true := by
    decide +kernel
  obtain ⟨dtls, ran, sent⟩ := exists_of_run checked
  have safe := (no_open_relay id ⟨[[0x70]]⟩).2 true sampleRecords dtls ran
  exact ⟨dtls, ran, of_decide_eq_true sent, safe.1, safe.2.1.mpr rfl⟩

/-- Where `SSL_new` fails, the constructor hands the null pointer to `SSL_set_bio`. -/
theorem null_handed_to_openssl : ∃ dtls,
    run (DtlsServerSession.step id ⟨[]⟩) (DtlsServerSession.created false) [] = some dtls ∧
      DtlsEffect.openssl .sslSetBio false ∈ dtls.trace ∧ ¬ CallsLive dtls.trace := by
  have made : DtlsEffect.openssl .sslSetBio false ∈ (DtlsServerSession.created false).trace := by
    decide
  refine ⟨DtlsServerSession.created false, rfl, made, ?_⟩
  intro live
  cases live _ _ made (by decide)

end Overplus.Verif.NoOpenRelay
