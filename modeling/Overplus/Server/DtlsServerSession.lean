import Overplus.Library.Run
import Overplus.Library.Text
import Overplus.Protocol.UdpFrame
import Overplus.Server.Session

/-!
# The server's DTLS session

`DtlsServerSession` as a machine. A step is a datagram handed over by the listener, the
completion of a pending operation, or a call of `stop`. OpenSSL is outside the program: a
step takes its answers from an `Answers` record, and every call made to it is recorded in
the trace together with whether `ssl_` was set at the time. `SHA-224` in hexadecimal is a
parameter. The machine starts with the session as its constructor leaves it, with `ssl_`
whatever `SSL_new` returned; the constructor does not look at it and goes on. What OpenSSL does
with a null pointer is its own affair, and the session is taken to live on.
-/
namespace Overplus.Server

/-- `DtlsServerSession::State`. -/
inductive DtlsState where
  /-- `HANDSHAKE`. -/
  | handshake
  /-- `AUTH`. -/
  | auth
  /-- `PROXY`. -/
  | proxy
  /-- `DESTROY`. -/
  | destroy
deriving DecidableEq, Repr

/-- Place of a state in the order `HANDSHAKE < AUTH < PROXY < DESTROY`. -/
def DtlsState.rank : DtlsState → Nat
  | .handshake => 0
  | .auth => 1
  | .proxy => 2
  | .destroy => 3

/-- `DESTROY` is the last state. -/
theorem DtlsState.rank_le (state : DtlsState) : state.rank ≤ DtlsState.destroy.rank := by
  cases state <;> decide

/-- Functions of OpenSSL the session calls. -/
inductive OpenSslCall where
  /-- `SSL_new`. -/
  | sslNew
  /-- `BIO_new`. -/
  | bioNew
  /-- `SSL_set_bio`. -/
  | sslSetBio
  /-- `BIO_write`. -/
  | bioWrite
  /-- `BIO_read`. -/
  | bioRead
  /-- `SSL_accept`. -/
  | sslAccept
  /-- `SSL_read`. -/
  | sslRead
  /-- `SSL_write`. -/
  | sslWrite
  /-- `SSL_get_error`. -/
  | sslGetError
  /-- `ERR_get_error` and `ERR_error_string_n`. -/
  | errGetError
  /-- The `EVP` functions of one digest. -/
  | evpDigest
  /-- `SSL_shutdown`. -/
  | sslShutdown
  /-- `SSL_free`. -/
  | sslFree
deriving DecidableEq, Repr

/-- What `SSL_accept` and `SSL_get_error` answer. -/
inductive AcceptResult where
  /-- The handshake is complete. -/
  | done
  /-- `SSL_ERROR_WANT_READ`. -/
  | wantRead
  /-- Any other error. -/
  | failed
deriving DecidableEq, Repr

/-- What `SSL_read` and `SSL_get_error` answer. -/
inductive ReadResult where
  /-- An application record; an empty one is a return value of zero. -/
  | data (record : Bytes)
  /-- `SSL_ERROR_WANT_READ`. -/
  | wantRead
  /-- `SSL_ERROR_ZERO_RETURN`. -/
  | zeroReturn
  /-- Any other error. -/
  | failed
deriving DecidableEq, Repr

/-- Answers of OpenSSL and of the name cache during one step. -/
structure Answers where
  /-- `SSL_accept`. -/
  accept : AcceptResult := .wantRead
  /-- `SSL_read`. -/
  read : ReadResult := .wantRead
  /-- `SSL_write` returned a positive number. -/
  write : Bool := true
  /-- What `BIO_read` returned before it returned nothing. -/
  drained : List Bytes := []
  /-- `DnsCacheManager::get_udp`. -/
  cachedUdp : Bytes → Option Endpoint := fun _ => none

/-- Asynchronous operations, with what their handlers capture. -/
inductive DtlsOp where
  /-- The resolution of `do_resolve_and_send`. -/
  | resolve (domain : Bytes) (port : UInt16) (payload : Bytes) (sessionId : UInt16)
  /-- The send of `do_send_to_target`. -/
  | targetSend
  /-- The receive of `do_read_target`. -/
  | targetReceive
deriving DecidableEq, Repr

/-- How an operation completes. -/
inductive DtlsResult where
  /-- With `operation_aborted`. -/
  | aborted
  /-- With another error. -/
  | failed
  /-- Without error and without data. -/
  | done
  /-- With the endpoints of a name. -/
  | resolved (results : List Endpoint)
  /-- With a datagram from a sender. -/
  | received (sender : Endpoint) (data : Bytes)

/-- What a session does to its surroundings. -/
inductive DtlsEffect where
  /-- A call of OpenSSL, and whether `ssl_` was set. -/
  | openssl (call : OpenSslCall) (live : Bool)
  /-- An application record was read in state `AUTH`. -/
  | authRecord (record : Bytes)
  /-- An application record was read in state `PROXY`. -/
  | proxyRecord (record : Bytes)
  /-- A call of `do_resolve_and_send`. -/
  | resolveAndSend (domain : Bytes) (port : UInt16) (payload : Bytes) (sessionId : UInt16)
  /-- A call of `do_send_to_target`. -/
  | sendToTarget (endpoint : Endpoint) (payload : Bytes) (sessionId : UInt16)
  /-- `put_udp`. -/
  | putUdp (dnsKey : Bytes) (endpoint : Endpoint)
  /-- A record for the client was handed to `SSL_write`, which took it. -/
  | record (data : Bytes)
  /-- A datagram was sent to the client. -/
  | toClient (datagram : Bytes)
  /-- `on_destroy_` was called. -/
  | destroyed
deriving DecidableEq

/-- `DtlsServerSession`, its pending operations and its trace. -/
structure DtlsServerSession where
  /-- `state_`. -/
  state : DtlsState := .handshake
  /-- `ssl_` is set. `rbio_` and `wbio_` are read only where it is. -/
  ssl : Bool
  /-- `destroyed_`. -/
  destroyed : Bool := false
  /-- `auth_buf_`. -/
  authBuf : Bytes := []
  /-- `target_ep_`. -/
  targetEp : Endpoint := Endpoint.unspecified
  /-- `target_to_session_`. -/
  targetToSession : Endpoint → Option UInt16 := fun _ => none
  /-- Operations in flight. -/
  pending : List DtlsOp := []
  /-- What the session has done. -/
  trace : List DtlsEffect := []
  /-- The process was ended by an exception or a stray read. -/
  crashed : Bool := false

namespace DtlsServerSession

/-- Start an asynchronous operation. -/
def await (session : DtlsServerSession) (op : DtlsOp) : DtlsServerSession :=
  { session with pending := session.pending ++ [op] }

/-- Take an operation off the list of pending ones. -/
def complete (session : DtlsServerSession) (op : DtlsOp) : DtlsServerSession :=
  { session with pending := session.pending.erase op }

/-- Record an effect. -/
def emit (session : DtlsServerSession) (effect : DtlsEffect) : DtlsServerSession :=
  { session with trace := session.trace ++ [effect] }

/-- Call OpenSSL. -/
def call (session : DtlsServerSession) (call : OpenSslCall) : DtlsServerSession :=
  session.emit (.openssl call session.ssl)

/-- `drain_wbio`. -/
def drainWbio (session : DtlsServerSession) (drained : List Bytes) : DtlsServerSession :=
  (drained.foldl (fun session datagram => (session.call .bioRead).emit (.toClient datagram))
    session).call .bioRead

/-- `stop`, which is also `destroy` and the destructor. -/
def stop (session : DtlsServerSession) : DtlsServerSession :=
  if session.destroyed then session
  else
    let session := { session with destroyed := true, state := .destroy }
    let session := if session.ssl then
        { (session.call .sslShutdown).call .sslFree with ssl := false }
      else session
    session.emit .destroyed

/-- `do_read_target`. -/
def doReadTarget (session : DtlsServerSession) : DtlsServerSession :=
  if session.state = .destroy then session else session.await .targetReceive

/-- `do_send_to_target`. -/
def doSendToTarget (session : DtlsServerSession) (endpoint : Endpoint) (payload : Bytes)
    (sessionId : UInt16) : DtlsServerSession :=
  let session := session.emit (.sendToTarget endpoint payload sessionId)
  let session := { session with targetEp := endpoint }
  let session := if sessionId = 0 then session
    else { session with
      targetToSession := Function.update session.targetToSession endpoint (some sessionId) }
  session.await .targetSend

/-- `do_resolve_and_send`. -/
def doResolveAndSend (session : DtlsServerSession) (answers : Answers) (domain : Bytes)
    (port : UInt16) (payload : Bytes) (sessionId : UInt16) : DtlsServerSession :=
  let session := session.emit (.resolveAndSend domain port payload sessionId)
  match answers.cachedUdp (Session.dnsKey domain (decimal port.toNat)) with
  | some endpoint => session.doSendToTarget endpoint payload sessionId
  | none => session.await (.resolve domain port payload sessionId)

/-- `start_auth`. -/
def startAuth (session : DtlsServerSession) : DtlsServerSession :=
  { session with state := .auth, authBuf := [] }

/-- `start_proxy`. -/
def startProxy (session : DtlsServerSession) : DtlsServerSession :=
  { session with state := .proxy }.doReadTarget

/-- A record in state `AUTH`. -/
def onAuthRecord (session : DtlsServerSession) (sha224 : Bytes → Bytes) (config : ServerConfig)
    (record : Bytes) : DtlsServerSession :=
  let session := (session.emit (.authRecord record)).startAuth
  let session := { session with authBuf := session.authBuf ++ record }
  match find [10] session.authBuf with
  | none => session
  | some position =>
    let session := session.call .evpDigest
    if sha224 (session.authBuf.take position) ∈ config.allowedPasswords then session.startProxy
    else session.stop

/-- The endpoint an IPv4 or IPv6 frame names. -/
def frameEndpoint (frame : UdpFrame) : Endpoint :=
  if frame.addrType = UdpFrame.addrIpv4 then ⟨.ofWord (wordAt frame.address 0), frame.port⟩
  else ⟨.v6 (FixedBytes.copy 16 frame.address), frame.port⟩

/-- A frame received in state `PROXY`. -/
def onFrame (session : DtlsServerSession) (answers : Answers) (sessionId : UInt16)
    (frame : UdpFrame) : DtlsServerSession :=
  if frame.addrType = UdpFrame.addrDomain then
    session.doResolveAndSend answers frame.address frame.port frame.payload sessionId
  else if frame.addrType = UdpFrame.addrIpv4 ∨ frame.addrType = UdpFrame.addrIpv6 then
    session.doSendToTarget (frameEndpoint frame) frame.payload sessionId
  else session

/-- A record in state `PROXY`. -/
def onProxyRecord (session : DtlsServerSession) (answers : Answers) (record : Bytes) :
    DtlsServerSession :=
  let session := session.emit (.proxyRecord record)
  if record.length < 2 then session
  else
    let sessionId := ofBe16 (record.getD 0 0) (record.getD 1 0)
    match UdpFrame.parseFresh (record.drop 2) with
    | .error _ => { session with crashed := true }
    | .ok parsed =>
      if parsed.accepted then session.onFrame answers sessionId parsed.frame else session

/-- `try_read_app_data`. -/
def tryReadAppData (session : DtlsServerSession) (sha224 : Bytes → Bytes) (config : ServerConfig)
    (answers : Answers) : DtlsServerSession :=
  if session.ssl then
    let session := session.call .sslRead
    match answers.read with
    | .data record =>
      if record.isEmpty then session.call .sslGetError
      else match session.state with
      | .auth => session.onAuthRecord sha224 config record
      | .proxy => session.onProxyRecord answers record
      | _ => session
    | .wantRead => session.call .sslGetError
    | .zeroReturn => (session.call .sslGetError).stop
    | .failed => session.call .sslGetError
  else session

/-- `process_handshake`. -/
def processHandshake (session : DtlsServerSession) (sha224 : Bytes → Bytes)
    (config : ServerConfig) (answers : Answers) : DtlsServerSession :=
  if session.ssl then
    let session := (session.call .sslAccept).drainWbio answers.drained
    match answers.accept with
    | .done => { session with state := .auth }.tryReadAppData sha224 config answers
    | .wantRead => session.call .sslGetError
    | .failed => (session.call .sslGetError).stop
  else session

/-- `on_datagram`. -/
def onDatagram (session : DtlsServerSession) (sha224 : Bytes → Bytes) (config : ServerConfig)
    (answers : Answers) : DtlsServerSession :=
  if session.state = .destroy ∨ session.ssl = false then session
  else
    let session := session.call .bioWrite
    match session.state with
    | .handshake => session.processHandshake sha224 config answers
    | .auth => session.tryReadAppData sha224 config answers
    | .proxy => session.tryReadAppData sha224 config answers
    | .destroy => session

/-- `send_to_client`. -/
def sendToClient (session : DtlsServerSession) (answers : Answers) (data : Bytes) :
    DtlsServerSession :=
  if session.ssl = false ∨ session.state = .destroy then session
  else
    let session := session.call .sslWrite
    if answers.write then (session.emit (.record data)).drainWbio answers.drained
    else (session.call .sslGetError).call .errGetError

/-- The record for the client that carries a datagram of a target. -/
def replyRecord (session : DtlsServerSession) (sender : Endpoint) (data : Bytes) : Bytes :=
  be16 ((session.targetToSession sender).getD 0) ++ UdpFrame.generate sender data

/-- Run the handler of a completed operation. -/
def handle (session : DtlsServerSession) (answers : Answers) :
    DtlsOp → DtlsResult → DtlsServerSession
  | .resolve domain port payload sessionId, .resolved results =>
    match results.head? with
    | none => { session with crashed := true }
    | some endpoint =>
      (session.emit (.putUdp (Session.dnsKey domain (decimal port.toNat)) endpoint)).doSendToTarget
        endpoint payload sessionId
  | .targetReceive, .failed => session.doReadTarget
  | .targetReceive, .received sender data =>
    (session.sendToClient answers (session.replyRecord sender data)).doReadTarget
  | _, _ => session

end DtlsServerSession

/-- Results an operation can have. -/
def DtlsOp.admits : DtlsOp → DtlsResult → Bool
  | _, .aborted => true
  | _, .failed => true
  | .resolve _ _ _ _, .resolved _ => true
  | .targetSend, .done => true
  | .targetReceive, .received _ data => decide (data.length ≤ 65535)
  | _, _ => false

/-- What can happen to a session. -/
inductive DtlsEvent where
  /-- The listener hands over a datagram of the client. -/
  | datagram (answers : Answers)
  /-- A pending operation completes. -/
  | completed (op : DtlsOp) (result : DtlsResult) (answers : Answers)
  /-- `stop` is called. -/
  | stop

/-- The constructor; `ssl` says whether `SSL_new` returned an object. -/
def DtlsServerSession.created (ssl : Bool) : DtlsServerSession :=
  let session : DtlsServerSession := { ssl := false }
  let session := { session.call .sslNew with ssl := ssl }
  ((session.call .bioNew).call .bioNew).call .sslSetBio

/-- What the constructor does shows as four calls of OpenSSL. -/
theorem DtlsServerSession.created_trace (ssl : Bool) : (created ssl).trace =
    [.openssl .sslNew false, .openssl .bioNew ssl, .openssl .bioNew ssl,
      .openssl .sslSetBio ssl] := rfl

/-- One event. -/
def DtlsServerSession.step (sha224 : Bytes → Bytes) (config : ServerConfig)
    (session : DtlsServerSession) (event : DtlsEvent) : Option DtlsServerSession :=
  if session.crashed then none
  else match event with
  | .datagram answers => some (session.onDatagram sha224 config answers)
  | .completed op result answers =>
    if op ∈ session.pending ∧ op.admits result = true then
      some ((session.complete op).handle answers op result)
    else none
  | .stop => some session.stop

namespace DtlsServerSession

variable {session : DtlsServerSession}

/-- Draining the output only records the reads and the datagrams sent. -/
theorem drainWbio_eq (session : DtlsServerSession) (drained : List Bytes) :
    ∃ effects, session.drainWbio drained = { session with trace := session.trace ++ effects } ∧
      ∀ effect ∈ effects, effect = .openssl .bioRead session.ssl ∨
        ∃ datagram, effect = .toClient datagram := by
  induction drained generalizing session with
  | nil => exact ⟨[.openssl .bioRead session.ssl], rfl, by simp⟩
  | cons datagram rest ih =>
    obtain ⟨effects, drains, known⟩ := ih ((session.call .bioRead).emit (.toClient datagram))
    refine ⟨.openssl .bioRead session.ssl :: .toClient datagram :: effects, ?_, ?_⟩
    · change ((session.call .bioRead).emit (.toClient datagram)).drainWbio rest = _
      rw [drains]
      simp [call, emit]
    · intro effect member
      rcases List.mem_cons.mp member with rfl | later
      · exact .inl rfl
      rcases List.mem_cons.mp later with rfl | later
      · exact .inr ⟨datagram, rfl⟩
      · exact known effect later

@[simp]
theorem drainWbio_ssl (drained : List Bytes) : (session.drainWbio drained).ssl = session.ssl := by
  obtain ⟨effects, drains, _⟩ := session.drainWbio_eq drained
  rw [drains]

@[simp]
theorem drainWbio_state (drained : List Bytes) :
    (session.drainWbio drained).state = session.state := by
  obtain ⟨effects, drains, _⟩ := session.drainWbio_eq drained
  rw [drains]

@[simp]
theorem doReadTarget_state : session.doReadTarget.state = session.state := by
  unfold doReadTarget
  split <;> rfl

@[simp]
theorem doSendToTarget_state (endpoint : Endpoint) (payload : Bytes) (sessionId : UInt16) :
    (session.doSendToTarget endpoint payload sessionId).state = session.state := by
  unfold doSendToTarget
  dsimp only
  split <;> rfl

@[simp]
theorem doResolveAndSend_state (answers : Answers) (domain : Bytes) (port : UInt16)
    (payload : Bytes) (sessionId : UInt16) :
    (session.doResolveAndSend answers domain port payload sessionId).state = session.state := by
  unfold doResolveAndSend
  dsimp only
  split
  · rw [doSendToTarget_state]
    rfl
  · rfl

@[simp]
theorem onProxyRecord_state (answers : Answers) (record : Bytes) :
    (session.onProxyRecord answers record).state = session.state := by
  unfold onProxyRecord onFrame
  dsimp only
  split
  · rfl
  · split
    · rfl
    · split
      · split
        · rw [doResolveAndSend_state]
          rfl
        · split
          · rw [doSendToTarget_state]
            rfl
          · rfl
      · rfl

@[simp]
theorem sendToClient_state (answers : Answers) (data : Bytes) :
    (session.sendToClient answers data).state = session.state := by
  unfold sendToClient
  split
  · rfl
  · dsimp only
    split
    · rw [drainWbio_state]
      rfl
    · rfl

/-- Stopping moves the state forward. -/
theorem stop_rank (session : DtlsServerSession) :
    session.state.rank ≤ session.stop.state.rank := by
  unfold stop
  split
  · exact le_rfl
  · dsimp only
    split <;> exact session.state.rank_le

/-- A record received before proxying moves the state forward. -/
theorem onAuthRecord_rank {sha224 : Bytes → Bytes} {config : ServerConfig} (record : Bytes)
    (auth : session.state = .auth) :
    session.state.rank ≤ (session.onAuthRecord sha224 config record).state.rank := by
  unfold onAuthRecord
  dsimp only
  rw [auth]
  split
  · exact le_rfl
  · split
    · rw [startProxy, doReadTarget_state]
      exact Nat.le_succ 1
    · refine le_trans ?_ (stop_rank _)
      exact le_rfl

/-- Reading a record moves the state forward. -/
theorem tryReadAppData_rank {sha224 : Bytes → Bytes} {config : ServerConfig}
    (session : DtlsServerSession) (answers : Answers) :
    session.state.rank ≤ (session.tryReadAppData sha224 config answers).state.rank := by
  unfold tryReadAppData
  split
  · dsimp only
    split
    · split
      · exact le_rfl
      · split
        · rename_i auth
          exact onAuthRecord_rank _ auth
        · rw [onProxyRecord_state]
          exact le_rfl
        · exact le_rfl
    · exact le_rfl
    · refine le_trans ?_ (stop_rank _)
      exact le_rfl
    · exact le_rfl
  · exact le_rfl

/-- **The state of a DTLS session only moves forward.** -/
theorem step_rank {sha224 : Bytes → Bytes} {config : ServerConfig} {event : DtlsEvent}
    {next : DtlsServerSession} (stepped : session.step sha224 config event = some next) :
    session.state.rank ≤ next.state.rank := by
  unfold step at stepped
  split at stepped
  · cases stepped
  cases event with
  | datagram answers =>
    obtain rfl := Option.some.inj stepped
    unfold onDatagram
    split
    · exact le_rfl
    · dsimp only
      split
      · rename_i handshake
        change session.state = .handshake at handshake
        rw [handshake]
        exact Nat.zero_le _
      · exact tryReadAppData_rank (session.call .bioWrite) answers
      · exact tryReadAppData_rank (session.call .bioWrite) answers
      · exact le_rfl
  | completed op result answers =>
    dsimp only at stepped
    split at stepped
    · obtain rfl := Option.some.inj stepped
      cases op with
      | resolve domain port payload sessionId =>
        cases result with
        | resolved results =>
          simp only [handle]
          split
          · exact le_rfl
          · rw [doSendToTarget_state]
            exact le_rfl
        | _ => exact le_rfl
      | targetSend => exact le_rfl
      | targetReceive =>
        cases result with
        | failed =>
          simp only [handle, doReadTarget_state]
          exact le_rfl
        | received sender data =>
          simp only [handle, doReadTarget_state, sendToClient_state]
          exact le_rfl
        | _ => exact le_rfl
    · cases stepped
  | stop =>
    obtain rfl := Option.some.inj stepped
    exact session.stop_rank

end DtlsServerSession

end Overplus.Server
