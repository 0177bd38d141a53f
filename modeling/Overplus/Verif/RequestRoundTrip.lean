import Overplus.Client.SessionSteps
import Overplus.Server.SessionSteps

/-!
# The request from the client to the server

A V request survives its encoding and decoding, with any early data behind it. The client puts
into it the host and port its application asked for, over SOCKS5 or over HTTP, so the server
resolves exactly that host and port.
-/
namespace Overplus.Verif.RequestRoundTrip

open Client

section Client

/-- Operations of a session that carries or prepares a tunnel. -/
def isTunnel : Op → Bool
  | .firstRead | .greetingWrite | .requestRead | .headerRead _ => false
  | .associateWrite | .controlRead => false
  | _ => true

/-- Hosts and ports an application asked for. -/
def askedFor (trace : List Effect) : List (Bytes × UInt16) :=
  trace.filterMap fun effect => match effect with
    | .asked host port => some (host, port)
    | _ => none

/-- V requests sent. -/
def vRequests (trace : List Effect) : List Bytes :=
  trace.filterMap fun effect => match effect with
    | .vRequest data => some data
    | _ => none

/-- The V request of an account for a host and a port. -/
def requestFor (config : ClientConfig) (host : Bytes) (port : UInt16) : VRequest where
  header := { version := 0x01 }
  userName := config.userName
  password := config.password
  address := host
  port := port

/-- A session that has not been asked for a tunnel. -/
structure Unasked (config : ClientConfig) (session : Session) : Prop where
  /-- The account is the configured one. -/
  account : session.userName = config.userName ∧ session.password = config.password
  /-- Nothing was asked for. -/
  asked : askedFor session.trace = []
  /-- Nothing was requested. -/
  requested : vRequests session.trace = []
  /-- At most one operation is in flight, and it prepares no tunnel. -/
  alone : session.pending = [] ∨ ∃ op, session.pending = [op] ∧ isTunnel op = false

/-- A session that was asked for a tunnel. -/
structure Asked (config : ClientConfig) (session : Session) : Prop where
  /-- The account is the configured one. -/
  account : session.userName = config.userName ∧ session.password = config.password
  /-- It was asked once, for what the request object holds. -/
  asked : askedFor session.trace = [(session.socks5Req.remoteHost, session.socks5Req.remotePort)]
  /-- Every V request asks for the same. -/
  requested : ∀ data ∈ vRequests session.trace, data =
    ((requestFor config session.socks5Req.remoteHost session.socks5Req.remotePort).stream []).2
  /-- Only operations of the tunnel are in flight. -/
  tunnel : ∀ op ∈ session.pending, isTunnel op = true

variable {config : ClientConfig} {scope : Scope} {session next : Session} {op : Op}

@[simp]
theorem askedFor_append (before after : List Effect) :
    askedFor (before ++ after) = askedFor before ++ askedFor after := List.filterMap_append

@[simp]
theorem vRequests_append (before after : List Effect) :
    vRequests (before ++ after) = vRequests before ++ vRequests after := List.filterMap_append

/-- What was asked for does not depend on the rest of a session. -/
theorem Unasked.congr (unasked : Unasked config session)
    (userName : next.userName = session.userName)
    (password : next.password = session.password) (trace : next.trace = session.trace)
    (pending : next.pending = session.pending) : Unasked config next where
  account := by rw [userName, password]; exact unasked.account
  asked := by rw [trace]; exact unasked.asked
  requested := by rw [trace]; exact unasked.requested
  alone := by rw [pending]; exact unasked.alone

/-- What was asked for does not depend on the rest of a session. -/
theorem Asked.congr (asked : Asked config session) (userName : next.userName = session.userName)
    (password : next.password = session.password) (trace : next.trace = session.trace)
    (request : next.socks5Req = session.socks5Req) (pending : next.pending = session.pending) :
    Asked config next where
  account := by rw [userName, password]; exact asked.account
  asked := by rw [trace, request]; exact asked.asked
  requested := by rw [trace, request]; exact asked.requested
  tunnel := by rw [pending]; exact asked.tunnel

/-- Starting an operation of the tunnel. -/
theorem Asked.await (asked : Asked config scope.session) (own : isTunnel op = true) :
    Asked config (scope.await op).session where
  account := asked.account
  asked := asked.asked
  requested := asked.requested
  tunnel := by
    intro other member
    rcases List.mem_append.mp member with old | new
    · exact asked.tunnel other old
    · rwa [List.mem_singleton.mp new]

/-- Recording an effect that is neither a question nor a request. -/
theorem Asked.emit {effect : Effect} (asked : Asked config scope.session)
    (question : askedFor [effect] = []) (request : vRequests [effect] = []) :
    Asked config (scope.emit effect).session where
  account := asked.account
  asked := by
    change askedFor (scope.session.trace ++ [effect]) = _
    rw [askedFor_append, question, List.append_nil]
    exact asked.asked
  requested := by
    change ∀ data ∈ vRequests (scope.session.trace ++ [effect]), _
    rw [vRequests_append, request, List.append_nil]
    exact asked.requested
  tunnel := asked.tunnel

/-- Destroying a session. -/
theorem Asked.destroy (asked : Asked config scope.session) :
    Asked config scope.destroy.session := by
  obtain ⟨dead, relay, same⟩ := Scope.destroy_session scope
  rw [same]
  exact asked.congr rfl rfl rfl rfl rfl

/-- Destroying a session. -/
theorem Unasked.destroy (unasked : Unasked config scope.session) :
    Unasked config scope.destroy.session := by
  obtain ⟨dead, relay, same⟩ := Scope.destroy_session scope
  rw [same]
  exact unasked.congr rfl rfl rfl rfl

/-- The V request asks for what the application asked for. -/
theorem Asked.doSentVReq (asked : Asked config scope.session) :
    Asked config scope.doSentVReq.session := by
  have same : Scope.vRequest scope.session =
      requestFor config scope.session.socks5Req.remoteHost scope.session.socks5Req.remotePort := by
    rw [Scope.vRequest, requestFor, asked.account.1, asked.account.2]
  refine Asked.await ?_ rfl
  refine ⟨asked.account, ?_, ?_, asked.tunnel⟩
  · change askedFor (scope.session.trace ++ [_]) = _
    rw [askedFor_append, asked.asked]
    rfl
  · intro data member
    change data ∈ vRequests (scope.session.trace ++ [_]) at member
    rw [vRequests_append, List.mem_append] at member
    rcases member with old | new
    · exact asked.requested data old
    · have sent : data = ((Scope.vRequest scope.session).stream []).2 := by
        simpa [vRequests] using new
      rw [sent, same]
      rfl

/-- Resolving the remote server. -/
theorem Asked.doResolve (asked : Asked config scope.session) :
    Asked config scope.doResolve.session := by
  refine Asked.await ?_ rfl
  exact asked.emit rfl rfl

/-- Writing a message to the application. -/
theorem Asked.write (asked : Asked config scope.session) (message : Bytes)
    (own : isTunnel op = true) :
    Asked config (((scope.setMessage message).emit (.toLocal message)).await op).session := by
  have kept : Asked config (scope.setMessage message).session := asked.congr rfl rfl rfl rfl rfl
  exact (kept.emit rfl rfl).await own

/-- Reading both ends of the tunnel. -/
theorem Asked.readBoth (asked : Asked config scope.session) :
    Asked config scope.readBoth.session := (asked.await rfl).await rfl

/-- **One step of a tunnel** keeps what was asked for. -/
theorem Asked.handle (asked : Asked config scope.session) (world : World) (result : Result)
    (own : isTunnel op = true) : Asked config (scope.handle config world op result).session := by
  have forward : Asked config scope.setForward.session := asked.congr rfl rfl rfl rfl rfl
  cases result with
  | failed =>
    have failed : scope.handle config world op .failed = scope.destroy := by cases op <;> rfl
    rw [failed]
    exact asked.destroy
  | done =>
    cases op with
    | httpWrite => exact asked.doResolve
    | connect =>
      change Asked config (scope.onConnected world).session
      unfold Scope.onConnected
      split
      · exact asked.await rfl
      · exact asked
    | tlsHandshake =>
      change Asked config scope.afterSslHandshake.session
      unfold Scope.afterSslHandshake
      split
      · exact asked.doSentVReq
      · exact asked.await rfl
    | wsHandshake => exact asked.doSentVReq
    | vRequestWrite =>
      change Asked config (scope.onVRequestWritten world).session
      unfold Scope.onVRequestWritten
      dsimp only
      split
      · exact forward.readBoth
      · unfold Scope.writeSocks5Response
        split
        · exact forward.write _ rfl
        · exact forward
    | replyWrite => exact forward.readBoth
    | upstreamWrite | localWrite => exact asked.await rfl
    | resolve | localRead | upstreamRead => exact asked
    | _ => cases own
  | read data =>
    cases op with
    | localRead =>
      have filled : Asked config (scope.fillIn data).session := asked.congr rfl rfl rfl rfl rfl
      exact (filled.emit rfl rfl).await rfl
    | upstreamRead =>
      have filled : Asked config (scope.fillOut data).session := asked.congr rfl rfl rfl rfl rfl
      exact (filled.emit rfl rfl).await rfl
    | firstRead | requestRead | headerRead | greetingWrite | associateWrite | controlRead =>
      cases own
    | _ => exact asked
  | resolved results =>
    cases op with
    | resolve =>
      change Asked config (scope.onResolved results).session
      unfold Scope.onResolved
      split
      · exact asked.destroy
      · exact (asked.emit rfl rfl).await rfl
    | firstRead | requestRead | headerRead | greetingWrite | associateWrite | controlRead =>
      cases own
    | _ => exact asked

/-- A session that was asked for a tunnel or not. -/
def Honest (config : ClientConfig) (session : Session) : Prop :=
  Unasked config session ∨ Asked config session

/-- Waiting for the application. -/
theorem Unasked.await (unasked : Unasked config scope.session) (idle : scope.session.pending = [])
    (own : isTunnel op = false) : Honest config (scope.await op).session :=
  .inl ⟨unasked.account, unasked.asked, unasked.requested,
    .inr ⟨op, by simp [Scope.await, idle], own⟩⟩

/-- Writing a message to the application and waiting for it. -/
theorem Unasked.write (unasked : Unasked config scope.session) (idle : scope.session.pending = [])
    (message : Bytes) (own : isTunnel op = false) :
    Honest config (((scope.setMessage message).emit (.toLocal message)).await op).session := by
  refine Unasked.await ⟨unasked.account, ?_, ?_, .inl idle⟩ idle own
  · change askedFor (scope.session.trace ++ [_]) = []
    rw [askedFor_append, unasked.asked]
    rfl
  · change vRequests (scope.session.trace ++ [_]) = []
    rw [vRequests_append, unasked.requested]
    rfl

/-- The application asks for the host and port the request object holds. -/
theorem Unasked.ask (unasked : Unasked config scope.session) (idle : scope.session.pending = [])
    {host : Bytes} {port : UInt16} (holds : scope.session.socks5Req.remoteHost = host)
    (same : scope.session.socks5Req.remotePort = port) :
    Asked config (scope.emit (.asked host port)).session := by
  subst holds same
  refine ⟨unasked.account, ?_, ?_, ?_⟩
  · change askedFor (scope.session.trace ++ [_]) = _
    rw [askedFor_append, unasked.asked]
    rfl
  · change ∀ data ∈ vRequests (scope.session.trace ++ [_]), _
    rw [vRequests_append, unasked.requested]
    intro data member
    cases member
  · change ∀ op ∈ scope.session.pending, _
    simp [idle]

/-- Refusing an association. -/
theorem Unasked.refuse (unasked : Unasked config scope.session) (world : World) :
    Unasked config (scope.refuse world).session := by
  unfold Scope.refuse
  dsimp only
  split
  · refine Unasked.destroy ⟨unasked.account, ?_, ?_, unasked.alone⟩
    · change askedFor (scope.session.trace ++ [_]) = []
      rw [askedFor_append, unasked.asked]
      rfl
    · change vRequests (scope.session.trace ++ [_]) = []
      rw [vRequests_append, unasked.requested]
      rfl
  · exact unasked

/-- The first bytes of the application choose the protocol. -/
theorem Unasked.onFirstRead (unasked : Unasked config scope.session)
    (idle : scope.session.pending = []) (length : Nat) :
    Honest config (scope.onFirstRead length).session := by
  unfold Scope.onFirstRead
  dsimp only
  split
  · split
    · exact .inl unasked.destroy
    · unfold Scope.writeSock5HanshakeReply
      split
      · exact unasked.write idle _ rfl
      · exact .inl unasked.destroy
  · split
    · exact unasked.await idle rfl
    · exact .inl unasked.destroy

/-- A SOCKS5 request asks for a tunnel or for an association. -/
theorem Unasked.onRequestRead (unasked : Unasked config scope.session)
    (idle : scope.session.pending = []) (world : World) (length : Nat) :
    Honest config (scope.onRequestRead config world length).session := by
  unfold Scope.onRequestRead
  dsimp only
  generalize scope.session.socks5Req.unsteam scope.session.inBuf length = decoded
  have kept : Unasked config (scope.setRequest decoded.2).session := unasked.congr rfl rfl rfl rfl
  split
  · split
    · split
      · unfold Scope.doHandleSocks5UdpAssociate
        split
        · split
          · refine Unasked.write ?_ ?_ _ rfl
            · exact kept.congr rfl rfl rfl rfl
            · exact idle
          · exact .inl kept
        · exact .inl (kept.refuse world)
      · exact .inl (kept.refuse world)
    · exact .inr (kept.ask idle rfl rfl).doResolve
  · exact .inl kept.destroy

/-- An HTTP request asks for a tunnel. -/
theorem Unasked.onHeaderRead (unasked : Unasked config scope.session)
    (idle : scope.session.pending = []) (buf : Bytes) :
    Unasked config (scope.onHeaderRead buf).session ∧
        (scope.onHeaderRead buf).session.pending = [] ∨
      Asked config (scope.onHeaderRead buf).session := by
  unfold Scope.onHeaderRead
  split
  · exact .inl ⟨unasked, idle⟩
  · rename_i decoded _
    split
    · have kept : Unasked config (scope.takeHttpRequest decoded.2).session :=
        unasked.congr rfl rfl rfl rfl
      have asked : Asked config ((scope.takeHttpRequest decoded.2).emit
          (.asked decoded.2.host decoded.2.port)).session := kept.ask idle rfl rfl
      refine .inr (Asked.write ?_ HttpResponse.ok rfl)
      exact asked.congr rfl rfl rfl rfl rfl
    · refine .inl ⟨unasked.destroy, ?_⟩
      rw [Scope.destroy_pending]
      exact idle

/-- **One step before a tunnel** either asks for one or asks for nothing. -/
theorem Unasked.handle (unasked : Unasked config scope.session) (idle : scope.session.pending = [])
    (world : World) (result : Result) (own : isTunnel op = false) :
    Honest config (scope.handle config world op result).session := by
  cases result with
  | failed =>
    have failed : scope.handle config world op .failed = scope.destroy := by cases op <;> rfl
    rw [failed]
    exact .inl unasked.destroy
  | done =>
    cases op with
    | greetingWrite =>
      change Honest config scope.onGreetingWritten.session
      unfold Scope.onGreetingWritten
      split
      · exact .inl unasked.destroy
      · exact unasked.await idle rfl
    | associateWrite => exact unasked.await idle rfl
    | firstRead | requestRead | headerRead | controlRead => exact .inl unasked
    | _ => cases own
  | read data =>
    have filled : Unasked config (scope.fillIn data).session := unasked.congr rfl rfl rfl rfl
    cases op with
    | firstRead => exact filled.onFirstRead idle _
    | requestRead => exact filled.onRequestRead idle world _
    | headerRead initial => exact (unasked.onHeaderRead idle _).imp_left And.left
    | controlRead => exact unasked.await idle rfl
    | greetingWrite | associateWrite => exact .inl unasked
    | _ => cases own
  | resolved results =>
    cases op with
    | firstRead | requestRead | headerRead | controlRead | greetingWrite | associateWrite =>
      exact .inl unasked
    | _ => cases own

/-- The operation of a session that was not asked for anything is all it has in flight. -/
theorem Unasked.complete (server : Client.Server) (unasked : Unasked config session)
    (member : op ∈ session.pending) :
    Unasked config (Scope.complete ⟨server, session⟩ op).session ∧
      (Scope.complete ⟨server, session⟩ op).session.pending = [] ∧ isTunnel op = false := by
  rcases unasked.alone with none | ⟨only, alone, own⟩
  · rw [none] at member
    cases member
  · rw [alone, List.mem_singleton] at member
    subst member
    have idle : (Scope.complete ⟨server, session⟩ op).session.pending = [] := by
      simp [Scope.complete, alone]
    exact ⟨⟨unasked.account, unasked.asked, unasked.requested, .inl idle⟩, idle, own⟩

/-- A completion leaves the operations of the tunnel in flight. -/
theorem Asked.complete (server : Client.Server) (asked : Asked config session) (op : Op) :
    Asked config (Scope.complete ⟨server, session⟩ op).session :=
  ⟨asked.account, asked.asked, asked.requested,
    fun other left => asked.tunnel other (List.mem_of_mem_erase left)⟩

/-- One step of a session. -/
theorem Honest.handle {server : Client.Server} (honest : Honest config session) (world : World)
    (result : Result) (member : op ∈ session.pending) :
    Honest config
      ((Scope.complete ⟨server, session⟩ op).handle config world op result).session := by
  rcases honest with unasked | asked
  · obtain ⟨still, idle, own⟩ := unasked.complete server member
    exact still.handle idle world result own
  · exact .inr ((asked.complete server op).handle world result (asked.tunnel op member))

/-- A session starts honest. -/
theorem honest_start (config : ClientConfig) (server : Client.Server) (number : Nat)
    (world : World) :
    Honest config (Scope.start ⟨server, .accepted config number⟩ world).session := by
  have fresh : Unasked config (Session.accepted config number) :=
    ⟨⟨rfl, rfl⟩, rfl, rfl, .inl rfl⟩
  unfold Scope.start
  split
  · exact fresh.await rfl rfl
  · exact .inl fresh

/-- Honesty is not about the relay of a session. -/
theorem Honest.setRelay (honest : Honest config session) (relay : Option UdpRelay) :
    Honest config { session with udpRelay := relay } := by
  rcases honest with unasked | asked
  · exact .inl (unasked.congr rfl rfl rfl rfl)
  · exact .inr (asked.congr rfl rfl rfl rfl rfl)

/-- Every session of every run is honest. -/
theorem run_honest {ssl : Bool} {events : List Event} {client : Process}
    (ran : run (Process.step config) (Process.start config ssl) events = some client)
    (member : session ∈ client.sessions) : Honest config session := by
  obtain ⟨number, found⟩ := List.mem_iff_getElem?.mp member
  refine @session_history config (fun _ session => Honest config session) _ _ _ _ _ ?_ ?_ ?_ ran
    found
  · exact honest_start config
  · intro past server session op result world honest pending admitted
    exact honest.handle world result pending
  · intro past session relay honest
    exact honest.setRelay relay

end Client

/-- The length of a request's strings that its header length still covers. -/
def Fits (request : VRequest) : Prop :=
  request.userName.length + request.password.length + request.address.length < 2 ^ 31 - 29

instance (request : VRequest) : Decidable (Fits request) := inferInstanceAs (Decidable (_ < _))

/-- A request object receives a sent request and the early data behind it. -/
def RoundTrip (request received : VRequest) (rest : Bytes) (beyond : Memory) : Prop :=
  let sent := (request.stream []).2
  VRequest.isVProtocol (sent ++ rest) = true ∧
    ∃ decoded, received.unstream (sent ++ rest) beyond = .ok (true, decoded) ∧
      decoded.header.version = request.header.version ∧ decoded.userName = request.userName ∧
      decoded.password = request.password ∧ decoded.address = request.address ∧
      decoded.port = request.port ∧ decoded.header.len.toNat = sent.length ∧
      decoded.packedBuff = rest

/-- What the encoder leaves behind is decoded as it was. -/
theorem unstream_stream (request received : VRequest) (rest : Bytes) (beyond : Memory)
    (fits : Fits request) (empty : received.packedBuff = []) :
    received.unstream ((request.stream []).2 ++ rest) beyond =
      .ok (true, { (request.stream []).1 with packedBuff := rest }) ∧
    (request.stream []).1.header.len.toNat = (request.stream []).2.length := by
  unfold Fits at fits
  obtain ⟨sent, sentIs⟩ : ∃ sent : VRequest, sent = { request with header :=
      { request.header with len := request.headerLen } } := ⟨_, rfl⟩
  have streamed : request.stream [] = (sent, sent.image) := by
    rw [VRequest.stream_eq, sentIs]
    rfl
  have size : sent.image.length = request.image.length := by
    rw [VRequest.image_length, VRequest.image_length, sentIs]
  have small : request.image.length < 2 ^ 32 := by
    rw [VRequest.image_length]
    omega
  have exact : sent.header.len.toNat = sent.image.length := by
    rw [size, ← VRequest.headerLen_toNat request small, sentIs]
  rw [streamed]
  refine ⟨VRequest.unstream_image beyond received sent rest ?_ ?_ ?_ exact empty, exact⟩
  all_goals
    rw [sentIs]
    dsimp only
    omega

/-- A sent request is recognised, with anything behind it. -/
theorem isVProtocol_stream (request : VRequest) (rest : Bytes) :
    VRequest.isVProtocol ((request.stream []).2 ++ rest) = true := by
  rw [VRequest.stream_eq]
  simp [VRequest.isVProtocol, VRequest.image, VRequest.vIdentifier, VRequest.identifierLen]

/-- The handshakes of a server session in front of its first message. -/
def greeting : Server.SessionKind → List Server.Event
  | .tls => [⟨.handshake, .done, {}⟩]
  | .websocket => [⟨.handshake, .done, {}⟩, ⟨.accept, .done, {}⟩]

/-- A server session that reads the data as its first message resolves the host and the port, or
connects to the endpoint cached for them. -/
def Resolves (config : Server.ServerConfig) (kind : Server.SessionKind) (world : Server.World)
    (data host : Bytes) (port : UInt16) : Prop :=
  ∃ greeted resolving,
    run (Server.Session.step config) (Server.Session.start kind) (greeting kind) = some greeted ∧
    greeted.step config ⟨.firstRead, .read data, world⟩ = some resolving ∧
    resolving.remoteHost = host ∧ resolving.remotePort = decimal port.toNat ∧
    (resolving.trace = [.firstMessage data, .resolve host (decimal port.toNat)] ∨
      ∃ endpoint,
        world.cachedTcp (Server.Session.dnsKey host (decimal port.toNat)) = some endpoint ∧
        resolving.trace = [.firstMessage data, .connect endpoint])

/-- A first message that decodes to a request with an allowed password is resolved. -/
theorem onFirstMessage_decoded {config : Server.ServerConfig} {session : Server.Session}
    {world : Server.World} {data : Bytes} {decoded : VRequest}
    (taken : session.inBuf.take data.length = data)
    (recognised : VRequest.isVProtocol session.inBuf = true)
    (decodes : session.vReq.unstream data world.beyond = .ok (true, decoded))
    (allowed : decoded.password ∈ config.allowedPasswords) :
    session.onFirstMessage config world data.length =
      (session.takeVRequest decoded).doResolve world := by
  unfold Server.Session.onFirstMessage
  dsimp only
  rw [taken, if_pos recognised, decodes]
  dsimp only
  unfold Server.Session.authenticate
  have known : (session.takeVRequest decoded).password ∈ config.allowedPasswords := allowed
  have tcp : ¬ ((session.takeVRequest decoded).vprotocol = false ∧
      (session.takeVRequest decoded).trojanReq.command = some .udpAssociate) := by
    rintro ⟨noV, -⟩
    cases noV
  rw [if_pos rfl, if_pos known, if_neg tcp]

/-- `do_resolve` of a V request resolves its address and port, or finds them cached. -/
theorem doResolve_takeVRequest (session : Server.Session) (decoded : VRequest)
    (world : Server.World) :
    let resolving := (session.takeVRequest decoded).doResolve world
    resolving.remoteHost = decoded.address ∧ resolving.remotePort = decimal decoded.port.toNat ∧
    (resolving.trace =
        session.trace ++ [.resolve decoded.address (decimal decoded.port.toNat)] ∨
      ∃ endpoint, world.cachedTcp (Server.Session.dnsKey decoded.address
          (decimal decoded.port.toNat)) = some endpoint ∧
        resolving.trace = session.trace ++ [.connect endpoint]) := by
  dsimp only
  unfold Server.Session.doResolve
  dsimp only [Server.Session.takeVRequest]
  simp only [↓reduceIte]
  split
  · rename_i endpoint cached
    exact ⟨rfl, rfl, .inr ⟨endpoint, cached, rfl⟩⟩
  · exact ⟨rfl, rfl, .inl rfl⟩

/-- A fresh server session that reads a request with an allowed password resolves what it asks
for. -/
theorem firstRead_resolves {config : Server.ServerConfig} (session : Server.Session)
    {data : Bytes} {decoded : VRequest} (world : Server.World) (running : session.crashed = false)
    (waiting : .firstRead ∈ session.pending) (short : data.length ≤ Server.maxBuffSize)
    (recognised : ∀ tail, VRequest.isVProtocol (data ++ tail) = true)
    (decodes : session.vReq.unstream data world.beyond = .ok (true, decoded))
    (allowed : decoded.password ∈ config.allowedPasswords) :
    ∃ resolving, session.step config ⟨.firstRead, .read data, world⟩ = some resolving ∧
      resolving.remoteHost = decoded.address ∧ resolving.remotePort = decimal decoded.port.toNat ∧
      (resolving.trace = (session.trace ++ [.firstMessage data]) ++
          [.resolve decoded.address (decimal decoded.port.toNat)] ∨
        ∃ endpoint, world.cachedTcp (Server.Session.dnsKey decoded.address
            (decimal decoded.port.toNat)) = some endpoint ∧
          resolving.trace = (session.trace ++ [.firstMessage data]) ++ [.connect endpoint]) := by
  have taken : (((session.complete .firstRead).fill .down data).buffer .down).take data.length =
      data := Server.Session.fill_buffer_take
  have handled : (session.complete .firstRead).handle config world .firstRead (.read data) =
      ((((session.complete .firstRead).fill .down data).emit (.firstMessage data)).takeVRequest
        decoded).doResolve world := by
    refine onFirstMessage_decoded ?_ ?_ ?_ allowed
    · exact taken
    · exact recognised _
    · exact decodes
  refine ⟨_, if_pos ⟨running, waiting, decide_eq_true short⟩, ?_⟩
  dsimp only
  rw [handled]
  have resolved := doResolve_takeVRequest
    (((session.complete .firstRead).fill .down data).emit (.firstMessage data)) decoded world
  exact resolved

/-- The handshakes lead to the read of the first message. -/
theorem run_greeting (config : Server.ServerConfig) (kind : Server.SessionKind) :
    run (Server.Session.step config) (Server.Session.start kind) (greeting kind) =
      some { Server.Session.start kind with pending := [.firstRead] } := by
  cases kind <;> rfl

/-- The server resolves what a request with an allowed password asks for. -/
theorem resolves_stream {config : Server.ServerConfig} {request : VRequest} {rest : Bytes}
    (fits : Fits request) (allowed : request.password ∈ config.allowedPasswords)
    (short : ((request.stream []).2 ++ rest).length ≤ Server.maxBuffSize)
    (kind : Server.SessionKind) (world : Server.World) :
    Resolves config kind world ((request.stream []).2 ++ rest) request.address request.port := by
  obtain ⟨decodes, -⟩ := unstream_stream request {} rest world.beyond fits rfl
  have recognised (tail : Bytes) :
      VRequest.isVProtocol (((request.stream []).2 ++ rest) ++ tail) = true := by
    rw [List.append_assoc]
    exact isVProtocol_stream request (rest ++ tail)
  generalize (request.stream []).2 ++ rest = data at short decodes recognised ⊢
  obtain ⟨resolving, stepped, resolved⟩ := firstRead_resolves
    { Server.Session.start kind with pending := [.firstRead] } world rfl
    (List.mem_singleton_self _) short recognised decodes allowed
  exact ⟨_, resolving, run_greeting config kind, stepped, resolved⟩

/-- **The request from the client to the server.** A request whose strings fit the header length
is recognised and decoded as it was sent, with the bytes behind it as early data. Every V request
the client sends carries the one host and port its application asked for, and a server that
allows the client's password resolves exactly these. -/
theorem request_reaches_server :
    (∀ (request received : VRequest) (rest : Bytes) (beyond : Memory), Fits request →
      received.packedBuff = [] → RoundTrip request received rest beyond) ∧
    (∀ (config : ClientConfig) (ssl : Bool) (events : List Event) (client : Process),
      run (Process.step config) (Process.start config ssl) events = some client →
      ∀ session ∈ client.sessions, ∀ data, Effect.vRequest data ∈ session.trace →
      ∃ host port, askedFor session.trace = [(host, port)] ∧
        data = ((requestFor config host port).stream []).2 ∧
        (Fits (requestFor config host port) → ∀ (server : Server.ServerConfig)
          (kind : Server.SessionKind) (world : Server.World) (rest : Bytes),
          config.password ∈ server.allowedPasswords →
          (data ++ rest).length ≤ Server.maxBuffSize →
          Resolves server kind world (data ++ rest) host port)) := by
  constructor
  · intro request received rest beyond fits empty
    obtain ⟨decodes, exact⟩ := unstream_stream request received rest beyond fits empty
    refine ⟨isVProtocol_stream request rest, _, decodes, ?_⟩
    rw [VRequest.stream_eq] at exact ⊢
    exact ⟨rfl, rfl, rfl, rfl, rfl, exact, rfl⟩
  · intro config ssl events client ran session member data sent
    have requested : data ∈ vRequests session.trace :=
      List.mem_filterMap.mpr ⟨_, sent, rfl⟩
    rcases run_honest ran member with unasked | asked
    · rw [unasked.requested] at requested
      cases requested
    · have exact := asked.requested data requested
      refine ⟨_, _, asked.asked, exact, ?_⟩
      intro fits server kind world rest allowed short
      rw [exact] at short ⊢
      exact resolves_stream fits allowed short kind world

/-- An application asks over SOCKS5 for port 80 of 127.0.0.1. -/
def sampleEvents : List Event :=
  [.accept {}, .completed 0 .firstRead (.read [5, 1, 0]) {}, .completed 0 .greetingWrite .done {},
    .completed 0 .requestRead (.read [5, 1, 0, 1, 127, 0, 0, 1, 0, 80]) {},
    .completed 0 .resolve (.resolved [⟨.ofWord 0x01020304, 443⟩]) {},
    .completed 0 .connect .done {}, .completed 0 .tlsHandshake .done {}]

/-- The client with password `p` that asks for 127.0.0.1, port 80, is served by a server that
allows that password, with two bytes of early data behind the request. -/
theorem request_reaches_server_sample :
    let config : ClientConfig := { password := [0x70] }
    RoundTrip (requestFor config [104] 80) {} [7, 8] Memory.unmapped ∧
    ∃ client, run (Process.step config) (Process.start config true) sampleEvents = some client ∧
      ∃ session ∈ client.sessions, ∃ data, Effect.vRequest data ∈ session.trace ∧
        Resolves ⟨[[0x70]]⟩ .tls {} (data ++ [7, 8]) (dotted 127 0 0 1) 80 := by
  intro config
  refine ⟨request_reaches_server.1 _ _ _ _ (by decide +kernel) rfl, ?_⟩
  have checked : (run (Process.step config) (Process.start config true) sampleEvents).any
      (fun client => decide (client.sessions.map (fun session =>
        (askedFor session.trace, vRequests session.trace)) = [([(dotted 127 0 0 1, 80)],
          [((requestFor config (dotted 127 0 0 1) 80).stream []).2])])) = true := by
    decide +kernel
  obtain ⟨client, ran, good⟩ := exists_of_run checked
  obtain ⟨session, rest, sessions, only, -⟩ := List.map_eq_cons_iff.mp (of_decide_eq_true good)
  obtain ⟨asked, requested⟩ := Prod.mk.inj only
  have member : session ∈ client.sessions := by simp [sessions]
  have sent : Effect.vRequest ((requestFor config (dotted 127 0 0 1) 80).stream []).2 ∈
      session.trace := by
    have among := List.mem_singleton_self ((requestFor config (dotted 127 0 0 1) 80).stream []).2
    rw [← requested] at among
    obtain ⟨effect, inTrace, same⟩ := List.mem_filterMap.mp among
    cases effect <;> cases same
    exact inTrace
  obtain ⟨host, port, question, exact, resolves⟩ :=
    request_reaches_server.2 config true sampleEvents client ran session member _ sent
  rw [asked] at question
  obtain ⟨rfl, rfl⟩ := Prod.mk.inj (List.singleton_inj.mp question)
  exact ⟨client, ran, session, member, _, sent,
    resolves (by decide +kernel) ⟨[[0x70]]⟩ .tls {} [7, 8] (by decide) (by decide +kernel)⟩

end Overplus.Verif.RequestRoundTrip
