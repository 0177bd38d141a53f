import Overplus.Client.UdpRelay
import Overplus.Protocol.Http
import Overplus.Protocol.VRequest
import Overplus.Shared.DtlsChannel

/-!
# The client session (`Client/Session.cpp`)

`Session<T>` with its two forms `TlsClientSession` and `WsClientSession`, as a machine in the
manner of the server session: an asynchronous operation is pending until a step takes it with
its result and runs the code's handler. A session speaks SOCKS5 or HTTP CONNECT with a local
application, sends a V request to the remote server and then copies bytes both ways; for UDP
ASSOCIATE it creates a relay and registers it with the client's `Server`.

The handlers of a session read and change the server they belong to, so they act on a `Scope`:
the session and that server. A session stands for the relay it owns: pointers to relays are
numbers of sessions. An exception that leaves a handler ends the process.
-/
namespace Overplus.Client

/-- `Session::MAX_BUFF_SIZE`. -/
def maxBuffSize : Nat := 64 * 1024

/-- `ClientConfig`, as far as the server and its sessions read it. -/
structure ClientConfig where
  /-- `remote_addr`. -/
  remoteAddr : Bytes := []
  /-- `remote_port`. -/
  remotePort : Bytes := []
  /-- `user_name`. -/
  userName : Bytes := []
  /-- `password`. -/
  password : Bytes := []
  /-- `text_password`. -/
  textPassword : Bytes := []
  /-- `udp_enabled`. -/
  udpEnabled : Bool := true
  /-- `useWebSocket`. -/
  useWebSocket : Bool := false

/-- The two session classes. -/
inductive SessionKind where
  /-- `TlsClientSession`. -/
  | tls
  /-- `WsClientSession`. -/
  | websocket
deriving DecidableEq, Repr

/-- `Session::State`. -/
inductive SessionState where
  /-- `HANDSHAKE`. -/
  | handshake
  /-- `FORWARD`. -/
  | forward
deriving DecidableEq, Repr

/-- Asynchronous operations, with what their handlers capture. -/
inductive Op where
  /-- The read of `start`. -/
  | firstRead
  /-- The write of the greeting's answer. -/
  | greetingWrite
  /-- The read of `read_socks5_request`. -/
  | requestRead
  /-- The read of `http_connect_handshake`, with the bytes it starts from. -/
  | headerRead (initial : Bytes)
  /-- The write of the HTTP response. -/
  | httpWrite
  /-- The resolution of `do_resolve`. -/
  | resolve
  /-- The connection of `do_connect`. -/
  | connect
  /-- The TLS handshake with the remote server. -/
  | tlsHandshake
  /-- The websocket handshake with the remote server. -/
  | wsHandshake
  /-- The write of the V request. -/
  | vRequestWrite
  /-- The write of the SOCKS5 reply. -/
  | replyWrite
  /-- A read of the application by `read_packet`. -/
  | localRead
  /-- A read of the remote server by `read_packet`. -/
  | upstreamRead
  /-- A write to the remote server by `write_packet`. -/
  | upstreamWrite
  /-- A write to the application by `write_packet`. -/
  | localWrite
  /-- The write of the reply to UDP ASSOCIATE. -/
  | associateWrite
  /-- The read of `do_read_control`. -/
  | controlRead
deriving DecidableEq, Repr

/-- How an operation completes. -/
inductive Result where
  /-- With an error code. -/
  | failed
  /-- Without error and without data. -/
  | done
  /-- With bytes stored in the operation's buffer. -/
  | read (data : Bytes)
  /-- With the endpoints of a name. -/
  | resolved (results : List Endpoint)
deriving DecidableEq

/-- Answers of the system calls of one step. -/
structure World where
  /-- Setting the options of a socket does not throw. -/
  optionsOk : Bool := true
  /-- A blocking write to the application does not throw. -/
  writeOk : Bool := true
  /-- Binding the socket of a new relay does not throw. -/
  bindOk : Bool := true
  /-- Port of a new relay's socket. -/
  localPort : UInt16 := 0
  /-- `remote_endpoint()` of the connection to the remote server, where it does not throw. -/
  remoteEndpoint : Option Endpoint := none

/-- What a session does to its surroundings. -/
inductive Effect where
  /-- The application asked for a tunnel to a host and a port. -/
  | asked (host : Bytes) (port : UInt16)
  /-- A name is resolved. -/
  | resolve (host service : Bytes)
  /-- A connection is opened. -/
  | connect (endpoint : Endpoint)
  /-- The V request is written to the remote server. -/
  | vRequest (data : Bytes)
  /-- Bytes are written to the remote server. -/
  | toUpstream (data : Bytes)
  /-- Bytes are written to the application. -/
  | toLocal (data : Bytes)
deriving DecidableEq

/-- `Session`, its pending operations and its trace. -/
structure Session where
  /-- Number of the session; it stands for the pointers to the session and to its relay. -/
  number : Nat
  /-- Session class. -/
  kind : SessionKind
  /-- `remote_host`. -/
  remoteHost : Bytes := []
  /-- `remote_port`. -/
  remotePort : Bytes := []
  /-- `user_name_`. -/
  userName : Bytes := []
  /-- `password_`. -/
  password : Bytes := []
  /-- `in_buf`. -/
  inBuf : Bytes := List.replicate maxBuffSize 0
  /-- `out_buf`. -/
  outBuf : Bytes := List.replicate maxBuffSize 0
  /-- `message_buf`. -/
  messageBuf : Bytes := []
  /-- `socks5_req`. -/
  socks5Req : Request := {}
  /-- `http_req`. -/
  httpReq : HttpRequest := {}
  /-- `state_`. -/
  state : SessionState := .handshake
  /-- `response_sent_`. -/
  responseSent : Bool := false
  /-- `destroyed_`. -/
  destroyed : Bool := false
  /-- `udp_relay_`. -/
  udpRelay : Option UdpRelay := none
  /-- `session_id_`. -/
  sessionId : UInt16 := 0
  /-- Operations in flight. -/
  pending : List Op := []
  /-- What the session has done. -/
  trace : List Effect := []

/-- `ProxyStats`, as far as it counts sessions. Each call is noted with the number of its
session. -/
structure ProxyStats where
  /-- `session_count_`. -/
  sessionCount : UInt64 := 0
  /-- Sessions `sessionCreated` was called for. -/
  created : List Nat := []
  /-- Sessions that have called `sessionDestroyed`. -/
  ended : List Nat := []
deriving DecidableEq

namespace ProxyStats

/-- `sessionCreated`. -/
def sessionCreated (stats : ProxyStats) (number : Nat) : ProxyStats :=
  { stats with sessionCount := stats.sessionCount + 1, created := stats.created ++ [number] }

/-- `sessionDestroyed`. -/
def sessionDestroyed (stats : ProxyStats) (number : Nat) : ProxyStats :=
  { stats with sessionCount := stats.sessionCount - 1, ended := stats.ended ++ [number] }

end ProxyStats

/-- `Server`, without the acceptor and its sessions, and the statistics of its process. -/
structure Server where
  /-- `next_session_id_`. -/
  nextSessionId : UInt16 := 1
  /-- `relays_`; nothing depends on the order of an iteration. -/
  relays : List (UInt16 × Nat) := []
  /-- `dtls_`. -/
  dtls : Option DtlsChannel := none
  /-- `dtls_ready_`. -/
  dtlsReady : Bool := false
  /-- Number of ids allocated so far. -/
  allocated : Nat := 0
  /-- `ProxyStats::instance()`. -/
  stats : ProxyStats := {}
  /-- The process was ended by an exception or a stray pointer. -/
  crashed : Bool := false

namespace Server

/-- `ProxyStats::instance().sessionCreated()`. -/
def sessionCreated (server : Server) (number : Nat) : Server :=
  { server with stats := server.stats.sessionCreated number }

/-- `ProxyStats::instance().sessionDestroyed()`. -/
def sessionDestroyed (server : Server) (number : Nat) : Server :=
  { server with stats := server.stats.sessionDestroyed number }

/-- `has_dtls`. -/
def hasDtls (server : Server) : Bool := server.dtls.isSome

/-- `allocate_session_id`: the id, and the server behind the increment. -/
def allocateSessionId (server : Server) : UInt16 × Server :=
  (server.nextSessionId,
    { server with
      nextSessionId := server.nextSessionId + 1
      allocated := server.allocated + 1 })

/-- `unregister_relay`. -/
def unregisterRelay (server : Server) (sid : UInt16) : Server :=
  { server with relays := server.relays.filter fun entry => entry.1 ≠ sid }

/-- `register_relay`. -/
def registerRelay (server : Server) (sid : UInt16) (relay : Nat) : Server :=
  { server with relays := (sid, relay) :: server.relays.filter fun entry => entry.1 ≠ sid }

/-- `relays_.find`. -/
def findRelay (server : Server) (sid : UInt16) : Option Nat := server.relays.lookup sid

end Server

/-- A session and the server it belongs to. -/
structure Scope where
  /-- The server. -/
  server : Server
  /-- The session. -/
  session : Session

namespace Scope

/-- Start an asynchronous operation. -/
def await (scope : Scope) (op : Op) : Scope :=
  { scope with session := { scope.session with pending := scope.session.pending ++ [op] } }

/-- Take a completed operation off the list. -/
def complete (scope : Scope) (op : Op) : Scope :=
  { scope with session := { scope.session with pending := scope.session.pending.erase op } }

/-- Record an effect. -/
def emit (scope : Scope) (effect : Effect) : Scope :=
  { scope with session := { scope.session with trace := scope.session.trace ++ [effect] } }

/-- End the process. -/
def crash (scope : Scope) : Scope := { scope with server := { scope.server with crashed := true } }

/-- A read stores its bytes at the front of `in_buf`. -/
def fillIn (scope : Scope) (data : Bytes) : Scope :=
  { scope with session := { scope.session with
      inBuf := data ++ scope.session.inBuf.drop data.length } }

/-- A read stores its bytes at the front of `out_buf`. -/
def fillOut (scope : Scope) (data : Bytes) : Scope :=
  { scope with session := { scope.session with
      outBuf := data ++ scope.session.outBuf.drop data.length } }

/-- Set `message_buf`. -/
def setMessage (scope : Scope) (message : Bytes) : Scope :=
  { scope with session := { scope.session with messageBuf := message } }

/-- Enter the forwarding state. -/
def setForward (scope : Scope) : Scope :=
  { scope with session := { scope.session with state := .forward } }

/-- Keep a decoded SOCKS5 request. -/
def setRequest (scope : Scope) (request : Request) : Scope :=
  { scope with session := { scope.session with socks5Req := request } }

/-- `server_.unregister_relay(session_id_)` where the id is not zero. -/
def unregister (scope : Scope) : Scope :=
  if scope.session.sessionId ≠ 0 then
    { scope with server := scope.server.unregisterRelay scope.session.sessionId }
  else scope

/-- `destroy`. The sockets are closed; a relay that is stopped does nothing more, so it is gone
with the pointer. -/
def destroy (scope : Scope) : Scope :=
  if scope.session.destroyed then scope
  else
    let scope : Scope :=
      { server := scope.server.sessionDestroyed scope.session.number
        session := { scope.session with destroyed := true } }
    let scope := scope.unregister
    { scope with session := { scope.session with udpRelay := none } }

/-- `start`. -/
def start (scope : Scope) (world : World) : Scope :=
  if world.optionsOk then scope.await .firstRead else scope.crash

/-- `write_sock5_hanshake_reply`. -/
def writeSock5HanshakeReply (scope : Scope) (req : AuthReq) : Scope :=
  if .noAuthentication ∈ req.methods then
    let message := AuthRes.stream ⟨0x05, .noAuthentication⟩ scope.session.messageBuf
    ((scope.setMessage message).emit (.toLocal message)).await .greetingWrite
  else scope.destroy

/-- `http_connect_handshake`. -/
def httpConnectHandshake (scope : Scope) (initial : Bytes) : Scope :=
  scope.await (.headerRead initial)

/-- The handler of the read in `start`, on a message of the given length in `in_buf`. -/
def onFirstRead (scope : Scope) (length : Nat) : Scope :=
  let first := scope.session.inBuf.getD 0 0
  if first = 0x05 then
    match AuthReq.unstream scope.session.inBuf with
    | none => scope.destroy
    | some req => scope.writeSock5HanshakeReply req
  else if first = 67 ∨ first = 99 then
    scope.httpConnectHandshake (scope.session.inBuf.take length)
  else scope.destroy

/-- `read_socks5_request`. -/
def readSocks5Request (scope : Scope) : Scope := scope.await .requestRead

/-- The handler of the write in `write_sock5_hanshake_reply`. -/
def onGreetingWritten (scope : Scope) : Scope :=
  if scope.session.inBuf.getD 1 0 = 0xFF then scope.destroy else scope.readSocks5Request

/-- `do_resolve`. -/
def doResolve (scope : Scope) : Scope :=
  (scope.emit (.resolve scope.session.remoteHost scope.session.remotePort)).await .resolve

/-- Refuse UDP ASSOCIATE with a blocking write. -/
def refuse (scope : Scope) (world : World) : Scope :=
  let message := Reply.stream { repResult := 0x02, realRemoteIP := 0, realRemotePort := 0 } []
  if world.writeOk then ((scope.setMessage message).emit (.toLocal message)).destroy
  else scope.crash

/-- Keep an allocated id and a new relay, and register the relay. -/
def register (scope : Scope) : Scope :=
  let allocated := scope.server.allocateSessionId
  { server := allocated.2.registerRelay allocated.1 scope.session.number
    session := { scope.session with
      sessionId := allocated.1, udpRelay := some (UdpRelay.start allocated.1) } }

/-- `do_handle_socks5_udp_associate`. Starting a relay never fails; creating one may throw. -/
def doHandleSocks5UdpAssociate (scope : Scope) (world : World) : Scope :=
  if scope.server.hasDtls then
    if world.bindOk then
      let message := Reply.stream
        { repResult := 0x00, realRemoteIP := 0x7f000001, realRemotePort := world.localPort } []
      ((scope.register.setMessage message).emit (.toLocal message)).await .associateWrite
    else scope.crash
  else scope.refuse world

/-- The handler of the read in `read_socks5_request`, on a message of the given length. -/
def onRequestRead (scope : Scope) (config : ClientConfig) (world : World) (length : Nat) : Scope :=
  let decoded := scope.session.socks5Req.unsteam scope.session.inBuf length
  let scope := scope.setRequest decoded.2
  if decoded.1 then
    if decoded.2.cmd = Request.udpAssociate then
      if config.udpEnabled then scope.doHandleSocks5UdpAssociate world else scope.refuse world
    else (scope.emit (.asked decoded.2.remoteHost decoded.2.remotePort)).doResolve
  else scope.destroy

/-- Remember that the application has its response. -/
def setResponseSent (scope : Scope) : Scope :=
  { scope with session := { scope.session with responseSent := true } }

/-- `write_http_connect_response`. -/
def writeHttpConnectResponse (scope : Scope) : Scope :=
  ((scope.setResponseSent.setMessage HttpResponse.ok).emit (.toLocal HttpResponse.ok)).await
    .httpWrite

/-- The host and port of an HTTP request become those of the SOCKS5 request. -/
def takeHttpRequest (scope : Scope) (request : HttpRequest) : Scope :=
  { scope with session := { scope.session with
      httpReq := request
      socks5Req := { scope.session.socks5Req with
        remoteHost := request.host, remotePort := request.port } } }

/-- The handler of the read in `http_connect_handshake`. -/
def onHeaderRead (scope : Scope) (buf : Bytes) : Scope :=
  match scope.session.httpReq.unstream buf with
  | .error _ => scope.crash
  | .ok decoded =>
    if decoded.1 then
      ((scope.takeHttpRequest decoded.2).emit
        (.asked decoded.2.host decoded.2.port)).writeHttpConnectResponse
    else scope.destroy

/-- `do_connect`. -/
def doConnect (scope : Scope) (endpoint : Endpoint) : Scope :=
  (scope.emit (.connect endpoint)).await .connect

/-- The handler of the resolution in `do_resolve`. -/
def onResolved (scope : Scope) (results : List Endpoint) : Scope :=
  match results.head? with
  | none => scope.destroy
  | some endpoint => scope.doConnect endpoint

/-- The handler of the connection in `do_connect`. -/
def onConnected (scope : Scope) (world : World) : Scope :=
  if world.optionsOk then scope.await .tlsHandshake else scope.crash

/-- The V request of a session. -/
def vRequest (session : Session) : VRequest where
  header := { version := 0x01 }
  userName := session.userName
  password := session.password
  address := session.socks5Req.remoteHost
  port := session.socks5Req.remotePort

/-- `do_sent_v_req`. -/
def doSentVReq (scope : Scope) : Scope :=
  let message := ((vRequest scope.session).stream []).2
  ((scope.setMessage message).emit (.vRequest message)).await .vRequestWrite

/-- `after_ssl_handshake` of either class. -/
def afterSslHandshake (scope : Scope) : Scope :=
  match scope.session.kind with
  | .tls => scope.doSentVReq
  | .websocket => scope.await .wsHandshake

/-- `read_packet` of both directions. -/
def readBoth (scope : Scope) : Scope := (scope.await .localRead).await .upstreamRead

/-- `write_socks5_response`. -/
def writeSocks5Response (scope : Scope) (world : World) : Scope :=
  match world.remoteEndpoint with
  | some ⟨.v4 bytes, port⟩ =>
    let message := Reply.stream
      { repResult := 0x00, realRemoteIP := wordAt bytes.val 0, realRemotePort := port } []
    ((scope.setMessage message).emit (.toLocal message)).await .replyWrite
  | _ => scope.crash

/-- The handler of the write in `do_sent_v_req`. -/
def onVRequestWritten (scope : Scope) (world : World) : Scope :=
  let scope := scope.setForward
  if scope.session.responseSent then scope.readBoth else scope.writeSocks5Response world

/-- `write_packet` towards the remote server. -/
def writeUpstream (scope : Scope) (len : Nat) : Scope :=
  (scope.emit (.toUpstream (scope.session.inBuf.take len))).await .upstreamWrite

/-- `write_packet` towards the application. -/
def writeLocal (scope : Scope) (len : Nat) : Scope :=
  (scope.emit (.toLocal (scope.session.outBuf.take len))).await .localWrite

/-- Run the handler of a completed operation. Every handler destroys the session on an error. -/
def handle (scope : Scope) (config : ClientConfig) (world : World) : Op → Result → Scope
  | _, .failed => scope.destroy
  | .firstRead, .read data => (scope.fillIn data).onFirstRead data.length
  | .greetingWrite, .done => scope.onGreetingWritten
  | .requestRead, .read data => (scope.fillIn data).onRequestRead config world data.length
  | .headerRead initial, .read data => scope.onHeaderRead (initial ++ data)
  | .httpWrite, .done => scope.doResolve
  | .resolve, .resolved results => scope.onResolved results
  | .connect, .done => scope.onConnected world
  | .tlsHandshake, .done => scope.afterSslHandshake
  | .wsHandshake, .done => scope.doSentVReq
  | .vRequestWrite, .done => scope.onVRequestWritten world
  | .replyWrite, .done => scope.setForward.readBoth
  | .localRead, .read data => (scope.fillIn data).writeUpstream data.length
  | .upstreamRead, .read data => (scope.fillOut data).writeLocal data.length
  | .upstreamWrite, .done => scope.await .localRead
  | .localWrite, .done => scope.await .upstreamRead
  | .associateWrite, .done => scope.await .controlRead
  | .controlRead, .read _ => scope.await .controlRead
  | _, _ => scope

end Scope

/-- Results an operation can have. A read of the HTTP header ends with a line end in the bytes
read so far, and reads nothing when there is one already. -/
def Op.admits : Op → Result → Bool
  | _, .failed => true
  | .greetingWrite, .done | .httpWrite, .done | .connect, .done | .tlsHandshake, .done => true
  | .wsHandshake, .done | .vRequestWrite, .done | .replyWrite, .done => true
  | .upstreamWrite, .done | .localWrite, .done | .associateWrite, .done => true
  | .firstRead, .read data | .requestRead, .read data => decide (data.length ≤ maxBuffSize)
  | .localRead, .read data | .upstreamRead, .read data => decide (data.length ≤ maxBuffSize)
  | .controlRead, .read data => decide (data.length ≤ 128)
  | .headerRead initial, .read data =>
    (find crlf (initial ++ data)).isSome && ((find crlf initial).isNone || data.isEmpty)
  | .resolve, .resolved _ => true
  | _, _ => false

end Overplus.Client
