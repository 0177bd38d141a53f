import Overplus.Library.Run
import Overplus.Protocol.Trojan
import Overplus.Protocol.VRequest
import Overplus.Server.SessionBuffer

/-!
# The server session

`Session<T>` with its two forms `TlsSession` and `WebsocketSession`, as a machine. An
asynchronous operation of the code is an element of the list of pending operations; a step
takes one of them with its result and runs the code's handler for it. Handlers run one at a
time, on the thread of the session's context. Operations that are pending when the session
is destroyed stay pending and may still complete with any result, in any order. A trace
records what the session does to its surroundings.

The name caches, the system calls that open a socket or set its options, and the memory
behind a received string belong to other parts of the process; a step takes their answers
from its `World`.
-/
namespace Overplus.Server

/-- `Session::MAX_BUFF_SIZE`. -/
def maxBuffSize : Nat := 64 * 1024

/-- The two session classes. -/
inductive SessionKind where
  /-- `TlsSession`. -/
  | tls
  /-- `WebsocketSession`. -/
  | websocket
deriving DecidableEq, Repr

/-- `Session::State`. -/
inductive SessionState where
  /-- `HANDSHAKE`. -/
  | handshake
  /-- `FORWARD`. -/
  | forward
  /-- `DESTROY`. -/
  | destroy
deriving DecidableEq, Repr

/-- `Session::Direction`; a mask is the list of its directions. -/
inductive Direction where
  /-- `DIR_DOWN`, from the client to the target. -/
  | down
  /-- `DIR_UP`, from the target to the client. -/
  | up
deriving DecidableEq, Repr

/-- `DIR_BOTH`. -/
def dirBoth : List Direction := [.down, .up]

/-- The ring and the flags of one direction: `ring_down_`, `sending_down_`, `pausing_down_`
and their counterparts. -/
structure Lane where
  /-- Bytes read and not yet sent. -/
  ring : SessionBuffer := {}
  /-- A send is in flight. -/
  sending : Bool := false
  /-- The source is not read until the ring is empty. -/
  pausing : Bool := false

/-- `ServerConfig`, as far as sessions read it. -/
structure ServerConfig where
  /-- `allowed_passwords`. -/
  allowedPasswords : List Bytes

/-- Answers of the rest of the process during one step. -/
structure World where
  /-- `DnsCacheManager::get_tcp`. -/
  cachedTcp : Bytes → Option Endpoint := fun _ => none
  /-- `DnsCacheManager::get_udp`. -/
  cachedUdp : Bytes → Option Endpoint := fun _ => none
  /-- Opening a UDP socket succeeds. -/
  openOk : Bool := true
  /-- Setting the options of a connected socket does not throw. -/
  optionsOk : Bool := true
  /-- Memory behind the string of the first message. -/
  beyond : Memory := Memory.unmapped

/-- Asynchronous operations, with what their handlers capture. -/
inductive Op where
  /-- TLS handshake with the client. -/
  | handshake
  /-- Websocket handshake with the client. -/
  | accept
  /-- The read of `handle_custom_protocol`. -/
  | firstRead
  /-- The resolution of `do_resolve`. -/
  | resolve (dnsKey : Bytes)
  /-- The connection of `do_connect`. -/
  | connect
  /-- The write of the request's early data. -/
  | payloadWrite
  /-- A read of `async_bidirectional_read`. -/
  | read (direction : Direction)
  /-- A send of `do_send_down` or `do_send_up`, from a region of the ring. -/
  | send (direction : Direction) (position count : Nat)
  /-- The read of `udp_upstream_read`. -/
  | udpFirstRead
  /-- A resolution of `handle_trojan_udp_proxy` (`first`) or of the steady read. -/
  | udpResolve (first : Bool) (packet : UDPPacket) (dnsKey : Bytes)
  /-- A datagram being sent to the target, with the directions read afterwards. -/
  | udpSend (directions : List Direction)
  /-- The client read of `udp_async_bidirectional_read`. -/
  | udpRead
  /-- The target receive of `udp_async_bidirectional_read`. -/
  | udpReceive
  /-- A packet being written to the client by `upstream_udp_write`. -/
  | udpWrite
deriving DecidableEq, Repr

/-- How an operation completes. -/
inductive Result where
  /-- With an error code. -/
  | failed
  /-- Without error and without data. -/
  | done
  /-- With bytes stored in the operation's buffer. -/
  | read (data : Bytes)
  /-- With a number of bytes sent. -/
  | sent (count : Nat)
  /-- With the endpoints of a name. -/
  | resolved (results : List Endpoint)
  /-- With a datagram stored in the operation's buffer, from a sender. -/
  | received (sender : Endpoint) (data : Bytes)

/-- What a session does to its surroundings. -/
inductive Effect where
  /-- The first message was read. -/
  | firstMessage (data : Bytes)
  /-- A name is resolved for a TCP target. -/
  | resolve (host service : Bytes)
  /-- A TCP connection is opened. -/
  | connect (endpoint : Endpoint)
  /-- A name is resolved for a UDP target. -/
  | udpResolve (host service : Bytes)
  /-- A datagram is sent to a target. -/
  | datagram (endpoint : Endpoint) (payload : Bytes)
  /-- Forwarding in both directions starts. -/
  | forwarding
  /-- Bytes were read from the direction's source. -/
  | received (direction : Direction) (data : Bytes)
  /-- Bytes were handed to the direction's sink. -/
  | handed (direction : Direction) (data : Bytes)
  /-- A datagram arrived from the target side. -/
  | udpReceived (sender : Endpoint) (data : Bytes)
  /-- A packet is written to the client. -/
  | udpReply (packet : Bytes)
  /-- `put_tcp`. -/
  | putTcp (dnsKey : Bytes) (endpoint : Endpoint)
  /-- `put_udp`. -/
  | putUdp (dnsKey : Bytes) (endpoint : Endpoint)
deriving DecidableEq

/-- `Session`, its pending operations and its trace. -/
structure Session where
  /-- Session class. -/
  kind : SessionKind
  /-- `state_`. -/
  state : SessionState := .handshake
  /-- Client-to-target ring and flags. -/
  down : Lane := {}
  /-- Target-to-client ring and flags. -/
  up : Lane := {}
  /-- `trojanReq`. -/
  trojanReq : TrojanReq := {}
  /-- `v_req`. -/
  vReq : VRequest := {}
  /-- `password`. -/
  password : Bytes := []
  /-- `upstream_udp_buff`. -/
  upstreamUdpBuff : Bytes := []
  /-- `udp_buff_offset_`. -/
  udpBuffOffset : Nat := 0
  /-- `in_buf`. -/
  inBuf : Bytes := List.replicate maxBuffSize 0
  /-- `out_buf`. -/
  outBuf : Bytes := List.replicate maxBuffSize 0
  /-- `remote_host`. -/
  remoteHost : Bytes := []
  /-- `remote_port`. -/
  remotePort : Bytes := []
  /-- `vprotocol`. -/
  vprotocol : Bool := false
  /-- `downstream_udp_socket.is_open()`. -/
  udpOpen : Bool := false
  /-- Operations in flight. -/
  pending : List Op := []
  /-- What the session has done. -/
  trace : List Effect := []
  /-- The process was ended by a stray read or an exception. -/
  crashed : Bool := false

namespace Session

/-- Start an asynchronous operation. -/
def await (session : Session) (op : Op) : Session :=
  { session with pending := session.pending ++ [op] }

/-- Take an operation off the list of pending ones. -/
def complete (session : Session) (op : Op) : Session :=
  { session with pending := session.pending.erase op }

/-- Record an effect. -/
def emit (session : Session) (effect : Effect) : Session :=
  { session with trace := session.trace ++ [effect] }

/-- End the process. -/
def crash (session : Session) : Session := { session with crashed := true }

/-- The ring and flags of a direction. -/
def lane (session : Session) : Direction → Lane
  | .down => session.down
  | .up => session.up

/-- Replace the ring and flags of a direction. -/
def setLane (session : Session) (direction : Direction) (lane : Lane) : Session :=
  match direction with
  | .down => { session with down := lane }
  | .up => { session with up := lane }

/-- The buffer a direction's source is read into. -/
def buffer (session : Session) : Direction → Bytes
  | .down => session.inBuf
  | .up => session.outBuf

/-- Store received bytes at the start of a direction's buffer. -/
def fill (session : Session) (direction : Direction) (data : Bytes) : Session :=
  match direction with
  | .down => { session with inBuf := data ++ session.inBuf.drop data.length }
  | .up => { session with outBuf := data ++ session.outBuf.drop data.length }

/-- Bytes arrive from a direction's source. -/
def receive (session : Session) (direction : Direction) (data : Bytes) : Session :=
  (session.fill direction data).emit (.received direction data)

/-- `upstream_udp_buff.append(in_buf.data(), length)`. -/
def appendUdp (session : Session) (length : Nat) : Session :=
  { session with upstreamUdpBuff := session.upstreamUdpBuff ++ session.inBuf.take length }

/-- Keep a decoded V request. -/
def takeVRequest (session : Session) (request : VRequest) : Session :=
  { session with vReq := request, password := request.password, vprotocol := true }

/-- Keep a parsed Trojan request. -/
def takeTrojanReq (session : Session) (request : TrojanReq) : Session :=
  { session with trojanReq := request, password := request.password }

/-- `destroy` of either session class. Closing the sockets cancels what is pending on them. -/
def destroy (session : Session) : Session :=
  if session.state = .destroy then session
  else
    { session with
      state := .destroy
      down := { ring := session.down.ring.reset }
      up := { ring := session.up.ring.reset }
      udpOpen := false }

/-- `async_bidirectional_read`. -/
def asyncBidirectionalRead (session : Session) (directions : List Direction) : Session :=
  let session := if .down ∈ directions then session.await (.read .down) else session
  if .up ∈ directions then session.await (.read .up) else session

/-- `do_send_down` and `do_send_up`. -/
def doSend (session : Session) (direction : Direction) : Session :=
  let lane := session.lane direction
  if lane.ring.empty then
    if lane.pausing then
      (session.setLane direction { lane with sending := false, pausing := false })
        |>.asyncBidirectionalRead [direction]
    else session.setLane direction { lane with sending := false }
  else session.await (.send direction lane.ring.peek.1 lane.ring.peek.2)

/-- `enqueue_write`. -/
def enqueueWrite (session : Session) (direction : Direction) (data : Bytes) : Session :=
  let lane := session.lane direction
  let ring := lane.ring.enqueue data
  if lane.sending then session.setLane direction { lane with ring := ring }
  else (session.setLane direction { lane with ring := ring, sending := true }).doSend direction

/-- `async_bidirectional_write`. -/
def asyncBidirectionalWrite (session : Session) (direction : Direction) (len : Nat) : Session :=
  let session := session.enqueueWrite direction ((session.buffer direction).take len)
  if (session.lane direction).ring.hasSpace maxBuffSize then
    session.asyncBidirectionalRead [direction]
  else session.setLane direction { session.lane direction with pausing := true }

/-- The early data of the request: `packed_buff` or the Trojan payload. -/
def initialPayload (session : Session) : Bytes :=
  if session.vprotocol then session.vReq.packedBuff else session.trojanReq.payload

/-- `async_bidirectional_read(DIR_BOTH)` once the target is connected. -/
def startForwarding (session : Session) : Session :=
  (session.emit .forwarding).asyncBidirectionalRead dirBoth

/-- The handler of the connection in `do_connect`. -/
def onConnected (session : Session) (world : World) : Session :=
  if world.optionsOk then
    if session.initialPayload.isEmpty then session.startForwarding
    else session.await .payloadWrite
  else session.crash

/-- `do_connect`. -/
def doConnect (session : Session) (endpoint : Endpoint) : Session :=
  ({ session with state := .forward }.emit (.connect endpoint)).await .connect

/-- The key of a host and a port in the name caches. -/
def dnsKey (host service : Bytes) : Bytes := host ++ [58] ++ service

/-- `do_resolve`. -/
def doResolve (session : Session) (world : World) : Session :=
  let host := if session.vprotocol then session.vReq.address else session.trojanReq.address.address
  let port := if session.vprotocol then session.vReq.port else session.trojanReq.address.port
  let session := { session with remoteHost := host, remotePort := decimal port.toNat }
  let key := dnsKey session.remoteHost session.remotePort
  match world.cachedTcp key with
  | some endpoint => session.doConnect endpoint
  | none => (session.emit (.resolve session.remoteHost session.remotePort)).await (.resolve key)

/-- `udp_async_bidirectional_read`. -/
def udpAsyncBidirectionalRead (session : Session) (directions : List Direction) : Session :=
  let session := if .down ∈ directions then session.await .udpRead else session
  if .up ∈ directions then session.await .udpReceive else session

/-- `async_send_to` on the target socket. -/
def asyncSendTo (session : Session) (payload : Bytes) (endpoint : Endpoint)
    (directions : List Direction) : Session :=
  (session.emit (.datagram endpoint payload)).await (.udpSend directions)

/-- Send the first packet, opening the target socket where it is not open. -/
def openAndSend (session : Session) (world : World) (payload : Bytes) (endpoint : Endpoint) :
    Session :=
  if session.udpOpen then session.asyncSendTo payload endpoint dirBoth
  else if world.openOk then
    { session with udpOpen := true }.asyncSendTo payload endpoint dirBoth
  else session.destroy

/-- Bytes of `upstream_udp_buff` not parsed yet. -/
def remaining (session : Session) : Bytes := session.upstreamUdpBuff.drop session.udpBuffOffset

/-- Step over a parsed packet, dropping the parsed bytes once they are many. -/
def advance (session : Session) (packetLen : Nat) : Session :=
  let offset := session.udpBuffOffset + packetLen
  if maxBuffSize / 2 < offset ∧ offset < session.upstreamUdpBuff.length then
    { session with upstreamUdpBuff := session.upstreamUdpBuff.drop offset, udpBuffOffset := 0 }
  else { session with udpBuffOffset := offset }

/-- The unparsed bytes are more than a packet may need. -/
def tooLong (session : Session) : Bool :=
  decide (maxBuffSize < session.upstreamUdpBuff.length - session.udpBuffOffset)

/-- Send a parsed packet to its cached endpoint with `send`, or resolve its name. -/
def dispatch (session : Session) (world : World) (first : Bool) (packet : UDPPacket)
    (send : Session → Endpoint → Session) : Session :=
  let service := decimal packet.address.port.toNat
  let key := dnsKey packet.address.address service
  match world.cachedUdp key with
  | some endpoint => send session endpoint
  | none =>
    (session.emit (.udpResolve packet.address.address service)).await (.udpResolve first packet key)

/-- `handle_trojan_udp_proxy`. -/
def handleTrojanUdpProxy (session : Session) (world : World) : Session :=
  let session := { session with state := .forward }
  match UDPPacket.parse session.remaining with
  | none => if session.tooLong then session.destroy else session.await .udpFirstRead
  | some (packet, packetLen) =>
    (session.advance packetLen).dispatch world true packet fun session endpoint =>
      session.openAndSend world packet.payload endpoint

/-- The client read handler of `udp_async_bidirectional_read`. -/
def onUdpRead (session : Session) (world : World) : Session :=
  match UDPPacket.parse session.remaining with
  | none => if session.tooLong then session.destroy else session.udpAsyncBidirectionalRead [.down]
  | some (packet, packetLen) =>
    (session.advance packetLen).dispatch world false packet fun session endpoint =>
      session.asyncSendTo packet.payload endpoint [.down]

/-- The endpoint a UDP name is taken to mean: its first IPv4 endpoint, or else its first. -/
def chooseEndpoint (results : List Endpoint) : Option Endpoint :=
  (results.find? fun endpoint => endpoint.address.isV4).or results.head?

/-- The handlers of the two UDP resolutions. -/
def onUdpResolved (session : Session) (world : World) (first : Bool) (packet : UDPPacket)
    (dnsKey : Bytes) (results : List Endpoint) : Session :=
  match chooseEndpoint results with
  | none => session.destroy
  | some endpoint =>
    let session := session.emit (.putUdp dnsKey endpoint)
    if first then session.openAndSend world packet.payload endpoint
    else session.asyncSendTo packet.payload endpoint [.down]

/-- The handler of the resolution in `do_resolve`. -/
def onResolved (session : Session) (dnsKey : Bytes) (results : List Endpoint) : Session :=
  match results.head? with
  | none => session.destroy
  | some endpoint => (session.emit (.putTcp dnsKey endpoint)).doConnect endpoint

/-- The second half of the first message's handler: the password check and the choice of the
service. -/
def authenticate (session : Session) (config : ServerConfig) (world : World) (valid : Bool) :
    Session :=
  if valid then
    if session.password ∈ config.allowedPasswords then
      if session.vprotocol = false ∧ session.trojanReq.command = some .udpAssociate then
        { session with upstreamUdpBuff := session.trojanReq.payload }.handleTrojanUdpProxy world
      else session.doResolve world
    else session.destroy
  else session.destroy

/-- The handler of `handle_custom_protocol`, on a message of the given length in `in_buf`. -/
def onFirstMessage (session : Session) (config : ServerConfig) (world : World) (length : Nat) :
    Session :=
  let message := session.inBuf.take length
  if VRequest.isVProtocol session.inBuf then
    match session.vReq.unstream message world.beyond with
    | .error _ => session.crash
    | .ok decoded =>
      (session.takeVRequest decoded.2).authenticate config world decoded.1
  else
    let parsed := session.trojanReq.parse message
    (session.takeTrojanReq parsed.2).authenticate config world (parsed.1 != -1)

/-- `handle_custom_protocol`. -/
def handleCustomProtocol (session : Session) : Session := session.await .firstRead

/-- Run the handler of a completed operation. Every handler destroys the session on an error;
a tunnel read of a destroyed session returns before it looks at the error, which is the same,
as a destroyed session is not destroyed again. -/
def handle (session : Session) (config : ServerConfig) (world : World) : Op → Result → Session
  | _, .failed => session.destroy
  | .handshake, .done =>
    match session.kind with
    | .tls => session.handleCustomProtocol
    | .websocket => session.await .accept
  | .accept, .done => session.handleCustomProtocol
  | .firstRead, .read data =>
    ((session.fill .down data).emit (.firstMessage data)).onFirstMessage config world data.length
  | .resolve dnsKey, .resolved results => session.onResolved dnsKey results
  | .connect, .done => session.onConnected world
  | .payloadWrite, .done => (session.emit (.handed .down session.initialPayload)).startForwarding
  | .read direction, .read data =>
    let session := session.receive direction data
    if session.state = .destroy then session
    else session.asyncBidirectionalWrite direction data.length
  | .send direction position count, .sent sent =>
    let lane := session.lane direction
    let session := session.emit (.handed direction ((lane.ring.region position count).take sent))
    (session.setLane direction { lane with ring := lane.ring.consume sent }).doSend direction
  | .udpFirstRead, .read data =>
    ((session.receive .down data).appendUdp data.length).handleTrojanUdpProxy world
  | .udpResolve first packet dnsKey, .resolved results =>
    session.onUdpResolved world first packet dnsKey results
  | .udpSend directions, .done => session.udpAsyncBidirectionalRead directions
  | .udpRead, .read data =>
    ((session.receive .down data).appendUdp data.length).onUdpRead world
  | .udpReceive, .received sender data =>
    let session := (session.fill .up data).emit (.udpReceived sender data)
    let packet := UDPPacket.generate Endpoint.unspecified (session.outBuf.take data.length)
    (session.emit (.udpReply packet)).await .udpWrite
  | .udpWrite, .done => session.udpAsyncBidirectionalRead [.up]
  | _, _ => session

end Session

/-- Results an operation can have: data that fits the buffer, at least one byte of those
offered for sending, and a whole write of the early data. -/
def Op.admits : Op → Result → Bool
  | _, .failed => true
  | .handshake, .done | .accept, .done | .connect, .done | .payloadWrite, .done => true
  | .udpSend _, .done | .udpWrite, .done => true
  | .firstRead, .read data | .read _, .read data => decide (data.length ≤ maxBuffSize)
  | .udpFirstRead, .read data | .udpRead, .read data => decide (data.length ≤ maxBuffSize)
  | .send _ _ count, .sent sent => decide (1 ≤ sent ∧ sent ≤ count)
  | .resolve _, .resolved _ | .udpResolve _ _ _, .resolved _ => true
  | .udpReceive, .received _ data => decide (data.length ≤ maxBuffSize)
  | _, _ => false

/-- The completion of a pending operation. -/
structure Event where
  /-- Operation that completes. -/
  op : Op
  /-- How it completes. -/
  result : Result
  /-- Answers of the rest of the process to the handler. -/
  world : World := {}

/-- `start`: a session waits for the TLS handshake. -/
def Session.start (kind : SessionKind) : Session := { kind := kind, pending := [.handshake] }

/-- Complete one pending operation and run its handler. -/
def Session.step (config : ServerConfig) (session : Session) (event : Event) : Option Session :=
  if session.crashed = false ∧ event.op ∈ session.pending ∧ event.op.admits event.result then
    some ((session.complete event.op).handle config event.world event.op event.result)
  else none

end Overplus.Server
