import Overplus.Library.Text
import Overplus.Shared.Coding
import Overplus.Protocol.Endpoint

/-!
# SOCKS5 messages (`Protocol/socks5`)

The greeting, its answer, the request and the reply of the control connection, and the header
of a datagram handed to a relay. The greeting and the request are decoded from a session's
buffer, which is longer than any of them: an index behind the bytes just read finds what the
buffer held before. A datagram is decoded inside its own length. Objects local to a handler are
dropped when their decoding fails, so those decoders return nothing then.
-/
namespace Overplus

/-- `AuthMethod`. -/
inductive AuthMethod where
  /-- `NO_AUTHENTICATION`. -/
  | noAuthentication
  /-- `GSSAPI`. -/
  | gssapi
  /-- `PASSWORD`. -/
  | password
  /-- `IANA_ASSIGNED`. -/
  | ianaAssigned
  /-- `RESERVED`. -/
  | reserved
  /-- `NO_ACCEPTABLE_METHODS`. -/
  | noAcceptableMethods
deriving DecidableEq, Repr

/-- The method a byte of the greeting stands for. -/
def AuthMethod.ofByte (octet : UInt8) : AuthMethod :=
  if octet = 0 then .noAuthentication else if octet = 1 then .gssapi
  else if octet = 2 then .password else if octet ≤ 0x7e then .ianaAssigned
  else if octet ≤ 0xfe then .reserved else .noAcceptableMethods

/-- The value of the enumerator, which is what an answer carries. -/
def AuthMethod.toByte : AuthMethod → UInt8
  | .noAuthentication => 0
  | .gssapi => 1
  | .password => 2
  | .ianaAssigned => 3
  | .reserved => 4
  | .noAcceptableMethods => 5

/-- `AuthReq`. -/
structure AuthReq where
  /-- Protocol version. -/
  version : UInt8
  /-- Number of methods offered. -/
  nmethod : UInt8
  /-- Methods offered. -/
  methods : List AuthMethod
deriving DecidableEq, Repr

/-- `AuthReq::unstream`. -/
def AuthReq.unstream (buf : Bytes) : Option AuthReq :=
  let version := buf.getD 0 0
  if version ≠ 0x05 then none
  else
    let nmethod := buf.getD 1 0
    some ⟨version, nmethod,
      (List.range nmethod.toNat).map fun index => .ofByte (buf.getD (2 + index) 0)⟩

/-- `AuthRes`. -/
structure AuthRes where
  /-- Protocol version. -/
  version : UInt8
  /-- Method chosen. -/
  method : AuthMethod

/-- `AuthRes::stream`. -/
def AuthRes.stream (answer : AuthRes) (buf : Bytes) : Bytes :=
  Coding.encodeFixed8 (Coding.encodeFixed8 buf answer.version) answer.method.toByte

/-- `ADDRTYPE` of the control connection. -/
inductive AddrType where
  /-- `V4`. -/
  | v4
  /-- `DOMAINNAME`. -/
  | domainName
  /-- `V6`. -/
  | v6
deriving DecidableEq, Repr

/-- The value of the enumerator. -/
def AddrType.toByte : AddrType → UInt8
  | .v4 => 0x01
  | .domainName => 0x03
  | .v6 => 0x04

/-- The address type a byte stands for. -/
def AddrType.ofByte (value : UInt8) : Option AddrType :=
  if value = 0x01 then some .v4 else if value = 0x03 then some .domainName
  else if value = 0x04 then some .v6 else none

/-- Only its own byte stands for an address type. -/
theorem AddrType.ofByte_eq {value : UInt8} {kind : AddrType}
    (read : AddrType.ofByte value = some kind) : value = kind.toByte := by
  unfold AddrType.ofByte at read
  split_ifs at read
  all_goals
    obtain rfl := Option.some.inj read
    assumption

/-- `Request`; a command is kept as its byte, which may be none of the known ones. -/
structure Request where
  /-- Protocol version. -/
  version : UInt8 := 0
  /-- Command. -/
  cmd : UInt8 := 0
  /-- Reserved byte. -/
  reserved : UInt8 := 0
  /-- Kind of address. -/
  addrType : AddrType := .v4
  /-- Host the application asks for, as text. -/
  remoteHost : Bytes := []
  /-- Port the application asks for. -/
  remotePort : UInt16 := 0
deriving DecidableEq, Repr

namespace Request

/-- `Request::CONNECT`. -/
def connect : UInt8 := 0x01
/-- `Request::BIND`. -/
def bind : UInt8 := 0x02
/-- `Request::UDP_ASSOCIATE`. -/
def udpAssociate : UInt8 := 0x03

/-- The address and port of a request, behind its address type. -/
def unsteamAddress (request : Request) (buf : Bytes) (length : Nat) : Bool × Request :=
  match request.addrType with
  | .v4 =>
    if length ≠ 4 + 4 + 2 then (false, request)
    else (true, { request with
      remoteHost := dotted (buf.getD 4 0) (buf.getD 5 0) (buf.getD 6 0) (buf.getD 7 0)
      remotePort := ofBe16 (buf.getD 8 0) (buf.getD 9 0) })
  | .domainName =>
    let hostLength := (buf.getD 4 0).toNat
    if length ≠ 5 + hostLength + 2 then (false, request)
    else (true, { request with
      remoteHost := (buf.drop 5).take hostLength
      remotePort := ofBe16 (buf.getD (5 + hostLength) 0) (buf.getD (5 + hostLength + 1) 0) })
  | .v6 => (false, request)

/-- `Request::unsteam`: the returned flag and the request as the call leaves it. -/
def unsteam (request : Request) (buf : Bytes) (length : Nat) : Bool × Request :=
  let request := { request with version := buf.getD 0 0 }
  if request.version ≠ 0x05 then (false, request)
  else
    let request := { request with cmd := buf.getD 1 0, reserved := buf.getD 2 0 }
    if request.reserved ≠ 0x00 then (false, request)
    else match AddrType.ofByte (buf.getD 3 0) with
    | none => (false, request)
    | some addrType => { request with addrType }.unsteamAddress buf length

variable {request : Request} {message rest buf : Bytes} {length : Nat}

/-- No message of fewer than seven bytes is a request, whatever the buffer holds behind it. -/
theorem unsteam_short (short : length < 7) : (request.unsteam buf length).1 = false := by
  unfold unsteam unsteamAddress
  dsimp only
  split
  · rfl
  · split
    · rfl
    · split
      · rfl
      · split
        · exact congrArg Prod.fst (if_pos (by omega))
        · exact congrArg Prod.fst (if_pos (by omega))
        · rfl

/-- The address is decoded inside the message. -/
theorem unsteamAddress_append (long : 7 ≤ message.length) :
    request.unsteamAddress (message ++ rest) message.length =
      request.unsteamAddress message message.length := by
  have inside {index : Nat} (covered : index < message.length) :
      (message ++ rest).getD index 0 = message.getD index 0 := List.getD_append _ _ _ _ covered
  unfold unsteamAddress
  dsimp only
  split
  · split
    · rfl
    · rw [inside, inside, inside, inside, inside, inside] <;> omega
  · rw [inside (by omega)]
    split
    · rfl
    · rw [inside (by omega), inside (by omega), List.drop_append_of_le_length (by omega),
        List.take_append_of_le_length (by rw [List.length_drop]; omega)]
  · rfl

/-- **Stale bytes do not matter.** A request of at least seven bytes is decoded alike whatever the
buffer holds behind it. -/
theorem unsteam_append (long : 7 ≤ message.length) :
    request.unsteam (message ++ rest) message.length = request.unsteam message message.length := by
  have inside {index : Nat} (covered : index < 7) :
      (message ++ rest).getD index 0 = message.getD index 0 :=
    List.getD_append _ _ _ _ (by omega)
  unfold unsteam
  simp only [inside, Nat.reduceLT, unsteamAddress_append long]

end Request

/-- `Reply`. -/
structure Reply where
  /-- Protocol version. -/
  version : UInt8 := 0x05
  /-- Outcome. -/
  repResult : UInt8
  /-- Reserved byte. -/
  reserved : UInt8 := 0x00
  /-- Kind of address. -/
  addrType : AddrType := .v4
  /-- Address bound for the client. -/
  realRemoteIP : UInt32
  /-- Port bound for the client. -/
  realRemotePort : UInt16

/-- `Reply::stream`. -/
def Reply.stream (reply : Reply) (buf : Bytes) : Bytes :=
  let buf := Coding.encodeFixed8 buf reply.version
  let buf := Coding.encodeFixed8 buf reply.repResult
  let buf := Coding.encodeFixed8 buf reply.reserved
  let buf := Coding.encodeFixed8 buf reply.addrType.toByte
  let buf := Coding.encodeFixed32 buf (Coding.htonl reply.realRemoteIP)
  Coding.encodeFixed16 buf (Coding.htons reply.realRemotePort)

/-- `UdpRequest`. -/
structure UdpRequest where
  /-- Reserved bytes. -/
  rsv : UInt8 × UInt8 := (0, 0)
  /-- Fragment number. -/
  frag : UInt8 := 0
  /-- Kind of address, as the byte on the wire. -/
  addrType : UInt8 := 0
  /-- Raw bytes of an IP address, or the text of a domain. -/
  dstAddr : Bytes := []
  /-- Port in host order. -/
  dstPort : UInt16 := 0
  /-- Bytes of the datagram. -/
  payload : Bytes := []
deriving DecidableEq, Repr

namespace UdpRequest

/-- A datagram whose address takes `addrLen` bytes from index `start` on. -/
def parseAddress (data : Bytes) (start addrLen : Nat) : UdpRequest where
  rsv := (data.getD 0 0, data.getD 1 0)
  frag := data.getD 2 0
  addrType := data.getD 3 0
  dstAddr := (data.drop start).take addrLen
  dstPort := ofBe16 (data.getD (start + addrLen) 0) (data.getD (start + addrLen + 1) 0)
  payload := data.drop (start + addrLen + 2)

/-- `UdpRequest::parse`. -/
def parse (data : Bytes) : Option UdpRequest :=
  if data.length < 4 then none
  else if data.getD 0 0 ≠ 0x00 ∨ data.getD 1 0 ≠ 0x00 ∨ data.getD 2 0 ≠ 0x00 then none
  else
    let remain := data.length - 4
    if data.getD 3 0 = 0x01 then
      if remain < 6 then none else some (parseAddress data 4 4)
    else if data.getD 3 0 = 0x03 then
      if remain < 1 then none
      else
        let dlen := (data.getD 4 0).toNat
        if remain < dlen + 2 + 1 then none else some (parseAddress data 5 dlen)
    else if data.getD 3 0 = 0x04 then
      if remain < 18 then none else some (parseAddress data 4 16)
    else none

/-- `UdpRequest::serialize`. -/
def serialize (request : UdpRequest) : Bytes :=
  let addr :=
    if request.addrType = 0x01 then request.dstAddr
    else if request.addrType = 0x03 then [UInt8.ofNat request.dstAddr.length] ++ request.dstAddr
    else if request.addrType = 0x04 then request.dstAddr
    else []
  [request.rsv.1, request.rsv.2, request.frag, request.addrType] ++ addr ++
    [(request.dstPort >>> 8).toUInt8, request.dstPort.toUInt8] ++ request.payload

/-- `UdpRequest::dest_endpoint`. -/
def destEndpoint (request : UdpRequest) : Endpoint :=
  if request.addrType = 0x01 then ⟨.v4 (FixedBytes.copy 4 request.dstAddr), request.dstPort⟩
  else if request.addrType = 0x04 then ⟨.v6 (FixedBytes.copy 16 request.dstAddr), request.dstPort⟩
  else .unspecified

end UdpRequest

end Overplus
