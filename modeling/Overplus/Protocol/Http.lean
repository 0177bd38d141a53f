import Overplus.Library.Text

/-!
# The HTTP CONNECT request (`Protocol/http/http.cpp`)

The request is taken from the first line of the bytes read so far. A port that is not a number
makes the conversion throw.
-/
namespace Overplus

/-- `HttpRequest`. -/
structure HttpRequest where
  /-- Host the application asks for. -/
  host : Bytes := []
  /-- Port the application asks for. -/
  port : UInt16 := 443
deriving DecidableEq, Repr

namespace HttpRequest

/-- `"CONNECT "`. -/
def method : Bytes := [67, 79, 78, 78, 69, 67, 84, 32]

/-- Host and port of an authority. -/
def unstreamAddress (request : HttpRequest) (address : Bytes) :
    Except Fault (Bool × HttpRequest) :=
  match find [58] address with
  | some colonPos => do
    let port ← stoi (address.drop (colonPos + 1))
    let request := { request with host := address.take colonPos, port := UInt16.ofInt port }
    .ok (!request.host.isEmpty, request)
  | none =>
    let request := { request with host := address, port := 443 }
    .ok (!request.host.isEmpty, request)

/-- `HttpRequest::unstream`: the returned flag and the request as the call leaves it. -/
def unstream (request : HttpRequest) (buf : Bytes) : Except Fault (Bool × HttpRequest) :=
  match find crlf buf with
  | none => .ok (false, request)
  | some lineEnd =>
    let line := buf.take lineEnd
    if line.take 8 ≠ method then .ok (false, request)
    else
      let address := line.drop 8
      match find [32] address with
      | some spacePos => request.unstreamAddress (address.take spacePos)
      | none => request.unstreamAddress address

end HttpRequest

/-- `HttpResponse::ok`, the text `HTTP/1.1 200 Connection Established` and two line ends. -/
def HttpResponse.ok : Bytes :=
  [72, 84, 84, 80, 47, 49, 46, 49, 32, 50, 48, 48, 32, 67, 111, 110, 110, 101, 99, 116, 105, 111,
    110, 32, 69, 115, 116, 97, 98, 108, 105, 115, 104, 101, 100, 13, 10, 13, 10]

end Overplus
