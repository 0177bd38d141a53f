import Overplus.Library.Word

/-!
# Endpoints

The address and port of a socket, as `boost::asio::ip` gives them: an address is four bytes
or sixteen, in network order. Scope identifiers of IPv6 addresses are left out; no format of
the program carries them.
-/
namespace Overplus

/-- `boost::asio::ip::address`. -/
inductive Address where
  /-- `address_v4`. -/
  | v4 (bytes : FixedBytes 4)
  /-- `address_v6`. -/
  | v6 (bytes : FixedBytes 16)
deriving DecidableEq

namespace Address

/-- The bytes of `127.0.0.1`. -/
def loopbackBytes : FixedBytes 4 := ⟨[127, 0, 0, 1], rfl⟩

/-- `address_v4(uint)`: the address with the word's bytes in network order. -/
def ofWord (word : UInt32) : Address := .v4 ⟨be32 word, be32_length word⟩

/-- `is_v4()`. -/
def isV4 : Address → Bool
  | .v4 _ => true
  | .v6 _ => false

/-- `to_bytes()` of either family. -/
def toBytes : Address → Bytes
  | .v4 bytes => bytes.val
  | .v6 bytes => bytes.val

/-- `is_unspecified()`: every byte is zero. -/
def isUnspecified (address : Address) : Bool := address.toBytes.all (· == 0)

end Address

/-- `boost::asio::ip::udp::endpoint` and `tcp::endpoint`. -/
structure Endpoint where
  /-- Host address. -/
  address : Address
  /-- Port in host order. -/
  port : UInt16
deriving DecidableEq

/-- A default-constructed endpoint: the unspecified IPv4 address and port zero. -/
def Endpoint.unspecified : Endpoint := ⟨.ofWord 0, 0⟩

end Overplus
