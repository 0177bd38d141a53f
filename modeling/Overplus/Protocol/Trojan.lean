import Overplus.Library.Text
import Overplus.Protocol.Endpoint

/-!
# Trojan requests and packets

`SOCKS5Address`, `TrojanReq` and `UDPPacket`: the first message of a Trojan client and the
packets of its UDP mode. Indexing a string at its own size reads the terminating zero, so
bytes are looked up with default zero; every other index is checked by the code before it is
used. A failed parse of an address or of a packet leaves values that no caller reads, so
those parsers return nothing instead.
-/
namespace Overplus

/-- `SOCKS5Address::AddressType`. -/
inductive AddressType where
  /-- Four address bytes. -/
  | ipv4
  /-- A length byte and a name. -/
  | domainName
  /-- Sixteen address bytes. -/
  | ipv6
deriving DecidableEq, Repr

/-- The address type a byte stands for. -/
def AddressType.ofByte (value : UInt8) : Option AddressType :=
  if value = 1 then some .ipv4 else if value = 3 then some .domainName
  else if value = 4 then some .ipv6 else none

/-- The byte of an address type. -/
def AddressType.byte : AddressType → UInt8
  | .ipv4 => 1
  | .domainName => 3
  | .ipv6 => 4

/-- Only its own byte stands for an address type. -/
theorem AddressType.eq_byte {value : UInt8} {type : AddressType}
    (read : AddressType.ofByte value = some type) : value = type.byte := by
  unfold AddressType.ofByte at read
  split_ifs at read with one three four
  all_goals
    obtain rfl := Option.some.inj read
    assumption

/-- `SOCKS5Address`; the type is absent before the first parse. -/
structure SOCKS5Address where
  /-- Kind of address. -/
  addressType : Option AddressType := none
  /-- Address as text. -/
  address : Bytes := []
  /-- Port in host order. -/
  port : UInt16 := 0
deriving DecidableEq, Repr

namespace SOCKS5Address

/-- Text of sixteen address bytes: eight groups of four hexadecimal digits. -/
def hexGroups (data : Bytes) : Bytes :=
  let group (index : Nat) : Bytes :=
    hexByte (data.getD (2 * index) 0) ++ hexByte (data.getD (2 * index + 1) 0)
  group 0 ++ [58] ++ group 1 ++ [58] ++ group 2 ++ [58] ++ group 3 ++ [58] ++ group 4 ++ [58] ++
    group 5 ++ [58] ++ group 6 ++ [58] ++ group 7

/-- `SOCKS5Address::parse`, with the parsed length. -/
def parse (data : Bytes) : Option (SOCKS5Address × Nat) :=
  if data.length = 0 then none
  else match AddressType.ofByte (data.getD 0 0) with
  | none => none
  | some .ipv4 =>
    if 4 + 2 < data.length then
      some ({ addressType := some .ipv4
              address := dotted (data.getD 1 0) (data.getD 2 0) (data.getD 3 0) (data.getD 4 0)
              port := ofBe16 (data.getD 5 0) (data.getD 6 0) }, 1 + 4 + 2)
    else none
  | some .domainName =>
    let domainLen := (data.getD 1 0).toNat
    if domainLen = 0 then none
    else if 1 + domainLen + 2 < data.length then
      some ({ addressType := some .domainName
              address := (data.drop 2).take domainLen
              port := ofBe16 (data.getD (domainLen + 2) 0) (data.getD (domainLen + 3) 0) },
        1 + 1 + domainLen + 2)
    else none
  | some .ipv6 =>
    if 16 + 2 < data.length then
      some ({ addressType := some .ipv6
              address := hexGroups (data.drop 1)
              port := ofBe16 (data.getD 17 0) (data.getD 18 0) }, 1 + 16 + 2)
    else none

/-- `SOCKS5Address::generate`. -/
def generate (endpoint : Endpoint) : Bytes :=
  if endpoint.address.isUnspecified then [1, 0, 0, 0, 0, 0, 0]
  else (match endpoint.address with
    | .v4 bytes => [1] ++ bytes.val
    | .v6 bytes => [4] ++ bytes.val) ++ [(endpoint.port >>> 8).toUInt8, endpoint.port.toUInt8]

end SOCKS5Address

/-- A domain name that fits its length byte. -/
abbrev DomainName := { name : Bytes // 1 ≤ name.length ∧ name.length ≤ 255 }

/-- An address and a port as they are on the wire. -/
inductive WireAddress where
  /-- Four address bytes. -/
  | ipv4 (octets : FixedBytes 4) (port : UInt16)
  /-- A length byte and a name. -/
  | domainName (name : DomainName) (port : UInt16)
  /-- Sixteen address bytes. -/
  | ipv6 (octets : FixedBytes 16) (port : UInt16)
deriving DecidableEq

namespace WireAddress

open SOCKS5Address

/-- The type byte and the address. -/
def host : WireAddress → Bytes
  | .ipv4 octets _ => 1 :: octets.val
  | .domainName name _ => 3 :: UInt8.ofNat name.val.length :: name.val
  | .ipv6 octets _ => 4 :: octets.val

/-- The port. -/
def port : WireAddress → UInt16
  | .ipv4 _ port => port
  | .domainName _ port => port
  | .ipv6 _ port => port

/-- The bytes on the wire. -/
def bytes (wire : WireAddress) : Bytes := wire.host ++ be16 wire.port

/-- What the address is parsed to: its kind, its text and the port. -/
def parsed : WireAddress → SOCKS5Address
  | .ipv4 octets port =>
    ⟨some .ipv4, dotted (octets.val.getD 0 0) (octets.val.getD 1 0) (octets.val.getD 2 0)
      (octets.val.getD 3 0), port⟩
  | .domainName name port => ⟨some .domainName, name.val, port⟩
  | .ipv6 octets port => ⟨some .ipv6, hexGroups octets.val, port⟩

variable {data rest more : Bytes} {wire other : WireAddress}

/-- An address has at least one byte. -/
theorem bytes_pos (wire : WireAddress) : 0 < wire.bytes.length := by
  cases wire <;> simp [bytes, host]

/-- The text of sixteen bytes depends on those bytes only. -/
theorem hexGroups_append (rest : Bytes) (long : 16 ≤ data.length) :
    hexGroups (data ++ rest) = hexGroups data := by
  simp (disch := omega) only [hexGroups, List.getD_append]

/-- The length byte of a name. -/
theorem nameLength (name : DomainName) : (UInt8.ofNat name.val.length).toNat = name.val.length := by
  rw [UInt8.toNat_ofNat']
  exact Nat.mod_eq_of_lt (by have := name.property; omega)

/-- **An address on the wire is parsed**, whatever follows it. -/
theorem parse_bytes (wire : WireAddress) (rest : Bytes) :
    SOCKS5Address.parse (wire.bytes ++ rest) = some (wire.parsed, wire.bytes.length) := by
  have layout : wire.bytes ++ rest = wire.host ++ (be16 wire.port ++ rest) :=
    List.append_assoc _ _ _
  have port := @ofBe16_part (wire.bytes ++ rest) rest _ wire.host wire.port layout rfl
  have length : (wire.bytes ++ rest).length = wire.host.length + 2 + rest.length := by
    rw [layout]
    simp only [List.length_append, be16_length]
    omega
  have size : wire.bytes.length = wire.host.length + 2 := by
    rw [bytes, List.length_append, be16_length]
  unfold SOCKS5Address.parse
  rw [if_neg (by omega), size]
  cases wire with
  | ipv4 octets number =>
    have four := octets.property
    have type : AddressType.ofByte (((ipv4 octets number).bytes ++ rest).getD 0 0) =
        some .ipv4 := rfl
    have text (index : Nat) (small : index < 4) :
        ((ipv4 octets number).bytes ++ rest).getD (index + 1) 0 = octets.val.getD index 0 := by
      rw [layout]
      exact List.getD_append octets.val _ _ _ (by omega)
    simp only [host, List.length_cons, four] at length port
    simp only [type]
    rw [if_pos (by omega), port, text 0 (by omega), text 1 (by omega), text 2 (by omega),
      text 3 (by omega)]
    simp only [host, List.length_cons, four]
    rfl
  | domainName name number =>
    have type : AddressType.ofByte (((domainName name number).bytes ++ rest).getD 0 0) =
        some .domainName := rfl
    have count : ((domainName name number).bytes ++ rest).getD 1 0 =
        UInt8.ofNat name.val.length := rfl
    have text : (((domainName name number).bytes ++ rest).drop 2).take name.val.length =
        name.val := by
      rw [layout]
      exact List.take_left
    have named := name.property.1
    simp only [host, List.length_cons] at length port
    simp only [type, count, nameLength, text]
    rw [if_neg (by omega), if_pos (by omega), port]
    simp only [host, List.length_cons, Option.some.injEq, Prod.mk.injEq]
    exact ⟨rfl, by omega⟩
  | ipv6 octets number =>
    have sixteen := octets.property
    have type : AddressType.ofByte (((ipv6 octets number).bytes ++ rest).getD 0 0) =
        some .ipv6 := rfl
    have text : hexGroups (((ipv6 octets number).bytes ++ rest).drop 1) =
        hexGroups octets.val := by
      rw [layout]
      exact hexGroups_append _ (Nat.le_of_eq sixteen.symm)
    simp only [host, List.length_cons, sixteen] at length port
    simp only [type, text]
    rw [if_pos (by omega), port]
    simp only [host, List.length_cons, sixteen]
    rfl

/-- Bytes that start with the type and the address of a wire address, and its port behind them. -/
theorem append_of_front {start : Nat} (inside : start + 2 ≤ data.length)
    (front : data.take start = wire.host)
    (number : wire.port = ofBe16 (data.getD start 0) (data.getD (start + 1) 0)) :
    data = wire.bytes ++ data.drop (start + 2) ∧ wire.bytes.length = start + 2 := by
  have size : wire.host.length = start := by
    rw [← front, List.length_take]
    omega
  constructor
  · rw [bytes, ← front, number, List.append_assoc, ← drop_be16 inside, List.take_append_drop]
  · rw [bytes, List.length_append, size, be16_length]

/-- **A parsed address is one on the wire**: the bytes parsed are its bytes. -/
theorem exists_of_parse {address : SOCKS5Address} {len : Nat}
    (parsed : SOCKS5Address.parse data = some (address, len)) :
    ∃ wire rest, data = bytes wire ++ rest ∧ address = wire.parsed ∧ len = wire.bytes.length := by
  unfold SOCKS5Address.parse at parsed
  cases data with
  | nil => cases parsed
  | cons first data =>
    rw [if_neg (by simp)] at parsed
    cases kind : AddressType.ofByte ((first :: data).getD 0 0) with
    | none =>
      rw [kind] at parsed
      cases parsed
    | some type =>
      have opened : first = type.byte := AddressType.eq_byte kind
      rw [kind] at parsed
      cases type with
      | ipv4 =>
        dsimp only at parsed
        split at parsed
        · rename_i long
          obtain ⟨rfl, rfl⟩ := Prod.mk.inj (Option.some.inj parsed)
          rw [List.length_cons] at long
          have four : (data.take 4).length = 4 := by
            rw [List.length_take]
            omega
          have front : (first :: data).take 5 =
              host (.ipv4 ⟨data.take 4, four⟩ (ofBe16 (data.getD 4 0) (data.getD 5 0))) := by
            rw [opened]
            rfl
          obtain ⟨layout, size⟩ := append_of_front (by rw [List.length_cons]; omega) front rfl
          refine ⟨_, _, layout, ?_, size.symm⟩
          have same (index : Nat) (small : index < 4) :
              (data.take 4).getD index 0 = data.getD index 0 := by
            rw [List.getD_eq_getElem?_getD, List.getElem?_take_of_lt small,
              List.getD_eq_getElem?_getD]
          simp only [WireAddress.parsed, same 0 (by omega), same 1 (by omega), same 2 (by omega),
            same 3 (by omega), List.getD_cons_succ]
        · cases parsed
      | domainName =>
        dsimp only at parsed
        split at parsed
        · cases parsed
        rename_i positive
        split at parsed
        · rename_i long
          obtain ⟨rfl, rfl⟩ := Prod.mk.inj (Option.some.inj parsed)
          cases data with
          | nil => exact absurd rfl positive
          | cons count data =>
            simp only [List.getD_cons_succ, List.getD_cons_zero, List.length_cons] at positive long
            have size : (data.take count.toNat).length = count.toNat := by
              rw [List.length_take]
              omega
            have fits : 1 ≤ (data.take count.toNat).length ∧
                (data.take count.toNat).length ≤ 255 := by
              have small := count.toNat_lt
              omega
            have front : (first :: count :: data).take (count.toNat + 2) =
                host (.domainName ⟨data.take count.toNat, fits⟩
                  (ofBe16 (data.getD count.toNat 0) (data.getD (count.toNat + 1) 0))) := by
              rw [opened, host, size, UInt8.ofNat_toNat]
              rfl
            have inside : count.toNat + 2 + 2 ≤ (first :: count :: data).length := by
              simp only [List.length_cons]
              omega
            obtain ⟨layout, length⟩ := append_of_front inside front rfl
            refine ⟨_, _, layout, rfl, ?_⟩
            rw [length]
            simp only [List.getD_cons_succ, List.getD_cons_zero]
            omega
        · cases parsed
      | ipv6 =>
        dsimp only at parsed
        split at parsed
        · rename_i long
          obtain ⟨rfl, rfl⟩ := Prod.mk.inj (Option.some.inj parsed)
          rw [List.length_cons] at long
          have sixteen : (data.take 16).length = 16 := by
            rw [List.length_take]
            omega
          have front : (first :: data).take 17 =
              host (.ipv6 ⟨data.take 16, sixteen⟩ (ofBe16 (data.getD 16 0) (data.getD 17 0))) := by
            rw [opened]
            rfl
          obtain ⟨layout, size⟩ := append_of_front (by rw [List.length_cons]; omega) front rfl
          refine ⟨_, _, layout, ?_, size.symm⟩
          have same : hexGroups data = hexGroups (data.take 16) := by
            rw [← hexGroups_append (data.drop 16) (Nat.le_of_eq sixteen.symm),
              List.take_append_drop]
          simp only [WireAddress.parsed, List.drop_succ_cons, List.drop_zero, same,
            List.getD_cons_succ]
        · cases parsed

/-- The type, the address and the port are all there is in an address on the wire. -/
theorem eq_of_host (same : wire.host = other.host) (number : wire.port = other.port) :
    wire = other := by
  cases wire <;> cases other <;> simp only [host, port, List.cons.injEq] at same number
  case ipv4.ipv4 => rw [Subtype.ext same.2, number]
  case domainName.domainName => rw [Subtype.ext same.2.2, number]
  case ipv6.ipv6 => rw [Subtype.ext same.2, number]
  all_goals exact absurd same.1 (by decide)

/-- **No address on the wire begins another**: bytes that start with two are the same address. -/
theorem bytes_append_inj (same : wire.bytes ++ rest = other.bytes ++ more) :
    wire = other ∧ rest = more := by
  have parses := wire.parse_bytes rest
  rw [same, other.parse_bytes more] at parses
  obtain ⟨-, length⟩ := Prod.mk.inj (Option.some.inj parses)
  obtain ⟨front, back⟩ := List.append_inj same length.symm
  have sizes : wire.host.length = other.host.length := by
    simp only [bytes, List.length_append, be16_length] at length
    omega
  obtain ⟨hosts, words⟩ := List.append_inj front sizes
  exact ⟨eq_of_host hosts (be16_injective words), back⟩

end WireAddress

namespace SOCKS5Address

variable {data : Bytes} {address : SOCKS5Address} {len : Nat}

/-- A parsed address is nonempty and inside the string. -/
theorem parse_bounds (parsed : parse data = some (address, len)) :
    0 < len ∧ len ≤ data.length := by
  obtain ⟨wire, rest, rfl, -, rfl⟩ := WireAddress.exists_of_parse parsed
  rw [List.length_append]
  exact ⟨wire.bytes_pos, Nat.le_add_right _ _⟩

/-- A parsed address stays parsed when bytes follow. -/
theorem parse_append (more : Bytes) (parsed : parse data = some (address, len)) :
    parse (data ++ more) = some (address, len) := by
  obtain ⟨wire, rest, rfl, rfl, rfl⟩ := WireAddress.exists_of_parse parsed
  rw [List.append_assoc]
  exact wire.parse_bytes _

end SOCKS5Address

/-- `TrojanReq::Command`. -/
inductive Command where
  /-- Tunnel a TCP connection. -/
  | connect
  /-- Relay UDP packets. -/
  | udpAssociate
deriving DecidableEq, Repr

/-- The command a byte stands for. -/
def Command.ofByte (value : UInt8) : Option Command :=
  if value = 1 then some .connect else if value = 3 then some .udpAssociate else none

/-- The byte of a command. -/
def Command.byte : Command → UInt8
  | .connect => 1
  | .udpAssociate => 3

/-- Only its own byte stands for a command. -/
theorem Command.ofByte_eq_some {value : UInt8} {command : Command} :
    Command.ofByte value = some command ↔ value = command.byte := by
  constructor
  · intro read
    unfold Command.ofByte at read
    split_ifs at read
    all_goals
      obtain rfl := Option.some.inj read
      assumption
  · rintro rfl
    cases command <;> rfl

/-- `TrojanReq`; the command is absent before the first parse. -/
structure TrojanReq where
  /-- Requested service. -/
  command : Option Command := none
  /-- Password text, the hexadecimal digest the client sends. -/
  password : Bytes := []
  /-- Requested target. -/
  address : SOCKS5Address := {}
  /-- Bytes behind the request. -/
  payload : Bytes := []
deriving DecidableEq, Repr

namespace TrojanReq

/-- `TrojanReq::parse`: the returned `int` and the request. The password and the payload are
assigned before the rest is checked. -/
def parse (request : TrojanReq) (data : Bytes) : Int × TrojanReq :=
  match find crlf data with
  | none => (-1, request)
  | some first =>
    let request := { request with password := data.take first, payload := data.drop (first + 2) }
    if request.payload.length = 0 then (-1, request)
    else match Command.ofByte (request.payload.getD 0 0) with
    | none => (-1, request)
    | some command =>
      let request := { request with command := some command }
      match SOCKS5Address.parse (request.payload.drop 1) with
      | none => (-1, request)
      | some (address, addressLen) =>
        let request := { request with address := address }
        if request.payload.length < addressLen + 3 ∨
            (request.payload.drop (addressLen + 1)).take 2 ≠ crlf then (-1, request)
        else (asInt32 (UInt32.ofNat data.length),
          { request with payload := request.payload.drop (addressLen + 3) })

/-- A fresh request takes its payload from the message. -/
theorem parse_payload_length (data : Bytes) :
    (parse {} data).2.payload.length ≤ data.length := by
  unfold parse
  split
  · exact Nat.zero_le _
  · dsimp only
    split_ifs
    · simp
    · split
      · simp
      · split
        · simp
        · split_ifs <;> simp [List.length_drop]

/-- `TrojanReq::generate`. -/
def generate (password domainName : Bytes) (port : UInt16) (tcp : Bool) : Bytes :=
  password ++ crlf ++ [if tcp then (1 : UInt8) else 3] ++ [(3 : UInt8)] ++
    [UInt8.ofNat domainName.length] ++ domainName ++ [(port >>> 8).toUInt8, port.toUInt8] ++ crlf

end TrojanReq

/-- `UDPPacket`. -/
structure UDPPacket where
  /-- Target of the packet. -/
  address : SOCKS5Address
  /-- Declared payload length. -/
  length : UInt16
  /-- The datagram. -/
  payload : Bytes
deriving DecidableEq, Repr

namespace UDPPacket

/-- `UDPPacket::parse`, with the length of the parsed packet. -/
def parse (data : Bytes) : Option (UDPPacket × Nat) :=
  if data.isEmpty then none
  else match SOCKS5Address.parse data with
  | none => none
  | some (address, addressLen) =>
    if data.length < addressLen + 2 then none
    else
      let length := ofBe16 (data.getD addressLen 0) (data.getD (addressLen + 1) 0)
      if data.length < addressLen + 4 + length.toNat ∨
          (data.drop (addressLen + 2)).take 2 ≠ crlf then none
      else some (⟨address, length, (data.drop (addressLen + 4)).take length.toNat⟩,
        addressLen + 4 + length.toNat)

/-- The length and the payload behind the address of a generated packet. -/
def tail (payload : Bytes) : Bytes :=
  [UInt8.ofNat (payload.length >>> 8), UInt8.ofNat payload.length] ++ crlf ++ payload

/-- `UDPPacket::generate(endpoint, payload)`. -/
def generate (endpoint : Endpoint) (payload : Bytes) : Bytes :=
  SOCKS5Address.generate endpoint ++ tail payload

/-- `UDPPacket::generate(domainname, port, payload)`. -/
def generateDomain (domainName : Bytes) (port : UInt16) (payload : Bytes) : Bytes :=
  [(3 : UInt8)] ++ [UInt8.ofNat domainName.length] ++ domainName ++
    [(port >>> 8).toUInt8, port.toUInt8] ++ tail payload

variable {data : Bytes} {packet : UDPPacket} {len : Nat}

/-- Behind a whole address, the length and the payload of a generated packet parse back. -/
theorem parse_tail {front payload : Bytes} {address : SOCKS5Address}
    (whole : SOCKS5Address.parse front = some (address, front.length))
    (small : payload.length < 2 ^ 16) :
    parse (front ++ tail payload) = some (⟨address, UInt16.ofNat payload.length, payload⟩,
      (front ++ tail payload).length) := by
  have high : (front ++ tail payload).getD front.length 0 =
      UInt8.ofNat (payload.length >>> 8) := by simp [tail]
  have low : (front ++ tail payload).getD (front.length + 1) 0 = UInt8.ofNat payload.length := by
    simp [tail]
  have length : (front ++ tail payload).length = front.length + 4 + payload.length := by
    simp [tail, crlf]
    omega
  have word : ofBe16 (UInt8.ofNat (payload.length >>> 8)) (UInt8.ofNat payload.length) =
      UInt16.ofNat payload.length := by
    apply UInt16.toNat_inj.mp
    rw [ofBe16_toNat, UInt8.toNat_ofNat', UInt8.toNat_ofNat', UInt16.toNat_ofNat',
      Nat.shiftRight_eq_div_pow]
    omega
  have count : (UInt16.ofNat payload.length).toNat = payload.length := by
    rw [UInt16.toNat_ofNat']
    exact Nat.mod_eq_of_lt small
  have delimited : ((front ++ tail payload).drop (front.length + 2)).take 2 = crlf := by
    simp [tail, crlf]
  have left : (front ++ tail payload).drop (front.length + 4) = payload := by
    simp [tail, crlf]
  have nonempty : ¬ (front ++ tail payload).isEmpty = true := by simp [tail]
  unfold parse
  rw [if_neg nonempty, SOCKS5Address.parse_append (tail payload) whole]
  simp only [high, low, left, delimited, word, count]
  rw [if_neg (by omega), if_neg (by simp [length]), List.take_length, length]

/-- An accepted packet takes at least one byte, is inside the string, and stays accepted when
bytes follow. -/
theorem parse_spec (parsed : parse data = some (packet, len)) :
    0 < len ∧ len ≤ data.length ∧ ∀ rest, parse (data ++ rest) = some (packet, len) := by
  unfold parse at parsed ⊢
  by_cases empty : data.isEmpty = true
  · rw [if_pos empty] at parsed
    cases parsed
  rw [if_neg empty] at parsed
  cases found : SOCKS5Address.parse data with
  | none =>
    rw [found] at parsed
    cases parsed
  | some read =>
    obtain ⟨address, addressLen⟩ := read
    rw [found] at parsed
    dsimp only at parsed
    split at parsed
    · cases parsed
    rename_i room
    split at parsed
    · cases parsed
    rename_i complete
    obtain ⟨rfl, rfl⟩ := Prod.mk.inj (Option.some.inj parsed)
    obtain ⟨covered, delimited⟩ := not_or.mp complete
    have bounds := SOCKS5Address.parse_bounds found
    refine ⟨by omega, by omega, fun rest => ?_⟩
    have nonempty : ¬ (data ++ rest).isEmpty = true := by
      intro none
      rw [List.isEmpty_iff, List.append_eq_nil_iff] at none
      exact empty (List.isEmpty_iff.mpr none.1)
    rw [if_neg nonempty, SOCKS5Address.parse_append rest found]
    dsimp only
    rw [List.length_append, List.getD_append _ _ _ _ (by omega),
      List.getD_append _ _ _ _ (by omega), if_neg (by omega), if_neg]
    · rw [List.drop_append_of_le_length (by omega),
        List.take_append_of_le_length (by rw [List.length_drop]; omega)]
    · rintro (short | other)
      · omega
      · rw [List.drop_append_of_le_length (by omega),
          List.take_append_of_le_length (by rw [List.length_drop]; omega)] at other
        exact delimited other

end UDPPacket

end Overplus
