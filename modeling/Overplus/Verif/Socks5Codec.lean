import Overplus.Protocol.Socks5

/-!
# Encodings of the SOCKS5 messages

The header of a relayed datagram is written exactly as it is read: what `UdpRequest::parse`
accepts is written back byte by byte, and every request that fits the header is read back. The
request of the control connection is decoded from a buffer with stale bytes behind it. It is
accepted exactly when the bytes of the read alone are a request, and only these bytes decide what
is decoded.
-/
namespace Overplus.Verif.Socks5Codec

section Datagram

open UdpRequest

variable {data front address payload : Bytes} {request : UdpRequest}

/-- A request that fits the header: nothing reserved is used, it is no fragment, and the address
has a size its type allows. -/
def Fits (request : UdpRequest) : Prop :=
  request.rsv = (0, 0) ∧ request.frag = 0 ∧
    (request.addrType = 0x01 ∧ request.dstAddr.length = 4 ∨
      request.addrType = 0x03 ∧ request.dstAddr.length ≤ 255 ∨
      request.addrType = 0x04 ∧ request.dstAddr.length = 16)

/-- Address, port and payload, read from behind the bytes in front of them. -/
theorem parseAddress_layout (kind : UInt8) (more : Bytes) (port : UInt16)
    (opened : front = 0 :: 0 :: 0 :: kind :: more)
    (layout : data = front ++ (address ++ (be16 port ++ payload))) :
    parseAddress data front.length address.length = ⟨(0, 0), 0, kind, address, port, payload⟩ := by
  have text : (data.drop front.length).take address.length = address := by
    rw [layout, List.drop_left, List.take_left]
  have word : ofBe16 (data.getD (front.length + address.length) 0)
      (data.getD (front.length + address.length + 1) 0) = port := by
    have split : data = (front ++ address) ++ (be16 port ++ payload) := by
      rw [layout, List.append_assoc]
    exact ofBe16_part _ _ split List.length_append.symm
  have behind : data.drop (front.length + address.length + 2) = payload := by
    have size : (front ++ address ++ be16 port).length = front.length + address.length + 2 := by
      rw [List.length_append, List.length_append, be16_length]
    rw [layout, ← List.append_assoc, ← List.append_assoc]
    exact List.drop_left' size
  unfold parseAddress
  rw [text, word, behind, layout, opened]
  rfl

/-- A request that fits the header is read back. -/
theorem parse_serialize (fits : Fits request) : parse (serialize request) = some request := by
  obtain ⟨rsv, frag, kind, address, port, payload⟩ := request
  obtain ⟨reserved, fragment, sizes⟩ := fits
  dsimp only at reserved fragment sizes
  subst reserved fragment
  rcases sizes with ⟨rfl, size⟩ | ⟨rfl, size⟩ | ⟨rfl, size⟩
  · have layout : serialize ⟨(0, 0), 0, 0x01, address, port, payload⟩ =
        [0, 0, 0, 1] ++ (address ++ (be16 port ++ payload)) := by simp [serialize, be16]
    have read := parseAddress_layout 1 [] port rfl layout
    rw [size] at read
    rw [parse, if_neg (by simp [layout]), if_neg (by simp [layout]), if_pos (by simp [layout]),
      if_neg (by simp [layout, size]; omega)]
    exact congrArg some read
  · have layout : serialize ⟨(0, 0), 0, 0x03, address, port, payload⟩ =
        [0, 0, 0, 3, UInt8.ofNat address.length] ++ (address ++ (be16 port ++ payload)) := by
      simp [serialize, be16]
    have read := parseAddress_layout 3 [UInt8.ofNat address.length] port rfl layout
    have count : ((serialize ⟨(0, 0), 0, 0x03, address, port, payload⟩).getD 4 0).toNat =
        address.length := by
      rw [layout]
      exact (UInt8.toNat_ofNat').trans (Nat.mod_eq_of_lt (by omega))
    have length : (serialize ⟨(0, 0), 0, 0x03, address, port, payload⟩).length =
        7 + address.length + payload.length := by
      rw [layout]
      simp only [List.length_append, List.length_cons, List.length_nil, be16_length]
      omega
    rw [parse, if_neg (by omega), if_neg (by simp [layout]), if_neg (by simp [layout]),
      if_pos (by simp [layout]), if_neg (by omega)]
    simp only [count]
    rw [if_neg (by omega)]
    exact congrArg some read
  · have layout : serialize ⟨(0, 0), 0, 0x04, address, port, payload⟩ =
        [0, 0, 0, 4] ++ (address ++ (be16 port ++ payload)) := by simp [serialize, be16]
    have read := parseAddress_layout 4 [] port rfl layout
    rw [size] at read
    rw [parse, if_neg (by simp [layout]), if_neg (by simp [layout]), if_neg (by simp [layout]),
      if_neg (by simp [layout]), if_pos (by simp [layout]), if_neg (by simp [layout, size]; omega)]
    exact congrArg some read

/-- Reading an address behind some bytes takes the bytes apart. -/
theorem parseAddress_parts {rest : Bytes} {size : Nat} (kind : UInt8) (more : Bytes)
    (inside : size + 2 ≤ rest.length) :
    ∃ address port payload, rest = address ++ (be16 port ++ payload) ∧ address.length = size ∧
      parseAddress (0 :: 0 :: 0 :: kind :: (more ++ rest)) (more.length + 4) size =
        ⟨(0, 0), 0, kind, address, port, payload⟩ := by
  have parts : rest = rest.take size ++ (be16 (ofBe16 (rest.getD size 0)
      (rest.getD (size + 1) 0)) ++ rest.drop (size + 2)) := by
    rw [← drop_be16 inside, List.take_append_drop]
  have length : (rest.take size).length = size := by
    rw [List.length_take]
    omega
  have read := parseAddress_layout kind more _ rfl
    (congrArg ((0 :: 0 :: 0 :: kind :: more) ++ ·) parts)
  rw [length] at read
  exact ⟨_, _, _, parts, length, read⟩

/-- The four bytes that open a long enough message. -/
theorem exists_header (long : 4 ≤ data.length) :
    ∃ first second third kind rest, data = first :: second :: third :: kind :: rest := by
  rcases data with _ | ⟨first, _ | ⟨second, _ | ⟨third, _ | ⟨kind, rest⟩⟩⟩⟩
  · simp at long
  · simp at long
  · simp at long
  · simp at long
  · exact ⟨first, second, third, kind, rest, rfl⟩

/-- An accepted datagram is written back. -/
theorem serialize_parse (parsed : parse data = some request) : serialize request = data := by
  unfold parse at parsed
  split at parsed
  · cases parsed
  rename_i long
  have header : 4 ≤ data.length := by omega
  obtain ⟨first, second, third, kind, rest, rfl⟩ := exists_header header
  simp only [List.getD_cons_zero, List.getD_cons_succ, List.length_cons] at parsed
  split at parsed
  · cases parsed
  rename_i zeros
  simp only [not_or, not_not] at zeros
  obtain ⟨rfl, rfl, rfl⟩ := zeros
  split at parsed
  · rename_i four
    split at parsed
    · cases parsed
    rename_i room
    obtain ⟨address, port, payload, rfl, size, read⟩ :=
      parseAddress_parts kind [] (by omega : 4 + 2 ≤ rest.length)
    obtain rfl := (Option.some.inj parsed).symm.trans read
    rw [four]
    simp [serialize, be16]
  split at parsed
  · rename_i name
    split at parsed
    · cases parsed
    cases rest with
    | nil => simp at *
    | cons count rest =>
      split at parsed
      · cases parsed
      rename_i room
      simp only [List.getD_cons_zero, List.length_cons] at parsed room
      obtain ⟨address, port, payload, rfl, size, read⟩ :=
        parseAddress_parts kind [count] (by omega : count.toNat + 2 ≤ rest.length)
      obtain rfl := (Option.some.inj parsed).symm.trans read
      rw [name]
      simp [serialize, be16, size]
  split at parsed
  · rename_i sixteen
    split at parsed
    · cases parsed
    rename_i room
    obtain ⟨address, port, payload, rfl, size, read⟩ :=
      parseAddress_parts kind [] (by omega : 16 + 2 ≤ rest.length)
    obtain rfl := (Option.some.inj parsed).symm.trans read
    rw [sixteen]
    simp [serialize, be16]
  · cases parsed

/-- **The header of a relayed datagram is a bijection on what it can carry**: an accepted
datagram is written back byte by byte, and every request that fits the header is accepted and
read back. -/
theorem datagram_codec :
    (∀ data request, UdpRequest.parse data = some request → request.serialize = data) ∧
      ∀ request, Fits request → UdpRequest.parse request.serialize = some request :=
  ⟨fun _ _ => serialize_parse, fun _ => parse_serialize⟩

/-- Datagrams for the name `a` with two bytes and for an empty name without a payload, both ways. -/
theorem datagram_codec_names :
    UdpRequest.serialize ⟨(0, 0), 0, 3, [97], 53, [1, 2]⟩ = [0, 0, 0, 3, 1, 97, 0, 53, 1, 2] ∧
      UdpRequest.parse (UdpRequest.serialize ⟨(0, 0), 0, 3, [97], 53, [1, 2]⟩) =
        some ⟨(0, 0), 0, 3, [97], 53, [1, 2]⟩ ∧
      UdpRequest.serialize ⟨(0, 0), 0, 3, [], 53, []⟩ = [0, 0, 0, 3, 0, 0, 53] ∧
      UdpRequest.parse (UdpRequest.serialize ⟨(0, 0), 0, 3, [], 53, []⟩) =
        some ⟨(0, 0), 0, 3, [], 53, []⟩ := by
  refine ⟨?_, ?_, ?_, ?_⟩
  · exact datagram_codec.1 [0, 0, 0, 3, 1, 97, 0, 53, 1, 2] _ (by decide)
  · exact datagram_codec.2 _ ⟨rfl, rfl, .inr (.inl ⟨rfl, by decide⟩)⟩
  · exact datagram_codec.1 [0, 0, 0, 3, 0, 0, 53] _ (by decide)
  · exact datagram_codec.2 _ ⟨rfl, rfl, .inr (.inl ⟨rfl, by decide⟩)⟩

end Datagram

section Control

/-- The address of a request. -/
inductive SocksAddress where
  /-- An IPv4 address. -/
  | v4 (octets : FixedBytes 4)
  /-- A domain name. -/
  | domain (name : Bytes) (short : name.length ≤ 255)
  /-- An IPv6 address. -/
  | v6 (octets : FixedBytes 16)

/-- The bytes of an address. -/
def SocksAddress.bytes : SocksAddress → Bytes
  | .v4 octets => [1] ++ octets.val
  | .domain name _ => [3, UInt8.ofNat name.length] ++ name
  | .v6 octets => [4] ++ octets.val

/-- A request of the control connection. -/
structure SocksRequest where
  /-- Command. -/
  cmd : UInt8
  /-- Address asked for. -/
  address : SocksAddress
  /-- Port asked for. -/
  port : UInt16

/-- The bytes of a request. -/
def SocksRequest.bytes (request : SocksRequest) : Bytes :=
  [5, request.cmd, 0] ++ request.address.bytes ++ be16 request.port

variable {asked : SocksRequest} {request : Request} {host message buf : Bytes} {length : Nat}

/-- No request is longer than its longest domain name allows. -/
theorem SocksRequest.bytes_length_le (request : SocksRequest) : request.bytes.length ≤ 262 := by
  obtain ⟨cmd, address, port⟩ := request
  cases address with
  | v4 octets => simp [SocksRequest.bytes, SocksAddress.bytes, octets.property]
  | domain name short =>
    simp only [SocksRequest.bytes, SocksAddress.bytes, List.length_append, List.length_cons,
      List.length_nil, be16_length]
    omega
  | v6 octets => simp [SocksRequest.bytes, SocksAddress.bytes, octets.property]

/-- Text of an address the decoder supports: dotted, or the name itself. -/
def hostText : SocksAddress → Option Bytes
  | .v4 octets => some (dotted (octets.val.getD 0 0) (octets.val.getD 1 0) (octets.val.getD 2 0)
      (octets.val.getD 3 0))
  | .domain name _ => some name
  | .v6 _ => none

/-- The bytes are a request for a host the decoder supports, and nothing more. -/
def Asks (message : Bytes) (asked : SocksRequest) (host : Bytes) : Prop :=
  message = asked.bytes ∧ hostText asked.address = some host

/-- A call of the decoder returns true and leaves this command, host and port. -/
def Yields (result : Bool × Request) (cmd : UInt8) (host : Bytes) (port : UInt16) : Prop :=
  result.1 = true ∧ result.2.cmd = cmd ∧ result.2.remoteHost = host ∧ result.2.remotePort = port

/-- Behind the version, a command, the reserved byte and a known type comes the address. -/
theorem unsteam_opened {cmd : UInt8} {rest : Bytes} {kind : AddrType}
    (opened : message = 5 :: cmd :: 0 :: kind.toByte :: rest) :
    request.unsteam message length =
      { request with version := 5, cmd, reserved := 0, addrType := kind }.unsteamAddress
        message length := by
  subst opened
  cases kind <;> rfl

/-- What is accepted begins with the version, a command, the reserved byte and a known type. -/
theorem exists_opened (long : 4 ≤ message.length)
    (accepted : (request.unsteam message length).1 = true) :
    ∃ cmd kind rest, message = 5 :: cmd :: 0 :: AddrType.toByte kind :: rest := by
  obtain ⟨version, cmd, reserved, code, rest, rfl⟩ := exists_header long
  unfold Request.unsteam at accepted
  simp only [List.getD_cons_zero, List.getD_cons_succ] at accepted
  split at accepted
  · cases accepted
  rename_i five
  split at accepted
  · cases accepted
  rename_i zero
  cases known : AddrType.ofByte code with
  | none => simp [known] at accepted
  | some kind =>
    refine ⟨cmd, kind, rest, ?_⟩
    rw [not_not.mp five, not_not.mp zero, AddrType.ofByte_eq known]

/-- A request for an IPv4 address is decoded. -/
theorem unsteam_v4 (request : Request) (cmd : UInt8) (octets : FixedBytes 4) (port : UInt16)
    (layout : message = (SocksRequest.mk cmd (.v4 octets) port).bytes) :
    Yields (request.unsteam message message.length) cmd
      (dotted (octets.val.getD 0 0) (octets.val.getD 1 0) (octets.val.getD 2 0)
        (octets.val.getD 3 0)) port := by
  subst layout
  obtain ⟨octets, four⟩ := octets
  match octets, four with
  | [first, second, third, fourth], _ => exact ⟨rfl, rfl, rfl, ofBe16_be16 port⟩

/-- A request for a name is decoded. -/
theorem unsteam_domain (request : Request) (cmd : UInt8) (name : Bytes) (short : name.length ≤ 255)
    (port : UInt16) (layout : message = (SocksRequest.mk cmd (.domain name short) port).bytes) :
    Yields (request.unsteam message message.length) cmd name port := by
  let front : Bytes := [5, cmd, 0, 3, UInt8.ofNat name.length]
  have parts : message = front ++ name ++ (be16 port ++ []) := by
    rw [layout, List.append_nil]
    rfl
  have size : message.length = 5 + name.length + 2 := by
    rw [parts, List.length_append, List.length_append, List.length_append, be16_length]
    rfl
  have count : (message.getD 4 0).toNat = name.length := by
    rw [layout]
    exact UInt8.toNat_ofNat'.trans (Nat.mod_eq_of_lt (by omega))
  have text : (message.drop 5).take name.length = name := by
    rw [parts, List.append_assoc]
    exact List.take_left
  have word : ofBe16 (message.getD (5 + name.length) 0) (message.getD (5 + name.length + 1) 0) =
      port := by
    apply ofBe16_part (front ++ name) port parts
    rw [List.length_append]
    rfl
  have opened : message = 5 :: cmd :: 0 :: AddrType.domainName.toByte ::
      (UInt8.ofNat name.length :: name ++ be16 port) := layout
  rw [unsteam_opened opened, Request.unsteamAddress]
  simp only [count, text, word]
  rw [if_neg (not_not.mpr size)]
  exact ⟨rfl, rfl, rfl, rfl⟩

/-- A request is decoded. -/
theorem unsteam_bytes (request : Request) (asks : Asks message asked host) :
    Yields (request.unsteam message message.length) asked.cmd host asked.port := by
  obtain ⟨layout, text⟩ := asks
  obtain ⟨cmd, address, port⟩ := asked
  cases address with
  | v4 octets =>
    obtain rfl := Option.some.inj text
    exact unsteam_v4 request cmd octets port layout
  | domain name short =>
    obtain rfl := Option.some.inj text
    exact unsteam_domain request cmd name short port layout
  | v6 octets => cases text

/-- Bytes that end with a port are what is in front of it and the port. -/
theorem append_port {rest : Bytes} {size : Nat} (exact : rest.length = size + 2) :
    ∃ port, rest = rest.take size ++ be16 port := by
  have word := drop_be16 (Nat.le_of_eq exact.symm)
  rw [List.drop_eq_nil_of_le (Nat.le_of_eq exact), List.append_nil] at word
  exact ⟨_, by rw [← word, List.take_append_drop]⟩

/-- Only requests are decoded. -/
theorem asks_of_unsteam (accepted : (request.unsteam message message.length).1 = true) :
    ∃ asked host, Asks message asked host := by
  have long : 7 ≤ message.length := by
    by_contra short
    rw [Request.unsteam_short (Nat.lt_of_not_le short)] at accepted
    cases accepted
  obtain ⟨cmd, kind, rest, opened⟩ := exists_opened (by omega) accepted
  have size : message.length = rest.length + 4 := by rw [opened]; rfl
  rw [unsteam_opened opened, Request.unsteamAddress] at accepted
  cases kind with
  | v4 =>
    dsimp only at accepted
    split at accepted
    · cases accepted
    rename_i exact
    have four : (rest.take 4).length = 4 := by
      rw [List.length_take]
      omega
    obtain ⟨port, parts⟩ := append_port (by omega : rest.length = 4 + 2)
    refine ⟨⟨cmd, .v4 ⟨rest.take 4, four⟩, port⟩, _, ?_, rfl⟩
    exact opened.trans (congrArg (5 :: cmd :: 0 :: 1 :: ·) parts)
  | domainName =>
    match rest with
    | [] => simp at size; omega
    | count :: name =>
      have known : message.getD 4 0 = count := by rw [opened]; rfl
      simp only [known] at accepted
      split at accepted
      · cases accepted
      rename_i exact
      rw [List.length_cons] at size
      have bounded := count.toNat_lt
      have length : (name.take count.toNat).length = count.toNat := by
        rw [List.length_take]
        omega
      obtain ⟨port, parts⟩ := append_port (by omega : name.length = count.toNat + 2)
      refine ⟨⟨cmd, .domain (name.take count.toNat) (by omega), port⟩, _, ?_, rfl⟩
      change message = 5 :: cmd :: 0 :: 3 :: UInt8.ofNat (name.take count.toNat).length ::
        (name.take count.toNat ++ be16 port)
      rw [length, UInt8.ofNat_toNat]
      exact opened.trans (congrArg (5 :: cmd :: 0 :: 3 :: count :: ·) parts)
  | v6 => cases accepted

/-- Whether the decoder accepts, and what it then leaves, depends on the bytes of the read. -/
theorem unsteam_take (request : Request) (inside : length ≤ buf.length) :
    (request.unsteam buf length).1 =
        (request.unsteam (buf.take length) (buf.take length).length).1 ∧
      ((request.unsteam buf length).1 = true → request.unsteam buf length =
        request.unsteam (buf.take length) (buf.take length).length) := by
  have size : (buf.take length).length = length := by
    rw [List.length_take]
    omega
  rw [size]
  rcases Nat.lt_or_ge length 7 with short | long
  · rw [Request.unsteam_short short, Request.unsteam_short short]
    exact ⟨rfl, fun accepted => by cases accepted⟩
  · have stale := @Request.unsteam_append request (buf.take length) (buf.drop length) (by omega)
    rw [List.take_append_drop, size] at stale
    exact ⟨congrArg Prod.fst stale, fun _ => stale⟩

/-- **The bytes of the read alone decide.** A buffer is accepted exactly when the bytes of the
read are a request for an IPv4 address or a name and nothing more, and then its command, host and
port are left; another buffer with the same bytes of the read is accepted alike, with the same
command, host and port. -/
theorem control_request_grammar (request : Request) (buf : Bytes) (length : Nat)
    (full : buf.length = 64 * 1024) (inside : length ≤ 64 * 1024) :
    ((request.unsteam buf length).1 = true ↔ ∃ asked host, Asks (buf.take length) asked host) ∧
      (∀ asked host, Asks (buf.take length) asked host →
        Yields (request.unsteam buf length) asked.cmd host asked.port) ∧
      ∀ (before : Request) (other : Bytes), other.length = 64 * 1024 →
        other.take length = buf.take length →
          (before.unsteam other length).1 = (request.unsteam buf length).1 ∧
            ((request.unsteam buf length).1 = true →
              Yields (before.unsteam other length) (request.unsteam buf length).2.cmd
                (request.unsteam buf length).2.remoteHost
                (request.unsteam buf length).2.remotePort) := by
  have grammar {before : Request} {other : Bytes} (long : other.length = 64 * 1024) :
      (before.unsteam other length).1 = true ↔
        ∃ asked host, Asks (other.take length) asked host := by
    rw [(unsteam_take before (by omega)).1]
    constructor
    · exact asks_of_unsteam
    · rintro ⟨asked, host, asks⟩
      exact (unsteam_bytes before asks).1
  have yields {before : Request} {other : Bytes} (long : other.length = 64 * 1024)
      {asked : SocksRequest} {host : Bytes} (asks : Asks (other.take length) asked host) :
      Yields (before.unsteam other length) asked.cmd host asked.port := by
    rw [(unsteam_take before (by omega)).2 ((grammar long).mpr ⟨asked, host, asks⟩)]
    exact unsteam_bytes before asks
  refine ⟨grammar full, fun asked host asks => yields full asks, ?_⟩
  intro before other long agree
  constructor
  · rw [Bool.eq_iff_iff, grammar long, grammar full, agree]
  · intro accepted
    obtain ⟨asked, host, asks⟩ := (grammar full).mp accepted
    obtain ⟨-, cmd, text, port⟩ := @yields request buf full asked host asks
    rw [cmd, text, port]
    exact yields long (by rwa [agree])

/-- A request for the name `a` with stale bytes behind it. -/
theorem control_request_grammar_stale :
    Yields (({} : Request).unsteam
      ([5, 1, 0, 3, 1, 97, 0, 80] ++ List.replicate (64 * 1024 - 8) 7) 8) 1 [97] 80 := by
  have full : ([5, 1, 0, 3, 1, 97, 0, 80] ++ List.replicate (64 * 1024 - 8) (7 : UInt8)).length =
      64 * 1024 := by
    rw [List.length_append, List.length_replicate]
    rfl
  have read : ([5, 1, 0, 3, 1, 97, 0, 80] ++ List.replicate (64 * 1024 - 8) (7 : UInt8)).take 8 =
      [5, 1, 0, 3, 1, 97, 0, 80] := List.take_left' rfl
  have asks : Asks [5, 1, 0, 3, 1, 97, 0, 80] ⟨1, .domain [97] (by decide), 80⟩ [97] := ⟨rfl, rfl⟩
  exact (control_request_grammar {} _ 8 full (by decide)).2.1 ⟨1, .domain [97] (by decide), 80⟩
    [97] (by rw [read]; exact asks)

end Control

end Overplus.Verif.Socks5Codec
