import Overplus.Verif.TrojanUdp

/-!
# Encodings of the Trojan protocol

Packets of the UDP mode delimit themselves: a stream of generated packets is parsed back
packet by packet, and no proper beginning of a packet is taken for a packet. The first message
of a client is accepted exactly when it has the form of a request, which it has in one way.
-/
namespace Overplus.Verif.TrojanCodec

/-- What a generated packet is for: a domain name with a port, or a specified endpoint. -/
inductive Target where
  /-- A name that fits its length byte. -/
  | domain (name : DomainName) (port : UInt16)
  /-- An endpoint whose address is not the unspecified one. -/
  | endpoint (endpoint : Endpoint) (specified : endpoint.address.isUnspecified = false)

/-- The target on the wire. -/
def Target.wire : Target → WireAddress
  | .domain name port => .domainName name port
  | .endpoint ⟨.v4 bytes, port⟩ _ => .ipv4 bytes port
  | .endpoint ⟨.v6 bytes, port⟩ _ => .ipv6 bytes port

/-- A packet to generate. -/
structure Packet where
  /-- Where it goes. -/
  target : Target
  /-- The datagram, which fits the two length bytes. -/
  payload : { payload : Bytes // payload.length ≤ 65535 }

namespace Packet

/-- `UDPPacket::generate` of the packet. -/
def encode (packet : Packet) : Bytes :=
  match packet.target with
  | .domain name port => UDPPacket.generateDomain name.val port packet.payload.val
  | .endpoint endpoint _ => UDPPacket.generate endpoint packet.payload.val

/-- What the packet is parsed to: kind, text and port of its target, and its payload. -/
def decoded (packet : Packet) : UDPPacket where
  address := packet.target.wire.parsed
  length := UInt16.ofNat packet.payload.val.length
  payload := packet.payload.val

/-- A generated packet is its target on the wire, the payload's length and the payload. -/
theorem encode_eq (packet : Packet) :
    packet.encode = packet.target.wire.bytes ++ UDPPacket.tail packet.payload.val := by
  obtain ⟨target, payload⟩ := packet
  cases target with
  | domain name port => rfl
  | endpoint endpoint specified =>
    obtain ⟨address, port⟩ := endpoint
    cases address with
    | v4 bytes =>
      simp only [encode, UDPPacket.generate, SOCKS5Address.generate, specified]
      rfl
    | v6 bytes =>
      simp only [encode, UDPPacket.generate, SOCKS5Address.generate, specified]
      rfl

/-- A generated packet is parsed whole. -/
theorem parse_encode (packet : Packet) :
    UDPPacket.parse packet.encode = some (packet.decoded, packet.encode.length) := by
  have whole := packet.target.wire.parse_bytes []
  rw [List.append_nil] at whole
  rw [encode_eq]
  exact UDPPacket.parse_tail whole (Nat.lt_succ_of_le packet.payload.property)

end Packet

/-- **Packets are a self-delimiting stream format**: parsing the concatenation of generated
packets again and again, each time behind the packet before, gives exactly these packets and
leaves no byte; and nothing is parsed from a proper beginning of a generated packet. -/
theorem packets_delimited (packets : List Packet) :
    Decoded UDPPacket.parse (packets.flatMap Packet.encode) (packets.map Packet.decoded) [] ∧
      decodeStream UDPPacket.parse (packets.flatMap Packet.encode) =
        packets.map Packet.decoded ∧
      ∀ (packet : Packet) (part rest : Bytes), packet.encode = part ++ rest → rest ≠ [] →
        UDPPacket.parse part = none := by
  have delimiting : SelfDelimiting UDPPacket.parse := TrojanUdp.parse_selfDelimiting
  have decoded := Decoded.flatMap delimiting Packet.encode Packet.decoded Packet.parse_encode
    packets
  refine ⟨decoded, decoded.decodeStream_eq delimiting delimiting.parse_nil, ?_⟩
  intro packet part rest split proper
  have whole := packet.parse_encode
  rw [split] at whole
  exact delimiting.parse_part whole proper

/-- Two packets, for a name and for an address. -/
def samplePackets : List Packet :=
  [⟨.domain ⟨[97, 46, 98], by decide⟩ 53, ⟨[1, 2], by decide⟩⟩,
    ⟨.endpoint ⟨.v4 ⟨[1, 2, 3, 4], rfl⟩, 80⟩ (by decide), ⟨[], by decide⟩⟩]

/-- Both packets come back from their stream, and the first one without its last byte is no
packet. -/
theorem samplePackets_delimited :
    decodeStream UDPPacket.parse (samplePackets.flatMap Packet.encode) =
        samplePackets.map Packet.decoded ∧
      UDPPacket.parse [3, 3, 97, 46, 98, 0, 53, 0, 2, 13, 10, 1] = none :=
  ⟨(packets_delimited samplePackets).2.1,
    (packets_delimited samplePackets).2.2 ⟨.domain ⟨[97, 46, 98], by decide⟩ 53,
      ⟨[1, 2], by decide⟩⟩ _ [2] rfl (by decide)⟩

/-- The parts of a request. -/
structure RequestParts where
  /-- What is in front of the first line end. -/
  password : Bytes
  /-- Requested service. -/
  command : Command
  /-- Requested target. -/
  address : WireAddress
  /-- What is behind the second line end. -/
  payload : Bytes

namespace RequestParts

variable {parts other : RequestParts} {data : Bytes} {before : TrojanReq}

/-- The message with these parts. -/
def bytes (parts : RequestParts) : Bytes :=
  parts.password ++
    (crlf ++ (parts.command.byte :: (parts.address.bytes ++ (crlf ++ parts.payload))))

/-- The message has these parts, with the password in front of its first line end. -/
structure IsOf (parts : RequestParts) (data : Bytes) : Prop where
  /-- The parts make up the message. -/
  whole : data = parts.bytes
  /-- The password ends at the first line end. -/
  first : find crlf data = some parts.password.length

/-- What the parts are parsed to. -/
def request (parts : RequestParts) : TrojanReq where
  command := some parts.command
  password := parts.password
  address := parts.address.parsed
  payload := parts.payload

/-- **A message has its parts in one way.** -/
theorem IsOf.unique (one : parts.IsOf data) (two : other.IsOf data) : parts = other := by
  have lengths : parts.password.length = other.password.length :=
    Option.some.inj (one.first.symm.trans two.first)
  have same : parts.bytes = other.bytes := one.whole.symm.trans two.whole
  obtain ⟨passwords, behind⟩ := List.append_inj same lengths
  obtain ⟨commands, behind⟩ := List.cons.inj (List.append_cancel_left behind)
  obtain ⟨addresses, behind⟩ := WireAddress.bytes_append_inj behind
  have payloads := List.append_cancel_left behind
  have command : some parts.command = some other.command := by
    rw [← Command.ofByte_eq_some.mpr rfl, commands, Command.ofByte_eq_some.mpr rfl]
  cases parts
  cases other
  simp_all

/-- A message with the parts of a request is parsed to them. -/
theorem IsOf.parse (of : parts.IsOf data) (before : TrojanReq) :
    before.parse data = (asInt32 (UInt32.ofNat data.length), parts.request) := by
  have front : data.take parts.password.length = parts.password := by
    rw [of.whole, bytes, List.take_left]
  have behind : data.drop (parts.password.length + 2) =
      parts.command.byte :: (parts.address.bytes ++ (crlf ++ parts.payload)) := by
    rw [of.whole, bytes, ← List.append_assoc]
    exact List.drop_left' (List.length_append)
  have second : (parts.address.bytes ++ (crlf ++ parts.payload)).drop parts.address.bytes.length =
      crlf ++ parts.payload := List.drop_left
  have last : (parts.address.bytes ++ (crlf ++ parts.payload)).drop
      (parts.address.bytes.length + 2) = parts.payload := by
    rw [← List.append_assoc]
    exact List.drop_left' List.length_append
  unfold TrojanReq.parse
  rw [of.first]
  dsimp only
  rw [front, behind, if_neg (by simp), List.getD_cons_zero, Command.ofByte_eq_some.mpr rfl]
  dsimp only
  rw [List.drop_succ_cons, List.drop_zero, parts.address.parse_bytes]
  dsimp only
  rw [List.drop_succ_cons, second, if_neg (by simp [crlf]), List.drop_succ_cons, last]
  rfl

/-- An accepted message has the parts of a request. -/
theorem exists_of_parse (accepted : (before.parse data).1 ≠ -1) : ∃ parts, IsOf parts data := by
  unfold TrojanReq.parse at accepted
  cases found : find crlf data with
  | none => simp [found] at accepted
  | some first =>
    obtain ⟨inside, behind, ends⟩ := append_of_find found
    have front : data = data.take first ++ (crlf ++ behind) := by
      rw [← ends, List.take_append_drop]
    have size : (data.take first).length = first := by
      rw [List.length_take]
      omega
    have rest : data.drop (first + 2) = behind := by
      rw [← List.drop_drop, ends]
      rfl
    simp only [found, rest] at accepted
    cases behind with
    | nil => simp at accepted
    | cons code behind =>
      simp only [List.length_cons, Nat.add_eq_zero_iff, one_ne_zero, and_false, if_false,
        List.getD_cons_zero, List.drop_succ_cons, List.drop_zero] at accepted
      cases known : Command.ofByte code with
      | none => simp [known] at accepted
      | some command =>
        cases address : SOCKS5Address.parse behind with
        | none => simp [known, address] at accepted
        | some read =>
          obtain ⟨wire, payload, rfl, -, length⟩ := WireAddress.exists_of_parse address
          simp only [known, address, length, List.drop_left] at accepted
          split at accepted
          · exact absurd rfl accepted
          rename_i ended
          obtain ⟨-, ended⟩ := not_or.mp ended
          have second : payload = crlf ++ payload.drop 2 := by
            rw [← not_not.mp ended, List.take_append_drop]
          refine ⟨⟨data.take first, command, wire, payload.drop 2⟩, ?_, ?_⟩
          · rw [bytes, ← second, ← Command.ofByte_eq_some.mp known]
            exact front
          · rw [found, size]

/-- A message of less than two gigabytes is accepted exactly when it has the parts of a
request. -/
theorem accepted_iff (short : data.length < 2 ^ 31) :
    (before.parse data).1 ≠ -1 ↔ ∃ parts, IsOf parts data := by
  constructor
  · exact exists_of_parse
  · rintro ⟨parts, of⟩
    rw [of.parse before, asInt32_ofNat short]
    omega

end RequestParts

/-- What `TrojanReq::generate` writes, with a payload behind it. -/
def generated (password : Bytes) (domain : DomainName) (port : UInt16) (tcp : Bool)
    (payload : Bytes) : Bytes :=
  TrojanReq.generate password domain.val port tcp ++ payload

/-- The parts of a generated request. -/
def generatedParts (password : Bytes) (domain : DomainName) (port : UInt16) (tcp : Bool)
    (payload : Bytes) : RequestParts where
  password := password
  command := if tcp then .connect else .udpAssociate
  address := .domainName domain port
  payload := payload

/-- A generated request has the parts it was generated from. -/
theorem generatedParts_isOf {password : Bytes} (free : find crlf password = none)
    (domain : DomainName) (port : UInt16) (tcp : Bool) (payload : Bytes) :
    (generatedParts password domain port tcp payload).IsOf
      (generated password domain port tcp payload) := by
  have whole : generated password domain port tcp payload =
      (generatedParts password domain port tcp payload).bytes := by
    cases tcp <;> simp [generated, generatedParts, TrojanReq.generate, RequestParts.bytes,
      WireAddress.bytes, WireAddress.host, WireAddress.port, Command.byte, be16]
  constructor
  · exact whole
  · rw [whole]
    exact find_append_crlf free _

/-- **A request is accepted exactly when it has the form of one**: a message of less than two
gigabytes is accepted iff it is a password, a line end, a command, an address, a line end and a
payload, with its first line end behind the password; it has these parts in one way, and its
length and they are returned. Every generated request with a payload is accepted with what it was
generated from. -/
theorem request_grammar (before : TrojanReq) :
    (∀ data : Bytes, data.length < 2 ^ 31 →
      ((before.parse data).1 ≠ -1 ↔ ∃ parts, RequestParts.IsOf parts data) ∧
      (∀ parts other, RequestParts.IsOf parts data → RequestParts.IsOf other data →
        parts = other) ∧
      ∀ parts, RequestParts.IsOf parts data →
        before.parse data = ((data.length : Int), parts.request)) ∧
    ∀ (password : Bytes) (domain : DomainName) (port : UInt16) (tcp : Bool) (payload : Bytes),
      find crlf password = none → (generated password domain port tcp payload).length < 2 ^ 31 →
        before.parse (generated password domain port tcp payload) =
          (((generated password domain port tcp payload).length : Int),
            { command := some (if tcp then .connect else .udpAssociate)
              password := password
              address := ⟨some .domainName, domain.val, port⟩
              payload := payload }) := by
  have components {parts : RequestParts} {data : Bytes} (short : data.length < 2 ^ 31)
      (of : parts.IsOf data) : before.parse data = ((data.length : Int), parts.request) := by
    rw [of.parse before, asInt32_ofNat short]
  constructor
  · intro data short
    exact ⟨RequestParts.accepted_iff short, fun _ _ one two => one.unique two,
      fun _ of => components short of⟩
  · intro password domain port tcp payload free short
    exact components short (generatedParts_isOf free domain port tcp payload)

/-- A generated request with a payload, and a message whose password ends with a carriage
return. -/
theorem request_grammar_samples :
    ({} : TrojanReq).parse [112, 13, 10, 1, 3, 1, 97, 0, 80, 13, 10, 9] =
      (12, { command := some .connect
             password := [112]
             address := ⟨some .domainName, [97], 80⟩
             payload := [9] }) ∧
    ∃ parts, RequestParts.IsOf parts [13, 13, 10, 3, 1, 1, 2, 3, 4, 0, 80, 13, 10] := by
  have grammar := request_grammar {}
  constructor
  · exact grammar.2 [112] ⟨[97], by decide⟩ 80 true [9] (by decide) (by decide)
  · exact (grammar.1 _ (by decide)).1.mp (by decide +kernel)

end Overplus.Verif.TrojanCodec
