import Overplus.Protocol.UdpFrame

/-!
# Decoding of channel frames

`parse_fixed` and `parse_domain` evaluate `UdpFrame::parse` on every string that passes the
header checks and names an address type; together with the refusals they say what the code
does on hostile input. IP frames are decoded exactly, and a frame generated for an IP endpoint
is decoded back to it. Every accepted domain frame is decoded with its payload one byte short,
because the length byte of the domain is stepped over twice; when there is no payload to lose,
the counter wraps and the call throws.
-/
namespace Overplus.Verif.FrameDecoding

open UdpFrame

variable {data : Bytes} {frame : UdpFrame} {frameLen : Nat}

/-- The bytes of a decoded frame behind its header, in wire order. -/
def body (frame : UdpFrame) : Bytes :=
  [frame.addrType] ++ ((if frame.addrType = addrDomain then [UInt8.ofNat frame.address.length]
    else []) ++ (frame.address ++ (be16 frame.port ++ frame.payload)))

/-- The call returns without a stray read, an exception or a wrapped counter, and what it
accepts is the frame the string starts with: header, address, port, and as payload all bytes
from there up to the returned length. -/
def FrameSafe (data : Bytes) : Prop :=
  ∃ parsed, parseFresh data = .ok parsed ∧ parsed.wrapped = false ∧
    (parsed.accepted = true → parsed.frameLen ≤ data.length ∧
      data.take parsed.frameLen = data.take headerSize ++ body parsed.frame)

/-- The string starts with a well-formed frame for a domain. -/
def DomainFrame (data : Bytes) : Prop :=
  HeaderOk data ∧ data.getD 4 0 = addrDomain ∧ 8 + (data.getD 5 0).toNat ≤ declaredLen data

/-- A total length fits its word. -/
theorem declaredLen_lt (data : Bytes) : declaredLen data < 2 ^ 16 :=
  (ofBe16 (data.getD 2 0) (data.getD 3 0)).toNat_lt

/-- A length without an address type is refused. -/
theorem parse_untyped (header : HeaderOk data) (short : declaredLen data < 5) :
    frame.parse data frameLen = .ok ⟨false, frame, frameLen, false⟩ := by
  rw [parse_header header, parseAddress]
  exact if_pos (by change declaredLen data - 4 < 1; omega)

/-- With an address type in range, one byte is counted off for it. -/
theorem parseAddress_counter (long : 5 ≤ declaredLen data) :
    Counter.sub { value := declaredLen data - headerSize } 1 =
      { value := declaredLen data - 5 } := by
  have bound := declaredLen_lt data
  rw [Counter.sub_exact (by unfold headerSize; omega) (by unfold sizeModulus; omega),
    Nat.sub_sub, headerSize]

/-- With a domain length in range, one more byte is counted off. -/
theorem parseAddress_domainCounter (long : 6 ≤ declaredLen data) :
    Counter.sub { value := declaredLen data - 5 } 1 = { value := declaredLen data - 6 } := by
  have bound := declaredLen_lt data
  rw [Counter.sub_exact (by omega) (by unfold sizeModulus; omega), Nat.sub_sub]

/-- The three parts of an IP frame and its remaining bytes, read from their places. -/
theorem parse_fixed (frame : UdpFrame) (frameLen : Nat) (header : HeaderOk data) (kind : UInt8)
    (size : Nat) (family : kind = addrIpv4 ∧ size = 4 ∨ kind = addrIpv6 ∧ size = 16)
    (typed : data.getD 4 0 = kind) (room : 7 + size ≤ declaredLen data) :
    frame.parse data frameLen =
      .ok ⟨true, ⟨kind, (data.drop 5).take size,
        ofBe16 (data.getD (5 + size) 0) (data.getD (5 + size + 1) 0),
        (data.drop (7 + size)).take (declaredLen data - (7 + size))⟩, declaredLen data, false⟩ := by
  have bound := declaredLen_lt data
  have upper := header.2.2.2
  have type : (Memory.ofBytes data Memory.unmapped).load headerSize = .ok kind := by
    rw [Memory.load_getD (by unfold headerSize; omega), ← typed]
    rfl
  have address : (Memory.ofBytes data Memory.unmapped).copyString (headerSize + 1) size =
      .ok ((data.drop 5).take size) :=
    Memory.copyString_inside (by unfold headerSize; omega)
      (by unfold Memory.maxStringSize; rcases family with ⟨_, rfl⟩ | ⟨_, rfl⟩ <;> decide)
  have port : getU16Be (Memory.ofBytes data Memory.unmapped) (headerSize + 1 + size) =
      .ok (ofBe16 (data.getD (5 + size) 0) (data.getD (5 + size + 1) 0)) :=
    getU16Be_inside (by unfold headerSize; omega)
  have payload (left : UdpFrame) :
      parsePayload (Memory.ofBytes data Memory.unmapped) (declaredLen data) left (headerSize + 1)
        { value := declaredLen data - 5 } (size + 2) =
      .ok ⟨true, { left with payload :=
        (data.drop (7 + size)).take (declaredLen data - (7 + size)) },
        declaredLen data, false⟩ := by
    rw [parsePayload_covered (by omega) (by omega) (by unfold headerSize; omega),
      show headerSize + 1 + (size + 2) = 7 + size by unfold headerSize; omega,
      show declaredLen data - 5 - (size + 2) = declaredLen data - (7 + size) by omega]
  rw [parse_header header, parseAddress]
  rw [if_neg (by change ¬ declaredLen data - 4 < 1; omega), type]
  simp only [bind, Except.bind, parseAddress_counter (show 5 ≤ declaredLen data by omega)]
  rcases family with ⟨rfl, rfl⟩ | ⟨rfl, rfl⟩
  · rw [if_pos rfl, if_neg (by omega), address]
    simp only [port, payload]
  · rw [if_neg (by decide), if_neg (by decide), if_pos rfl, if_neg (by omega), address]
    simp only [port, payload]

/-- A domain frame with a payload is accepted with that payload's first byte missing; one
without a payload makes the call throw. -/
theorem parse_domain (header : HeaderOk data) (typed : data.getD 4 0 = addrDomain)
    (room : 8 + (data.getD 5 0).toNat ≤ declaredLen data) :
    frame.parse data frameLen =
      if declaredLen data = 8 + (data.getD 5 0).toNat then .error .lengthError
      else .ok ⟨true, ⟨addrDomain, (data.drop 6).take (data.getD 5 0).toNat,
        ofBe16 (data.getD (6 + (data.getD 5 0).toNat) 0)
          (data.getD (6 + (data.getD 5 0).toNat + 1) 0),
        (data.drop (9 + (data.getD 5 0).toNat)).take
          (declaredLen data - (9 + (data.getD 5 0).toNat))⟩, declaredLen data, false⟩ := by
  have bound := declaredLen_lt data
  have upper := header.2.2.2
  have type : (Memory.ofBytes data Memory.unmapped).load headerSize = .ok (data.getD 4 0) :=
    Memory.load_getD (by unfold headerSize; omega)
  have length : (Memory.ofBytes data Memory.unmapped).load (headerSize + 1) =
      .ok (data.getD 5 0) := Memory.load_getD (by unfold headerSize; omega)
  generalize data.getD 5 0 = dlen at room length ⊢
  have dlenBound := dlen.toNat_lt
  have counter := parseAddress_domainCounter (show 6 ≤ declaredLen data by omega)
  have address : (Memory.ofBytes data Memory.unmapped).copyString (headerSize + 1 + 1) dlen.toNat =
      .ok ((data.drop 6).take dlen.toNat) :=
    Memory.copyString_inside (by unfold headerSize; omega) (by unfold Memory.maxStringSize; omega)
  have port : getU16Be (Memory.ofBytes data Memory.unmapped) (headerSize + 1 + 1 + dlen.toNat) =
      .ok (ofBe16 (data.getD (6 + dlen.toNat) 0) (data.getD (6 + dlen.toNat + 1) 0)) :=
    getU16Be_inside (by unfold headerSize; omega)
  rw [parse_header header, parseAddress]
  rw [if_neg (by change ¬ declaredLen data - 4 < 1; omega), type]
  simp only [bind, Except.bind, parseAddress_counter (show 5 ≤ declaredLen data by omega)]
  rw [if_neg (by rw [typed]; decide), if_pos typed, if_neg (by omega), length]
  simp only [counter]
  rw [if_neg (by omega), address]
  simp only [port, typed]
  by_cases empty : declaredLen data = 8 + dlen.toNat
  · rw [if_pos empty, parsePayload_wrapped (by omega) (by omega)]
  · rw [if_neg empty, parsePayload_covered (by omega) (by omega) (by unfold headerSize; omega),
      show headerSize + 1 + 1 + (1 + dlen.toNat + 2) = 9 + dlen.toNat by unfold headerSize; omega,
      show declaredLen data - 6 - (1 + dlen.toNat + 2) = declaredLen data - (9 + dlen.toNat) by
        omega]

/-- A string too short for its address type, or of another type, is refused. -/
theorem parse_unaccepted (frame : UdpFrame) (frameLen : Nat) (header : HeaderOk data)
    (ipv4 : data.getD 4 0 = addrIpv4 → declaredLen data < 11)
    (domain : data.getD 4 0 = addrDomain → declaredLen data < 8 + (data.getD 5 0).toNat)
    (ipv6 : data.getD 4 0 = addrIpv6 → declaredLen data < 23) :
    ∃ left, frame.parse data frameLen = .ok ⟨false, left, frameLen, false⟩ := by
  have bound := declaredLen_lt data
  have upper := header.2.2.2
  by_cases short : declaredLen data < 5
  · exact ⟨frame, parse_untyped header short⟩
  have type : (Memory.ofBytes data Memory.unmapped).load headerSize = .ok (data.getD 4 0) :=
    Memory.load_getD (by unfold headerSize; omega)
  rw [parse_header header, parseAddress]
  rw [if_neg (by change ¬ declaredLen data - 4 < 1; omega), type]
  simp only [bind, Except.bind, parseAddress_counter (show 5 ≤ declaredLen data by omega)]
  by_cases isIpv4 : data.getD 4 0 = addrIpv4
  · have small := ipv4 isIpv4
    rw [if_pos isIpv4, if_pos (by omega)]
    exact ⟨_, rfl⟩
  rw [if_neg isIpv4]
  by_cases isDomain : data.getD 4 0 = addrDomain
  · have small := domain isDomain
    rw [if_pos isDomain]
    by_cases empty : declaredLen data - 5 < 1
    · rw [if_pos empty]
      exact ⟨_, rfl⟩
    · have length : (Memory.ofBytes data Memory.unmapped).load (headerSize + 1) =
          .ok (data.getD 5 0) := Memory.load_getD (by unfold headerSize; omega)
      have counter := parseAddress_domainCounter (show 6 ≤ declaredLen data by omega)
      rw [if_neg empty, length]
      simp only [counter]
      rw [if_pos (by omega)]
      exact ⟨_, rfl⟩
  rw [if_neg isDomain]
  by_cases isIpv6 : data.getD 4 0 = addrIpv6
  · have small := ipv6 isIpv6
    rw [if_pos isIpv6, if_pos (by omega)]
    exact ⟨_, rfl⟩
  · rw [if_neg isIpv6]
    exact ⟨_, rfl⟩

/-- **What is accepted.** A frame that `parse` accepts names one of the three address types, and an
IP address in it is as long as its type says. -/
theorem parse_accepted {parsed : Parsed} (run : frame.parse data frameLen = .ok parsed)
    (accepted : parsed.accepted = true) :
    (parsed.frame.addrType = addrIpv4 ∧ parsed.frame.address.length = 4) ∨
      parsed.frame.addrType = addrDomain ∨
      (parsed.frame.addrType = addrIpv6 ∧ parsed.frame.address.length = 16) := by
  by_cases header : HeaderOk data
  · have upper := header.2.2.2
    by_cases ipv4 : data.getD 4 0 = addrIpv4 ∧ 11 ≤ declaredLen data
    · rw [parse_fixed frame frameLen header addrIpv4 4 (.inl ⟨rfl, rfl⟩) ipv4.1 ipv4.2] at run
      obtain rfl := Except.ok.inj run
      exact .inl ⟨rfl, by rw [List.length_take, List.length_drop]; omega⟩
    by_cases ipv6 : data.getD 4 0 = addrIpv6 ∧ 23 ≤ declaredLen data
    · rw [parse_fixed frame frameLen header addrIpv6 16 (.inr ⟨rfl, rfl⟩) ipv6.1 ipv6.2] at run
      obtain rfl := Except.ok.inj run
      exact .inr (.inr ⟨rfl, by rw [List.length_take, List.length_drop]; omega⟩)
    by_cases domain : data.getD 4 0 = addrDomain ∧ 8 + (data.getD 5 0).toNat ≤ declaredLen data
    · rw [parse_domain header domain.1 domain.2] at run
      split at run
      · cases run
      · obtain rfl := Except.ok.inj run
        exact .inr (.inl rfl)
    obtain ⟨left, refused⟩ := parse_unaccepted frame frameLen header
      (fun typed => Nat.lt_of_not_le fun room => ipv4 ⟨typed, room⟩)
      (fun typed => Nat.lt_of_not_le fun room => domain ⟨typed, room⟩)
      (fun typed => Nat.lt_of_not_le fun room => ipv6 ⟨typed, room⟩)
    rw [refused] at run
    obtain rfl := Except.ok.inj run
    cases accepted
  · rw [parse_refused header] at run
    obtain rfl := Except.ok.inj run
    cases accepted

/-- The declared bytes of an IP frame are its header, type, address, port and payload. -/
theorem fixed_layout (size : Nat) (inside : declaredLen data ≤ data.length)
    (room : 7 + size ≤ declaredLen data) :
    data.take (declaredLen data) = data.take headerSize ++ ([data.getD 4 0] ++
      ((data.drop 5).take size ++
        (be16 (ofBe16 (data.getD (5 + size) 0) (data.getD (5 + size + 1) 0)) ++
          (data.drop (7 + size)).take (declaredLen data - (7 + size))))) := by
  have type : data.drop 4 = [data.getD 4 0] ++ data.drop 5 := by
    rw [List.drop_eq_getElem_cons (by omega : 4 < data.length),
      List.getD_eq_getElem _ _ (by omega : 4 < data.length)]
    rfl
  have address : data.drop 5 = (data.drop 5).take size ++ data.drop (5 + size) := by
    rw [← List.drop_drop, List.take_append_drop]
  have port := drop_be16 (show 5 + size + 2 ≤ data.length by omega)
  rw [show 5 + size + 2 = 7 + size by omega] at port
  have split : data = (data.take 4 ++ ([data.getD 4 0] ++ ((data.drop 5).take size ++
      be16 (ofBe16 (data.getD (5 + size) 0) (data.getD (5 + size + 1) 0))))) ++
        data.drop (7 + size) := by
    calc data = data.take 4 ++ data.drop 4 := (List.take_append_drop 4 data).symm
      _ = data.take 4 ++ ([data.getD 4 0] ++ ((data.drop 5).take size ++
          (be16 (ofBe16 (data.getD (5 + size) 0) (data.getD (5 + size + 1) 0)) ++
            data.drop (7 + size)))) := by
        rw [type, ← port, ← address]
      _ = _ := by simp only [List.append_assoc]
  have front : (data.take 4 ++ ([data.getD 4 0] ++ ((data.drop 5).take size ++
      be16 (ofBe16 (data.getD (5 + size) 0) (data.getD (5 + size + 1) 0))))).length =
        7 + size := by
    simp
    omega
  rw [take_parts split (by rw [front]; exact room), front]
  simp only [List.append_assoc, headerSize]

/-- **Which frames are parsed safely.** `UdpFrame::parse` is safe and exact on a string
exactly when the string does not start with a well-formed domain frame: those it decodes
with the payload one byte short, or throws on. -/
theorem frame_safe_iff (data : Bytes) : FrameSafe data ↔ ¬ DomainFrame data := by
  constructor
  · rintro ⟨parsed, run, _, exact⟩ ⟨header, typed, room⟩
    rw [parseFresh, parse_domain header typed room] at run
    split at run
    · cases run
    · rename_i nonempty
      obtain rfl := Except.ok.inj run
      have upper := header.2.2.2
      have size := congrArg List.length (exact rfl).2
      simp only [body, headerSize, ↓reduceIte, List.length_append, List.length_take,
        List.length_drop, List.length_cons, List.length_nil, be16_length] at size
      omega
  · intro other
    by_cases header : HeaderOk data
    · have upper := header.2.2.2
      by_cases ipv4 : data.getD 4 0 = addrIpv4 ∧ 11 ≤ declaredLen data
      · have run := parse_fixed {} 0 header addrIpv4 4 (.inl ⟨rfl, rfl⟩) ipv4.1 ipv4.2
        refine ⟨_, run, rfl, fun _ => ⟨upper, ?_⟩⟩
        have layout := fixed_layout 4 upper ipv4.2
        rw [ipv4.1] at layout
        exact layout
      by_cases ipv6 : data.getD 4 0 = addrIpv6 ∧ 23 ≤ declaredLen data
      · have run := parse_fixed {} 0 header addrIpv6 16 (.inr ⟨rfl, rfl⟩) ipv6.1 ipv6.2
        refine ⟨_, run, rfl, fun _ => ⟨upper, ?_⟩⟩
        have layout := fixed_layout 16 upper ipv6.2
        rw [ipv6.1] at layout
        exact layout
      obtain ⟨left, run⟩ := parse_unaccepted {} 0 header
        (fun typed => Nat.lt_of_not_le fun room => ipv4 ⟨typed, room⟩)
        (fun typed => Nat.lt_of_not_le fun room => other ⟨header, typed, room⟩)
        (fun typed => Nat.lt_of_not_le fun room => ipv6 ⟨typed, room⟩)
      exact ⟨_, run, rfl, fun accepted => by cases accepted⟩
    · exact ⟨_, parse_refused header, rfl, fun accepted => by cases accepted⟩

/-- A frame for the domain `a`, port 53 and no payload makes the call throw. -/
theorem frame_unsafe : ¬ FrameSafe (generateDomain [0x61] 53 []) := by
  have run : parseFresh (generateDomain [0x61] 53 []) = .error .lengthError := by decide +kernel
  rintro ⟨parsed, returned, _⟩
  rw [run] at returned
  cases returned

/-- The magic word, a length and the bytes it counts pass the header checks. -/
theorem headerOk_of_layout {body rest : Bytes} {total : Nat}
    (layout : data = be16 magic ++ (be16 (UInt16.ofNat total) ++ (body ++ rest)))
    (exact : total = headerSize + body.length) (fits : total ≤ 65535) :
    HeaderOk data ∧ declaredLen data = total := by
  have word : ofBe16 (data.getD 2 0) (data.getD 3 0) = UInt16.ofNat total :=
    ofBe16_part (be16 magic) _ layout rfl
  have declared : declaredLen data = total := by
    rw [declaredLen, word, UInt16.toNat_ofNat']
    exact Nat.mod_eq_of_lt (by omega)
  have length : data.length = headerSize + body.length + rest.length := by
    rw [layout]
    simp only [List.length_append, be16_length, headerSize]
    omega
  refine ⟨⟨by omega, ?_, by omega, by omega⟩, declared⟩
  exact ofBe16_part [] magic layout rfl

/-- The byte that stands for an address's family. -/
def kindOf : Address → UInt8
  | .v4 _ => addrIpv4
  | .v6 _ => addrIpv6

/-- Bytes of a frame around its payload: header, type, address and port. -/
def overhead : Address → Nat
  | .v4 _ => 11
  | .v6 _ => 23

/-- The bytes of a generated IP frame. -/
theorem generate_eq (endpoint : Endpoint) (payload : Bytes) :
    generate endpoint payload =
      be16 magic ++ (be16 (UInt16.ofNat (overhead endpoint.address + payload.length)) ++
        (kindOf endpoint.address :: (endpoint.address.toBytes ++
          (be16 endpoint.port ++ payload)))) := by
  obtain ⟨address, port⟩ := endpoint
  cases address with
  | v4 bytes =>
    simp [generate, headerSize, bytes.property, putU16Be, be16, kindOf, overhead, Address.toBytes]
  | v6 bytes =>
    simp [generate, headerSize, bytes.property, putU16Be, be16, kindOf, overhead, Address.toBytes]

/-- The families of addresses with their sizes. -/
theorem family_cases (address : Address) :
    kindOf address = addrIpv4 ∧ address.toBytes.length = 4 ∨
      kindOf address = addrIpv6 ∧ address.toBytes.length = 16 := by
  cases address with
  | v4 bytes => exact .inl ⟨rfl, bytes.property⟩
  | v6 bytes => exact .inr ⟨rfl, bytes.property⟩

/-- The bytes around a payload are seven and the address. -/
theorem overhead_eq (address : Address) : overhead address = 7 + address.toBytes.length := by
  cases address with
  | v4 bytes => exact congrArg (7 + ·) bytes.property.symm
  | v6 bytes => exact congrArg (7 + ·) bytes.property.symm

/-- **Every generated IP frame is parsed back**: the frame of any endpoint and any payload that
fits its length word, followed by any bytes, gives the address type, the address bytes, the port
and the payload it was generated from, and its own length. -/
theorem ip_frame_round_trips (frame : UdpFrame) (frameLen : Nat) (endpoint : Endpoint)
    (payload rest : Bytes) (fits : overhead endpoint.address + payload.length ≤ 65535) :
    frame.parse (generate endpoint payload ++ rest) frameLen =
      .ok ⟨true, ⟨kindOf endpoint.address, endpoint.address.toBytes, endpoint.port, payload⟩,
        (generate endpoint payload).length, false⟩ := by
  have around := overhead_eq endpoint.address
  have family := family_cases endpoint.address
  generalize bytes : endpoint.address.toBytes = octets at around family ⊢
  let front := be16 magic ++ (be16 (UInt16.ofNat (overhead endpoint.address + payload.length)) ++
    [kindOf endpoint.address])
  have layout : generate endpoint payload ++ rest =
      (front ++ octets) ++ (be16 endpoint.port ++ (payload ++ rest)) := by
    rw [generate_eq, bytes]
    simp only [front, List.append_assoc, List.cons_append, List.nil_append]
  have length : (generate endpoint payload).length =
      overhead endpoint.address + payload.length := by
    rw [generate_eq, bytes, around]
    simp only [List.length_append, List.length_cons, be16_length]
    omega
  generalize whole : generate endpoint payload ++ rest = data at layout ⊢
  have header : HeaderOk data ∧ declaredLen data = overhead endpoint.address + payload.length := by
    have parts : data = be16 magic ++ (be16 (UInt16.ofNat (overhead endpoint.address +
        payload.length)) ++ ((kindOf endpoint.address ::
          (octets ++ (be16 endpoint.port ++ payload))) ++ rest)) := by
      rw [layout]
      simp only [front, List.append_assoc, List.cons_append, List.nil_append]
    apply headerOk_of_layout parts ?_ fits
    · simp only [List.length_append, List.length_cons, be16_length, headerSize]
      omega
  have typed : data.getD 4 0 = kindOf endpoint.address := by
    rw [layout]
    rfl
  have address : (data.drop 5).take octets.length = octets := by
    rw [layout, List.append_assoc]
    exact List.take_left
  have port : ofBe16 (data.getD (5 + octets.length) 0) (data.getD (5 + octets.length + 1) 0) =
      endpoint.port := by
    apply ofBe16_part (front ++ octets) _ layout
    rw [List.length_append]
    rfl
  have datagram : (data.drop (7 + octets.length)).take payload.length = payload := by
    have size : (front ++ octets ++ be16 endpoint.port).length = 7 + octets.length := by
      simp only [List.length_append, front, be16_length, List.length_singleton]
      omega
    rw [layout, ← List.append_assoc, List.drop_left' size, List.take_left]
  rw [parse_fixed frame frameLen header.1 (kindOf endpoint.address) octets.length family typed
    (by omega), address, port, header.2, length, around, Nat.add_sub_cancel_left, datagram]

/-- An empty payload for an IPv6 endpoint, with bytes behind the frame. -/
theorem ip_frame_round_trips_empty :
    parseFresh (generate ⟨.v6 ⟨List.replicate 16 1, rfl⟩, 53⟩ [] ++ [7, 8]) =
      .ok ⟨true, ⟨addrIpv6, List.replicate 16 1, 53, []⟩, 23, false⟩ :=
  ip_frame_round_trips {} 0 ⟨.v6 ⟨List.replicate 16 1, rfl⟩, 53⟩ [] [7, 8] (by decide)

/-- The decoded frame a generated domain frame should give back. -/
def DomainRoundTrip (domain : Bytes) (port : UInt16) (payload rest : Bytes) : Prop :=
  ∃ wrapped, parseFresh (generateDomain domain port payload ++ rest) =
    .ok ⟨true, ⟨addrDomain, domain, port, payload⟩, 8 + domain.length + payload.length, wrapped⟩

/-- The bytes of a generated domain frame. -/
theorem generateDomain_eq (domain : Bytes) (port : UInt16) (payload : Bytes) :
    generateDomain domain port payload =
      be16 magic ++ (be16 (UInt16.ofNat (8 + domain.length + payload.length)) ++
        (addrDomain :: UInt8.ofNat domain.length :: (domain ++ (be16 port ++ payload)))) := by
  have total : headerSize + 1 + 1 + domain.length + 2 + payload.length =
      8 + domain.length + payload.length := by
    unfold headerSize
    omega
  simp only [generateDomain, total, putU16Be, be16, List.append_assoc, List.nil_append,
    List.cons_append]

/-- A generated domain frame, followed by any bytes, is a well-formed domain frame of the
length it was generated with. -/
theorem generateDomain_domainFrame {domain payload : Bytes} (port : UInt16) (rest : Bytes)
    (short : domain.length ≤ 255) (fits : 8 + domain.length + payload.length ≤ 65535) :
    declaredLen (generateDomain domain port payload ++ rest) =
        8 + domain.length + payload.length ∧
      DomainFrame (generateDomain domain port payload ++ rest) ∧
      ((generateDomain domain port payload ++ rest).getD 5 0).toNat = domain.length := by
  have length : (UInt8.ofNat domain.length).toNat = domain.length := by
    simp only [UInt8.toNat_ofNat']
    omega
  have layout : generateDomain domain port payload ++ rest =
      be16 magic ++ (be16 (UInt16.ofNat (8 + domain.length + payload.length)) ++
        ((addrDomain :: UInt8.ofNat domain.length :: (domain ++ (be16 port ++ payload))) ++
          rest)) := by
    rw [generateDomain_eq]
    simp only [List.append_assoc]
  have fifth : (generateDomain domain port payload ++ rest).getD 5 0 =
      UInt8.ofNat domain.length := by
    rw [layout]
    rfl
  obtain ⟨header, declared⟩ := headerOk_of_layout layout
    (by simp only [List.length_append, List.length_cons, be16_length, headerSize]; omega) fits
  refine ⟨declared, ⟨header, ?_, ?_⟩, by rw [fifth, length]⟩
  · rw [layout]
    rfl
  · rw [fifth, length, declared]
    omega

/-- **No generated domain frame is parsed back.** For every domain, port, payload and bytes
behind the frame, `parse` throws when the payload is empty and otherwise returns the payload
without its first byte. -/
theorem domain_frame_never_round_trips (domain : Bytes) (port : UInt16) (payload rest : Bytes)
    (_nonempty : 1 ≤ domain.length) (short : domain.length ≤ 255)
    (fits : 8 + domain.length + payload.length ≤ 65535) :
    ¬ DomainRoundTrip domain port payload rest := by
  rintro ⟨wrapped, run⟩
  obtain ⟨declared, ⟨header, typed, room⟩, length⟩ :=
    generateDomain_domainFrame port rest short fits
  rw [parseFresh, parse_domain header typed room] at run
  split at run
  · cases run
  · rename_i remains
    have payloads := congrArg (fun parsed => parsed.frame.payload.length) (Except.ok.inj run)
    have upper := header.2.2.2
    simp only [List.length_take, List.length_drop] at payloads
    omega

/-- The frame of a two-byte payload for the domain `a` is not parsed back. -/
theorem domain_frame_never_round_trips_short :
    ¬ DomainRoundTrip [0x61] 53 [1, 2] [] :=
  domain_frame_never_round_trips [0x61] 53 [1, 2] [] (by decide) (by decide) (by decide)

/-- The frame of the payload `1 2` for the domain `a` is parsed with the payload `2`. -/
theorem domain_frame_lossy :
    parseFresh (generateDomain [0x61] 53 [1, 2] ++ []) =
        .ok ⟨true, ⟨addrDomain, [0x61], 53, [2]⟩, 11, false⟩ ∧
      ¬ DomainRoundTrip [0x61] 53 [1, 2] [] := by
  have run : parseFresh (generateDomain [0x61] 53 [1, 2] ++ []) =
      .ok ⟨true, ⟨addrDomain, [0x61], 53, [2]⟩, 11, false⟩ := by decide +kernel
  refine ⟨run, ?_⟩
  rintro ⟨wrapped, returned⟩
  rw [run] at returned
  cases returned

end Overplus.Verif.FrameDecoding
