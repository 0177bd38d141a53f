import Overplus.Protocol.Endpoint

/-!
# Frames of the DTLS channel (`Protocol/UdpFrame.cpp`)

A frame is a magic word, its own total length, an address type, an address, a port and a
payload. `parse` walks a pointer through the received string and keeps the number of bytes
left in an unsigned counter; the model reads a memory that holds the string alone and
records whether the counter was taken below zero.
-/
namespace Overplus

/-- `UdpFrame`. -/
structure UdpFrame where
  /-- Kind of the address, as the byte on the wire. -/
  addrType : UInt8 := 0x01
  /-- Raw bytes of an IP address, or the text of a domain. -/
  address : Bytes := []
  /-- Port in host order. -/
  port : UInt16 := 0
  /-- Bytes of the datagram. -/
  payload : Bytes := []
deriving DecidableEq, Repr

namespace UdpFrame

/-- `UdpFrame::ADDR_IPV4`. -/
def addrIpv4 : UInt8 := 0x01
/-- `UdpFrame::ADDR_DOMAIN`. -/
def addrDomain : UInt8 := 0x03
/-- `UdpFrame::ADDR_IPV6`. -/
def addrIpv6 : UInt8 := 0x06
/-- `UdpFrame::MAGIC`. -/
def magic : UInt16 := 0x0D0A
/-- `UdpFrame::HEADER_SIZE`. -/
def headerSize : Nat := 4

/-- `put_u16_be`. -/
def putU16Be (dst : Bytes) (val : UInt16) : Bytes := dst ++ [(val >>> 8).toUInt8, val.toUInt8]

/-- `get_u16_be`. -/
def getU16Be (memory : Memory) (ptr : Nat) : Except Fault UInt16 := do
  let high ← memory.load ptr
  let low ← memory.load (ptr + 1)
  .ok (ofBe16 high low)

/-- Everything a call of `parse` leaves behind: its result, the frame, the output length, and
whether the counter of remaining bytes went below zero on the way. -/
structure Parsed where
  /-- Returned flag. -/
  accepted : Bool
  /-- The frame object. -/
  frame : UdpFrame
  /-- The output argument. -/
  frameLen : Nat
  /-- The counter wrapped. -/
  wrapped : Bool
deriving DecidableEq, Repr

/-- The end of `parse`: step over the address part and take the rest as payload. -/
def parsePayload (memory : Memory) (totalLen : Nat) (frame : UdpFrame) (ptr : Nat)
    (remaining : Counter) (addrLen : Nat) : Except Fault Parsed := do
  let remaining := remaining.sub addrLen
  let payload ← if remaining.value = 0 then .ok []
    else memory.copyString (ptr + addrLen) remaining.value
  .ok ⟨true, { frame with payload }, totalLen, remaining.wrapped⟩

/-- The part of `parse` behind the header checks. The domain case moves the pointer past the
length byte and counts that byte in `addrLen` again. -/
def parseAddress (memory : Memory) (frame : UdpFrame) (frameLen totalLen : Nat) :
    Except Fault Parsed :=
  let remaining : Counter := { value := totalLen - headerSize }
  if remaining.value < 1 then .ok ⟨false, frame, frameLen, remaining.wrapped⟩
  else do
    let addrType ← memory.load headerSize
    let frame := { frame with addrType }
    let ptr := headerSize + 1
    let remaining := remaining.sub 1
    if addrType = addrIpv4 then
      if remaining.value < 4 + 2 then .ok ⟨false, frame, frameLen, remaining.wrapped⟩
      else
        let address ← memory.copyString ptr 4
        let port ← getU16Be memory (ptr + 4)
        parsePayload memory totalLen { frame with address, port } ptr remaining (4 + 2)
    else if addrType = addrDomain then
      if remaining.value < 1 then .ok ⟨false, frame, frameLen, remaining.wrapped⟩
      else
        let dlen ← memory.load ptr
        let ptr := ptr + 1
        let remaining := remaining.sub 1
        if remaining.value < dlen.toNat + 2 then .ok ⟨false, frame, frameLen, remaining.wrapped⟩
        else
          let address ← memory.copyString ptr dlen.toNat
          let port ← getU16Be memory (ptr + dlen.toNat)
          parsePayload memory totalLen { frame with address, port } ptr remaining
            (1 + dlen.toNat + 2)
    else if addrType = addrIpv6 then
      if remaining.value < 16 + 2 then .ok ⟨false, frame, frameLen, remaining.wrapped⟩
      else
        let address ← memory.copyString ptr 16
        let port ← getU16Be memory (ptr + 16)
        parsePayload memory totalLen { frame with address, port } ptr remaining (16 + 2)
    else .ok ⟨false, frame, frameLen, remaining.wrapped⟩

/-- `UdpFrame::parse`. -/
def parse (frame : UdpFrame) (data : Bytes) (frameLen : Nat) : Except Fault Parsed :=
  if data.length < headerSize then .ok ⟨false, frame, frameLen, false⟩
  else do
    let memory := Memory.ofBytes data Memory.unmapped
    let word ← getU16Be memory 0
    if word ≠ magic then .ok ⟨false, frame, frameLen, false⟩
    else
      let totalLen ← getU16Be memory 2
      if totalLen.toNat < headerSize ∨ data.length < totalLen.toNat then
        .ok ⟨false, frame, frameLen, false⟩
      else parseAddress memory frame frameLen totalLen.toNat

/-- A fresh frame parsing a string, as every caller does. -/
def parseFresh (data : Bytes) : Except Fault Parsed := parse {} data 0

/-- `UdpFrame::generate(endpoint, payload)`. -/
def generate (ep : Endpoint) (payload : Bytes) : Bytes :=
  let addrPart := (match ep.address with
    | .v4 bytes => [addrIpv4] ++ bytes.val
    | .v6 bytes => [addrIpv6] ++ bytes.val) ++ [(ep.port >>> 8).toUInt8, ep.port.toUInt8]
  let totalLen := UInt16.ofNat (headerSize + addrPart.length + payload.length)
  putU16Be (putU16Be [] magic) totalLen ++ addrPart ++ payload

/-- `UdpFrame::generate(domain, port, payload)`. -/
def generateDomain (domain : Bytes) (port : UInt16) (payload : Bytes) : Bytes :=
  let totalLen := UInt16.ofNat (headerSize + 1 + 1 + domain.length + 2 + payload.length)
  let frame := putU16Be (putU16Be [] magic) totalLen
  let frame := frame ++ [addrDomain] ++ [UInt8.ofNat domain.length] ++ domain
  putU16Be frame port ++ payload

/-- The declared total length; bytes past the end count as zero. -/
def declaredLen (data : Bytes) : Nat := (ofBe16 (data.getD 2 0) (data.getD 3 0)).toNat

/-- The header checks of `parse`: the magic word, and a total length between the header's and
the string's own. -/
def HeaderOk (data : Bytes) : Prop :=
  headerSize ≤ data.length ∧ ofBe16 (data.getD 0 0) (data.getD 1 0) = magic ∧
    headerSize ≤ declaredLen data ∧ declaredLen data ≤ data.length

instance (data : Bytes) : Decidable (HeaderOk data) :=
  inferInstanceAs (Decidable (_ ∧ _ ∧ _ ∧ _))

variable {data : Bytes} {frame : UdpFrame} {frameLen totalLen ptr count : Nat}

/-- Two bytes inside the string are read as a big-endian word. -/
theorem getU16Be_inside (inside : ptr + 2 ≤ data.length) :
    getU16Be (Memory.ofBytes data Memory.unmapped) ptr =
      .ok (ofBe16 (data.getD ptr 0) (data.getD (ptr + 1) 0)) := by
  unfold getU16Be
  rw [Memory.load_getD (by omega : ptr < data.length),
    Memory.load_getD (by omega : ptr + 1 < data.length)]
  rfl

/-- A string that passes the header checks goes on to its address. -/
theorem parse_header (header : HeaderOk data) :
    frame.parse data frameLen =
      parseAddress (Memory.ofBytes data Memory.unmapped) frame frameLen (declaredLen data) := by
  obtain ⟨long, magicOk, lower, upper⟩ := header
  unfold headerSize at long lower
  unfold parse
  rw [if_neg (by unfold headerSize; omega)]
  simp only [getU16Be_inside (show 0 + 2 ≤ data.length by omega),
    getU16Be_inside (show 2 + 2 ≤ data.length by omega), bind, Except.bind]
  rw [if_neg (by simpa using magicOk)]
  have fits : ¬ (declaredLen data < headerSize ∨ data.length < declaredLen data) := by
    unfold headerSize
    omega
  exact if_neg fits

/-- A string that fails a header check is refused with the frame untouched. -/
theorem parse_refused (refused : ¬ HeaderOk data) :
    frame.parse data frameLen = .ok ⟨false, frame, frameLen, false⟩ := by
  unfold parse
  by_cases long : data.length < headerSize
  · rw [if_pos long]
  · have room := long
    unfold headerSize at room
    rw [if_neg long]
    simp only [getU16Be_inside (show 0 + 2 ≤ data.length by omega),
      getU16Be_inside (show 2 + 2 ≤ data.length by omega), bind, Except.bind]
    split
    · rfl
    · rename_i magicOk
      apply if_pos
      by_contra within
      rw [not_or, Nat.not_lt, Nat.not_lt] at within
      exact refused ⟨by omega, by simpa using magicOk, within.1, within.2⟩

/-- Behind a covered address part, the payload is what the counter leaves. -/
theorem parsePayload_covered {remaining addrLen : Nat} (covered : addrLen ≤ remaining)
    (small : remaining < 2 ^ 16) (inside : ptr + remaining ≤ data.length) :
    parsePayload (Memory.ofBytes data Memory.unmapped) totalLen frame ptr
        { value := remaining } addrLen =
      .ok ⟨true, { frame with payload := (data.drop (ptr + addrLen)).take (remaining - addrLen) },
        totalLen, false⟩ := by
  unfold parsePayload
  rw [Counter.sub_exact covered (by unfold sizeModulus; omega)]
  by_cases empty : remaining - addrLen = 0
  · simp [empty, bind, Except.bind]
  · have copied : (Memory.ofBytes data Memory.unmapped).copyString (ptr + addrLen)
        (remaining - addrLen) = .ok ((data.drop (ptr + addrLen)).take (remaining - addrLen)) :=
      Memory.copyString_inside (by omega) (by unfold Memory.maxStringSize; omega)
    simp only [empty, ↓reduceIte, copied, bind, Except.bind]

/-- An address part counted longer than the counter wraps it, and the payload is requested
with a length no string has. -/
theorem parsePayload_wrapped {memory : Memory} {remaining addrLen : Nat}
    (short : remaining < addrLen) (small : addrLen < 2 ^ 16) :
    parsePayload memory totalLen frame ptr { value := remaining } addrLen =
      .error .lengthError := by
  have size : Memory.maxStringSize < sizeSub remaining addrLen := by
    unfold sizeSub sizeModulus Memory.maxStringSize
    omega
  have long : Memory.maxStringSize < (Counter.sub { value := remaining } addrLen).value := size
  unfold parsePayload
  generalize Counter.sub { value := remaining } addrLen = left at long ⊢
  have nonzero : left.value ≠ 0 := Nat.ne_of_gt (Nat.lt_of_le_of_lt (Nat.zero_le _) long)
  have copied : memory.copyString (ptr + addrLen) left.value = .error .lengthError := if_pos long
  dsimp only
  rw [if_neg nonzero, copied]
  rfl

/-- The source of a generated frame can be read off its bytes. -/
theorem generate_endpoint {endpoint other : Endpoint} {payload rest : Bytes}
    (same : generate endpoint payload = generate other rest) : endpoint = other := by
  have ports {first second : UInt16} {front back : Bytes}
      (equal : (first >>> 8).toUInt8 :: first.toUInt8 :: front =
        (second >>> 8).toUInt8 :: second.toUInt8 :: back) : first = second := by
    obtain ⟨high, low⟩ := List.cons.inj equal
    rw [← ofBe16_be16 first, ← ofBe16_be16 second, high, (List.cons.inj low).1]
  -- Behind the length come the type, the address and the port.
  have parts := congrArg (List.drop 4) same
  obtain ⟨address, port⟩ := endpoint
  obtain ⟨second, number⟩ := other
  cases address with
  | v4 bytes =>
    cases second with
    | v4 others =>
      have behind : bytes.val ++ ((port >>> 8).toUInt8 :: port.toUInt8 :: payload) =
          others.val ++ ((number >>> 8).toUInt8 :: number.toUInt8 :: rest) := by
        simpa [generate, putU16Be] using parts
      obtain ⟨addresses, tails⟩ := List.append_inj behind (bytes.2.trans others.2.symm)
      rw [Subtype.ext addresses, ports tails]
    | v6 others => simp [generate, putU16Be, addrIpv4, addrIpv6] at parts
  | v6 bytes =>
    cases second with
    | v4 others => simp [generate, putU16Be, addrIpv4, addrIpv6] at parts
    | v6 others =>
      have behind : bytes.val ++ ((port >>> 8).toUInt8 :: port.toUInt8 :: payload) =
          others.val ++ ((number >>> 8).toUInt8 :: number.toUInt8 :: rest) := by
        simpa [generate, putU16Be] using parts
      obtain ⟨addresses, tails⟩ := List.append_inj behind (bytes.2.trans others.2.symm)
      rw [Subtype.ext addresses, ports tails]

end UdpFrame

end Overplus
