import Overplus.Shared.Coding

/-!
# The V protocol request (`Protocol/VProtocal/VRequest.cpp`)

A request is an identifier, a version byte, the length of the whole header, three strings
each behind its own length word, and a port; bytes after the header are early data of the
tunnel. `unstream` reads through a pointer into the received string, so its model reads a
memory: the string, followed by whatever the process holds behind it.
-/
namespace Overplus

/-- `VRequest::Header`; its identifier string is never read. -/
structure VRequest.Header where
  /-- Protocol version. -/
  version : UInt8 := 0
  /-- Bytes of the request in front of the early data. -/
  len : UInt32 := 0
deriving DecidableEq, Repr

/-- `VRequest`. -/
structure VRequest where
  /-- Version and header length. -/
  header : VRequest.Header := {}
  /-- Account name. -/
  userName : Bytes := []
  /-- Hash of the account's password. -/
  password : Bytes := []
  /-- Host the client asks for. -/
  address : Bytes := []
  /-- Port the client asks for. -/
  port : UInt16 := 0
  /-- Early data received behind the request. -/
  packedBuff : Bytes := []
deriving DecidableEq, Repr

namespace VRequest

open Coding

/-- `VRequest::v_identifier`, the text `v protocol`. -/
def vIdentifier : Bytes := [0x76, 0x20, 0x70, 0x72, 0x6f, 0x74, 0x6f, 0x63, 0x6f, 0x6c]

/-- `VRequest::identifier_len`. -/
def identifierLen : Nat := 10

/-- The header length `stream` computes, truncated to its word. -/
def headerLen (request : VRequest) : UInt32 :=
  UInt32.ofNat (5 + identifierLen + request.password.length + 4 + request.userName.length + 4 +
    request.address.length + 4 + 2)

/-- `VRequest::stream`: store the header length and append the request. -/
def stream (request : VRequest) (buf : Bytes) : VRequest × Bytes :=
  let request := { request with header := { request.header with len := request.headerLen } }
  let buf := encodeStr buf vIdentifier
  let buf := encodeFixed8 buf request.header.version
  let buf := encodeFixed32 buf (htonl request.header.len)
  let buf := encodeFixed32 buf (htonl (UInt32.ofNat request.userName.length))
  let buf := encodeStr buf request.userName
  let buf := encodeFixed32 buf (htonl (UInt32.ofNat request.password.length))
  let buf := encodeStr buf request.password
  let buf := encodeFixed32 buf (htonl (UInt32.ofNat request.address.length))
  let buf := encodeStr buf request.address
  (request, encodeFixed16 buf (htons request.port))

/-- One string of `unstream`: its length word, its text, and the pointer behind it. -/
def decodeField (memory : Memory) (ptr : Nat) : Except Fault (Bytes × Nat) := do
  let len ← decodeNet32 memory ptr
  let text ← decodeStr memory (ptr + 4) (asInt32 len)
  .ok (text, ptr + 4 + len.toNat)

/-- `VRequest::unstream` on a string in front of other memory: the returned flag and the
request as the call leaves it. -/
def unstream (request : VRequest) (buf : Bytes) (beyond : Memory) :
    Except Fault (Bool × VRequest) :=
  if buf.length < identifierLen + 1 + 4 then .ok (false, request)
  else do
    let memory := Memory.ofBytes buf beyond
    let version ← memory.load identifierLen
    let len ← decodeNet32 memory (identifierLen + 1)
    let request := { request with header := { version, len } }
    if buf.length < len.toNat then .ok (false, request)
    else
      let (userName, ptr) ← decodeField memory (identifierLen + 1 + 4)
      let (password, ptr) ← decodeField memory ptr
      let (address, ptr) ← decodeField memory ptr
      let port ← decodeNet16 memory ptr
      let request := { request with userName, password, address, port }
      if len.toNat < buf.length then
        let packedBuff ← memory.loadBytes (ptr + 2) (buf.length - len.toNat)
        .ok (true, { request with packedBuff })
      else .ok (true, request)

/-- `VRequest::is_v_protocol`: the buffer starts with the identifier. -/
def isVProtocol (buf : Bytes) : Bool := buf.take identifierLen == vIdentifier

/-- A string behind its length word. -/
def fieldImage (text : Bytes) : Bytes := be32 (UInt32.ofNat text.length) ++ text

/-- The bytes of a request in wire order, early data excluded. -/
def image (request : VRequest) : Bytes :=
  vIdentifier ++ ([request.header.version] ++ (be32 request.header.len ++
    (fieldImage request.userName ++ (fieldImage request.password ++
      (fieldImage request.address ++ be16 request.port)))))

/-- A string's image is four bytes longer than the string. -/
@[simp]
theorem fieldImage_length (text : Bytes) : (fieldImage text).length = 4 + text.length := by
  simp [fieldImage]

/-- The fixed parts of a request take twenty-nine bytes. -/
theorem image_length (request : VRequest) : request.image.length =
    29 + request.userName.length + request.password.length + request.address.length := by
  simp only [image, List.length_append, fieldImage_length, be16_length, be32_length,
    List.length_cons, List.length_nil, vIdentifier]
  omega

/-- `stream` appends the image of the request with its computed header length. -/
theorem stream_eq (request : VRequest) (buf : Bytes) :
    request.stream buf =
      let sent := { request with header := { request.header with len := request.headerLen } }
      (sent, buf ++ sent.image) := by
  simp only [stream, encodeStr, encodeFixed8, encodeFixed32_htonl, encodeFixed16_htons, image,
    fieldImage, List.append_assoc]

/-- The computed header length is the number of bytes appended, while the word holds it. -/
theorem headerLen_toNat (request : VRequest) (fits : request.image.length < 2 ^ 32) :
    request.headerLen.toNat = request.image.length := by
  rw [image_length] at fits ⊢
  simp only [headerLen, identifierLen, UInt32.toNat_ofNat']
  omega

variable {bytes back text : Bytes} {beyond : Memory} {ptr : Nat}

/-- A short string behind its length word is read back from its place. -/
theorem decodeField_part (front : Bytes) (layout : bytes = front ++ (fieldImage text ++ back))
    (position : ptr = front.length) (small : text.length < 2 ^ 31) :
    decodeField (Memory.ofBytes bytes beyond) ptr = .ok (text, ptr + 4 + text.length) := by
  have split : bytes = front ++ (be32 (UInt32.ofNat text.length) ++ (text ++ back)) := by
    simpa [fieldImage] using layout
  have word := wordAt_part front (UInt32.ofNat text.length) split position
  have value : (UInt32.ofNat text.length).toNat = text.length := by
    simp only [UInt32.toNat_ofNat']
    omega
  have loaded : (Memory.ofBytes bytes beyond).loadBytes (ptr + 4) text.length = .ok text :=
    Memory.loadBytes_part
      (show bytes = (front ++ be32 (UInt32.ofNat text.length)) ++ (text ++ back) by simp [split])
      (by simp [position]) rfl
  have signed : asInt32 (UInt32.ofNat text.length) = (text.length : Int) := by
    rw [asInt32, if_pos (by omega), value]
  unfold decodeField
  rw [decodeNet32_inside (by simp [split, position]), word]
  simp only [bind, Except.bind, signed, decodeStr, Int.natCast_nonneg, ↓reduceIte,
    Int.toNat_natCast, loaded, value]

/-- A string is read only from inside the buffer and only behind a nonnegative length. -/
theorem decodeField_ok {read : Bytes × Nat}
    (decoded : decodeField (Memory.ofBytes bytes Memory.unmapped) ptr = .ok read) :
    ptr + 4 ≤ bytes.length ∧ (wordAt bytes ptr).toNat < 2 ^ 31 ∧
      read.2 = ptr + 4 + (wordAt bytes ptr).toNat := by
  by_cases inside : ptr + 4 ≤ bytes.length
  · unfold decodeField at decoded
    rw [decodeNet32_inside inside] at decoded
    by_cases small : (wordAt bytes ptr).toNat < 2 ^ 31
    · obtain ⟨len, found, decoded⟩ := bind_ok decoded
      obtain rfl := Except.ok.inj found
      obtain ⟨text, _, returned⟩ := bind_ok decoded
      obtain rfl := Except.ok.inj returned
      exact ⟨inside, small, rfl⟩
    · have bound := (wordAt bytes ptr).toNat_lt
      have negative : ¬ 0 ≤ asInt32 (wordAt bytes ptr) := by
        simp only [asInt32, small, ↓reduceIte]
        omega
      simp [bind, Except.bind, decodeStr, negative] at decoded
  · unfold decodeField at decoded
    rw [decodeNet32_outside (by omega)] at decoded
    cases decoded

/-- Behind a length word with room for it, the buffer continues with a string's image. -/
theorem drop_fieldImage (room : ptr + 4 + (wordAt bytes ptr).toNat ≤ bytes.length) :
    bytes.drop ptr =
      fieldImage ((bytes.drop (ptr + 4)).take (wordAt bytes ptr).toNat) ++
        bytes.drop (ptr + 4 + (wordAt bytes ptr).toNat) := by
  have size : ((bytes.drop (ptr + 4)).take (wordAt bytes ptr).toNat).length =
      (wordAt bytes ptr).toNat := by
    simp
    omega
  rw [fieldImage, size, UInt32.ofNat_toNat, drop_wordAt (by omega), List.append_assoc]
  rw [show bytes.drop (ptr + 4 + (wordAt bytes ptr).toNat) =
    (bytes.drop (ptr + 4)).drop (wordAt bytes ptr).toNat from List.drop_drop.symm,
    List.take_append_drop]

/-- A received request is decoded field by field; early data is what its header length
leaves of the buffer. -/
theorem unstream_image (beyond : Memory) (request sent : VRequest) (rest : Bytes)
    (userName : sent.userName.length < 2 ^ 31) (password : sent.password.length < 2 ^ 31)
    (address : sent.address.length < 2 ^ 31)
    (exact : sent.header.len.toNat = sent.image.length) (fresh : request.packedBuff = []) :
    request.unstream (sent.image ++ rest) beyond =
      .ok (true, { sent with packedBuff := rest }) := by
  have size := sent.image_length
  have layout : sent.image ++ rest = vIdentifier ++ ([sent.header.version] ++
      (be32 sent.header.len ++ (fieldImage sent.userName ++ (fieldImage sent.password ++
        (fieldImage sent.address ++ (be16 sent.port ++ rest)))))) := by
    simp only [image, List.append_assoc]
  have total : (sent.image ++ rest).length = sent.image.length + rest.length :=
    List.length_append
  have early : (Memory.ofBytes (sent.image ++ rest) beyond).loadBytes
      (19 + sent.userName.length + 4 + sent.password.length + 4 + sent.address.length + 2)
      rest.length = .ok rest :=
    Memory.loadBytes_part (show sent.image ++ rest = sent.image ++ (rest ++ []) by simp)
      (by omega) rfl
  generalize sent.image ++ rest = buf at layout total early ⊢
  have version : (Memory.ofBytes buf beyond).load identifierLen = .ok sent.header.version :=
    Memory.load_part _ layout rfl
  have len : decodeNet32 (Memory.ofBytes buf beyond) (identifierLen + 1) =
      .ok sent.header.len := by
    rw [decodeNet32_inside (by simp only [identifierLen]; omega)]
    exact congrArg _ (wordAt_part (vIdentifier ++ [sent.header.version])
      sent.header.len (by rw [layout, List.append_assoc]) rfl)
  have first : decodeField (Memory.ofBytes buf beyond) (identifierLen + 1 + 4) =
      .ok (sent.userName, 19 + sent.userName.length) :=
    decodeField_part (vIdentifier ++ ([sent.header.version] ++ be32 sent.header.len))
      (by rw [layout]; simp only [List.append_assoc]; rfl) rfl userName
  have second : decodeField (Memory.ofBytes buf beyond) (19 + sent.userName.length) =
      .ok (sent.password, 19 + sent.userName.length + 4 + sent.password.length) :=
    decodeField_part (vIdentifier ++ ([sent.header.version] ++ (be32 sent.header.len ++
        fieldImage sent.userName)))
      (by rw [layout]; simp only [List.append_assoc]; rfl)
      (by simp [vIdentifier]; omega) password
  have third : decodeField (Memory.ofBytes buf beyond)
      (19 + sent.userName.length + 4 + sent.password.length) =
      .ok (sent.address, 19 + sent.userName.length + 4 + sent.password.length + 4 +
        sent.address.length) :=
    decodeField_part (vIdentifier ++ ([sent.header.version] ++ (be32 sent.header.len ++
        (fieldImage sent.userName ++ fieldImage sent.password))))
      (by rw [layout]; simp only [List.append_assoc]; rfl)
      (by simp [vIdentifier]; omega) address
  have port : decodeNet16 (Memory.ofBytes buf beyond)
      (19 + sent.userName.length + 4 + sent.password.length + 4 + sent.address.length) =
      .ok sent.port :=
    decodeNet16_part (vIdentifier ++ ([sent.header.version] ++ (be32 sent.header.len ++
        (fieldImage sent.userName ++ (fieldImage sent.password ++ fieldImage sent.address)))))
      sent.port (by rw [layout]; simp only [List.append_assoc]; rfl)
      (by simp [vIdentifier]; omega)
  unfold unstream
  rw [if_neg (by simp only [identifierLen]; omega)]
  simp only [version, len, first, second, third, port, bind, Except.bind, exact, total]
  rw [if_neg (by omega)]
  by_cases empty : rest = []
  · subst empty
    simp [fresh]
  · have positive : 0 < rest.length := List.length_pos_of_ne_nil empty
    rw [if_pos (by omega), show sent.image.length + rest.length - sent.image.length =
      rest.length by omega, early]

end VRequest

end Overplus
