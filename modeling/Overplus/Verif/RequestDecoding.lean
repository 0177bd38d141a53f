import Overplus.Protocol.VRequest

/-!
# Decoding of an unauthenticated V request

`unstream` runs on the first bytes a client sends, before any password is checked. Its only
checks are the fifteen-byte minimum and the comparison of the header length with the buffer;
the three inner length words are followed as they are. `SafeDecode` states what a caller needs
of a decoding, and `unstream_safe_iff` gives the buffers on which the code delivers it:
those refused by the two checks, and those whose header length is the sum of their inner ones.
-/
namespace Overplus.Verif.RequestDecoding

open VRequest Coding

/-- A decoded request accounts for every byte of its buffer, and its header length is the
number of bytes in front of the early data. -/
structure WellDecoded (buf : Bytes) (decoded : VRequest) : Prop where
  /-- The buffer is the request followed by its early data. -/
  layout : buf = decoded.image ++ decoded.packedBuff
  /-- Early data starts where the header length says. -/
  headerLen : decoded.header.len.toNat = decoded.image.length

/-- The decoding of a buffer alone in memory returns: false, or true with the buffer decoded. -/
def SafeDecode (request : VRequest) (buf : Bytes) : Prop :=
  (∃ left, request.unstream buf Memory.unmapped = .ok (false, left)) ∨
    ∃ decoded, request.unstream buf Memory.unmapped = .ok (true, decoded) ∧
      WellDecoded buf decoded

/-- The declared header length. -/
def declaredLen (buf : Bytes) : Nat := (wordAt buf 11).toNat

/-- The declared length of the user name. -/
def userNameLen (buf : Bytes) : Nat := (wordAt buf 15).toNat

/-- The declared length of the password, found behind the user name. -/
def passwordLen (buf : Bytes) : Nat := (wordAt buf (19 + userNameLen buf)).toNat

/-- The declared length of the address, found behind the password. -/
def addressLen (buf : Bytes) : Nat :=
  (wordAt buf (19 + userNameLen buf + 4 + passwordLen buf)).toNat

/-- The declared lengths agree: none is negative as an `int`, and the header length is the
sum of the fixed parts and the three strings. -/
def LengthsAgree (buf : Bytes) : Prop :=
  userNameLen buf < 2 ^ 31 ∧ passwordLen buf < 2 ^ 31 ∧ addressLen buf < 2 ^ 31 ∧
    declaredLen buf = 29 + userNameLen buf + passwordLen buf + addressLen buf

/-- The two checks passed, the rest of `unstream` reads the three strings and the port. -/
theorem unstream_fields {request decoded : VRequest} {buf : Bytes} {accepted : Bool}
    (long : 15 ≤ buf.length) (declared : declaredLen buf ≤ buf.length)
    (run : request.unstream buf Memory.unmapped = .ok (accepted, decoded)) :
    accepted = true ∧ userNameLen buf < 2 ^ 31 ∧ passwordLen buf < 2 ^ 31 ∧
      addressLen buf < 2 ^ 31 := by
  unfold unstream at run
  rw [if_neg (by simp only [identifierLen]; omega)] at run
  obtain ⟨version, _, run⟩ := bind_ok run
  obtain ⟨len, lenRead, run⟩ := bind_ok run
  rw [decodeNet32_inside (by simp only [identifierLen]; omega)] at lenRead
  obtain rfl := Except.ok.inj lenRead
  rw [if_neg (by simpa [declaredLen, identifierLen] using declared)] at run
  obtain ⟨⟨userName, ptr⟩, first, run⟩ := bind_ok run
  obtain ⟨_, userNameSmall, rfl⟩ := decodeField_ok first
  obtain ⟨⟨password, ptr⟩, second, run⟩ := bind_ok run
  obtain ⟨_, passwordSmall, rfl⟩ := decodeField_ok second
  obtain ⟨⟨address, ptr⟩, third, run⟩ := bind_ok run
  obtain ⟨_, addressSmall, rfl⟩ := decodeField_ok third
  obtain ⟨port, _, run⟩ := bind_ok run
  refine ⟨?_, userNameSmall, passwordSmall, addressSmall⟩
  split at run
  · obtain ⟨packedBuff, _, run⟩ := bind_ok run
    cases run
    rfl
  · cases run
    rfl

/-- The lengths declared by a well-decoded buffer are those of its strings. -/
theorem declared_of_wellDecoded {buf : Bytes} {decoded : VRequest}
    (well : WellDecoded buf decoded) :
    declaredLen buf = decoded.header.len.toNat ∧ userNameLen buf = decoded.userName.length ∧
      passwordLen buf = decoded.password.length ∧ addressLen buf = decoded.address.length := by
  have size := decoded.image_length
  have bound := decoded.header.len.toNat_lt
  have total := well.headerLen
  have exact (text : Bytes) (small : text.length < 2 ^ 32) :
      (UInt32.ofNat text.length).toNat = text.length := by
    simp only [UInt32.toNat_ofNat']
    omega
  have layout : buf = vIdentifier ++ ([decoded.header.version] ++ (be32 decoded.header.len ++
      (be32 (UInt32.ofNat decoded.userName.length) ++ (decoded.userName ++
        (be32 (UInt32.ofNat decoded.password.length) ++ (decoded.password ++
          (be32 (UInt32.ofNat decoded.address.length) ++ (decoded.address ++
            (be16 decoded.port ++ decoded.packedBuff))))))))) := by
    rw [well.layout]
    simp only [image, fieldImage, List.append_assoc]
  have declared : declaredLen buf = decoded.header.len.toNat := by
    exact congrArg UInt32.toNat (wordAt_part (vIdentifier ++ [decoded.header.version])
      decoded.header.len (by rw [layout, List.append_assoc]) rfl)
  have userName : userNameLen buf = decoded.userName.length := by
    have word : wordAt buf 15 = UInt32.ofNat decoded.userName.length :=
      wordAt_part (vIdentifier ++ ([decoded.header.version] ++ be32 decoded.header.len)) _
        (by rw [layout]; simp only [List.append_assoc]; rfl) rfl
    rw [userNameLen, word]
    exact exact _ (by omega)
  have password : passwordLen buf = decoded.password.length := by
    unfold passwordLen
    rw [userName, wordAt_part
      (vIdentifier ++ ([decoded.header.version] ++ (be32 decoded.header.len ++
        (be32 (UInt32.ofNat decoded.userName.length) ++ decoded.userName))))
      (UInt32.ofNat decoded.password.length)
      (by rw [layout]; simp only [List.append_assoc]; rfl) (by simp [vIdentifier]; omega)]
    exact exact _ (by omega)
  have address : addressLen buf = decoded.address.length := by
    unfold addressLen
    rw [userName, password, wordAt_part
      (vIdentifier ++ ([decoded.header.version] ++ (be32 decoded.header.len ++
        (be32 (UInt32.ofNat decoded.userName.length) ++ (decoded.userName ++
          (be32 (UInt32.ofNat decoded.password.length) ++ decoded.password))))))
      (UInt32.ofNat decoded.address.length)
      (by rw [layout]; simp only [List.append_assoc]; rfl) (by simp [vIdentifier]; omega)]
    exact exact _ (by omega)
  exact ⟨declared, userName, password, address⟩

/-- The request a buffer with agreeing lengths holds, cut at its declared lengths. -/
def cutRequest (buf : Bytes) : VRequest where
  header := { version := buf.getD 10 0, len := wordAt buf 11 }
  userName := (buf.drop 19).take (userNameLen buf)
  password := (buf.drop (23 + userNameLen buf)).take (passwordLen buf)
  address := (buf.drop (27 + userNameLen buf + passwordLen buf)).take (addressLen buf)
  port := ofBe16 (buf.getD (27 + userNameLen buf + passwordLen buf + addressLen buf) 0)
    (buf.getD (28 + userNameLen buf + passwordLen buf + addressLen buf) 0)

/-- A buffer whose lengths agree and fit is the image of the request cut from it, followed by
the bytes behind the declared header. -/
theorem cutRequest_layout {buf : Bytes} (identified : isVProtocol buf = true)
    (declared : declaredLen buf ≤ buf.length) (agree : LengthsAgree buf) :
    buf = (cutRequest buf).image ++ buf.drop (declaredLen buf) := by
  obtain ⟨_, _, _, total⟩ := agree
  have identifier : buf.take 10 = vIdentifier := by
    simpa [isVProtocol, identifierLen] using identified
  have version : buf.drop 10 = [buf.getD 10 0] ++ buf.drop 11 := by
    rw [List.drop_eq_getElem_cons (by omega : 10 < buf.length), List.getD_eq_getElem _ _ (by omega)]
    rfl
  have len : buf.drop 11 = be32 (wordAt buf 11) ++ buf.drop 15 := drop_wordAt (by omega)
  have userName : buf.drop 15 = fieldImage (cutRequest buf).userName ++
      buf.drop (19 + userNameLen buf) :=
    drop_fieldImage (by unfold userNameLen at total; omega)
  have password : buf.drop (19 + userNameLen buf) = fieldImage (cutRequest buf).password ++
      buf.drop (23 + userNameLen buf + passwordLen buf) := by
    have split := drop_fieldImage
      (show 19 + userNameLen buf + 4 + passwordLen buf ≤ buf.length by omega)
    change _ = fieldImage (List.take (passwordLen buf) _) ++
      List.drop (_ + passwordLen buf) buf at split
    rw [show 19 + userNameLen buf + 4 = 23 + userNameLen buf by omega] at split
    exact split
  have address : buf.drop (23 + userNameLen buf + passwordLen buf) =
      fieldImage (cutRequest buf).address ++
        buf.drop (27 + userNameLen buf + passwordLen buf + addressLen buf) := by
    have split := drop_fieldImage
      (show 19 + userNameLen buf + 4 + passwordLen buf + 4 + addressLen buf ≤ buf.length by omega)
    change _ = fieldImage (List.take (addressLen buf) _) ++
      List.drop (_ + addressLen buf) buf at split
    rw [show 19 + userNameLen buf + 4 + passwordLen buf + 4 =
      27 + userNameLen buf + passwordLen buf by omega,
      show 19 + userNameLen buf + 4 + passwordLen buf =
      23 + userNameLen buf + passwordLen buf by omega] at split
    exact split
  have port : buf.drop (27 + userNameLen buf + passwordLen buf + addressLen buf) =
      be16 (cutRequest buf).port ++ buf.drop (declaredLen buf) := by
    rw [show (cutRequest buf).port = ofBe16 _ _ from rfl, be16_ofBe16,
      List.getD_eq_getElem _ _ (by omega), List.getD_eq_getElem _ _ (by omega)]
    rw [List.drop_eq_getElem_cons (by omega), List.drop_eq_getElem_cons (by omega)]
    simp only [List.cons_append, List.nil_append, List.cons.injEq, true_and]
    exact ⟨by congr 1; omega, by congr 1; omega⟩
  calc buf = buf.take 10 ++ buf.drop 10 := (List.take_append_drop 10 buf).symm
    _ = _ := by
      rw [identifier, version, len, userName, password, address, port]
      simp only [image, cutRequest, List.append_assoc]

/-- A buffer shorter than the fixed part of the header is refused. -/
theorem unstream_short (request : VRequest) {buf : Bytes} (short : buf.length < 15) :
    request.unstream buf Memory.unmapped = .ok (false, request) := by
  unfold unstream
  rw [if_pos (by simpa [identifierLen] using short)]

/-- A buffer shorter than its declared header is refused. -/
theorem unstream_refused (request : VRequest) {buf : Bytes} (long : 15 ≤ buf.length)
    (refused : buf.length < declaredLen buf) :
    ∃ left, request.unstream buf Memory.unmapped = .ok (false, left) := by
  have version : (Memory.ofBytes buf Memory.unmapped).load identifierLen =
      .ok (buf.getD identifierLen 0) := Memory.load_getD (by simp only [identifierLen]; omega)
  have len : decodeNet32 (Memory.ofBytes buf Memory.unmapped) (identifierLen + 1) =
      .ok (wordAt buf (identifierLen + 1)) :=
    decodeNet32_inside (by simp only [identifierLen]; omega)
  unfold unstream
  rw [if_neg (by simp only [identifierLen]; omega)]
  simp only [version, len, bind, Except.bind]
  rw [if_pos (by simpa [declaredLen, identifierLen] using refused)]
  exact ⟨_, rfl⟩

/-- A buffer whose lengths agree and fit is decoded into the request cut from it. -/
theorem unstream_agree (request : VRequest) (fresh : request.packedBuff = []) {buf : Bytes}
    (identified : isVProtocol buf = true) (declared : declaredLen buf ≤ buf.length)
    (agree : LengthsAgree buf) :
    ∃ decoded, request.unstream buf Memory.unmapped = .ok (true, decoded) ∧
      WellDecoded buf decoded := by
  have layout := cutRequest_layout identified declared agree
  obtain ⟨userName, password, address, total⟩ := agree
  have cut (text : Bytes) (count : Nat) : (text.take count).length ≤ count :=
    List.length_take_le _ _
  have exact : (cutRequest buf).header.len.toNat = (cutRequest buf).image.length := by
    have whole := congrArg List.length layout
    rw [List.length_append, List.length_drop] at whole
    change declaredLen buf = _
    omega
  have run := unstream_image Memory.unmapped request (cutRequest buf)
    (buf.drop (declaredLen buf)) (lt_of_le_of_lt (cut _ _) userName)
    (lt_of_le_of_lt (cut _ _) password) (lt_of_le_of_lt (cut _ _) address) exact fresh
  rw [← layout] at run
  exact ⟨_, run, ⟨layout, exact⟩⟩

/-- **When a received V request is decoded safely.** On a buffer that starts with the
identifier, alone in memory, `unstream` returns false, or true with the buffer decoded, exactly
when the buffer is shorter than fifteen bytes, is shorter than its declared header length,
or declares lengths that agree. On every other buffer it reads outside the buffer, asks for
a negative length, or misplaces the early data. -/
theorem unstream_safe_iff (request : VRequest) (fresh : request.packedBuff = []) (buf : Bytes)
    (identified : isVProtocol buf = true) :
    SafeDecode request buf ↔
      buf.length < 15 ∨ buf.length < declaredLen buf ∨ LengthsAgree buf := by
  constructor
  · intro safe
    by_cases short : buf.length < 15
    · exact .inl short
    by_cases refused : buf.length < declaredLen buf
    · exact .inr (.inl refused)
    refine .inr (.inr ?_)
    rcases safe with ⟨left, run⟩ | ⟨decoded, run, well⟩
    · have fields := unstream_fields (by omega) (by omega) run
      cases fields.1
    · obtain ⟨_, userName, password, address⟩ := unstream_fields (by omega) (by omega) run
      obtain ⟨declared, userNameEq, passwordEq, addressEq⟩ := declared_of_wellDecoded well
      refine ⟨userName, password, address, ?_⟩
      rw [declared, well.headerLen, image_length, userNameEq, passwordEq, addressEq]
  · intro condition
    by_cases short : buf.length < 15
    · exact .inl ⟨request, unstream_short request short⟩
    by_cases refused : buf.length < declaredLen buf
    · exact .inl (unstream_refused request (by omega) refused)
    rcases condition with case | case | agree
    · exact absurd case short
    · exact absurd case refused
    · exact .inr (unstream_agree request fresh identified (by omega) agree)

/-- A request of the user `me` with password `pw` for port 443 of `a.b`. -/
def sampleRequest : VRequest where
  userName := [0x6d, 0x65]
  password := [0x70, 0x77]
  address := [0x61, 0x2e, 0x62]
  port := 443

/-- The request with early data behind it meets the condition. -/
theorem unstream_safe_early_data : SafeDecode {} ((sampleRequest.stream []).2 ++ [7, 8]) :=
  (unstream_safe_iff {} rfl _ (by decide)).mpr (.inr (.inr (by unfold LengthsAgree; decide)))

/-- Fifteen bytes that declare a header of fifteen bytes pass both checks, and the length word
of the user name is then read behind the buffer. -/
theorem unstream_unsafe :
    isVProtocol (vIdentifier ++ [1] ++ be32 15) = true ∧
      ¬ SafeDecode {} (vIdentifier ++ [1] ++ be32 15) := by
  refine ⟨by decide, ?_⟩
  have run : unstream {} (vIdentifier ++ [1] ++ be32 15) Memory.unmapped =
      .error .outOfBounds := by decide
  rintro (⟨left, returned⟩ | ⟨decoded, returned, _⟩)
  · rw [run] at returned
    cases returned
  · rw [run] at returned
    cases returned

end Overplus.Verif.RequestDecoding
