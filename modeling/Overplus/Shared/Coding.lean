import Overplus.Library.Word

/-!
# Field coding (`Shared/Coding.cpp`)

The encoders append to a string; the decoders read through a pointer, here an index into a
memory. Fixed-width integers are stored low byte first. `htonl` and `htons` are those of a
little-endian host: the result has in memory the bytes of the argument reversed, so a word
converted and then encoded is on the wire with its high byte first.
-/
namespace Overplus.Coding

/-- `Coding::EncodeFixed8`. -/
def encodeFixed8 (buf : Bytes) (value : UInt8) : Bytes := buf ++ [value]

/-- `Coding::EncodeFixed16`. -/
def encodeFixed16 (dst : Bytes) (value : UInt16) : Bytes :=
  dst ++ [value.toUInt8, (value >>> 8).toUInt8]

/-- `Coding::EncodeFixed32`. -/
def encodeFixed32 (dst : Bytes) (value : UInt32) : Bytes :=
  dst ++ [value.toUInt8, (value >>> 8).toUInt8, (value >>> 16).toUInt8, (value >>> 24).toUInt8]

/-- `Coding::EncodeStr` and `Coding::EncodeCstr`. -/
def encodeStr (dst src : Bytes) : Bytes := dst ++ src

/-- `Coding::DecodeFixed16`. -/
def decodeFixed16 (memory : Memory) (ptr : Nat) : Except Fault UInt16 := do
  let first ← memory.load ptr
  let second ← memory.load (ptr + 1)
  .ok (first.toUInt16 ||| second.toUInt16 <<< 8)

/-- `Coding::DecodeFixed32`. -/
def decodeFixed32 (memory : Memory) (ptr : Nat) : Except Fault UInt32 := do
  let first ← memory.load ptr
  let second ← memory.load (ptr + 1)
  let third ← memory.load (ptr + 2)
  let fourth ← memory.load (ptr + 3)
  .ok (first.toUInt32 ||| second.toUInt32 <<< 8 ||| third.toUInt32 <<< 16 |||
    fourth.toUInt32 <<< 24)

/-- `Coding::DecodeStr`. A negative length converts to a size above every allocation. -/
def decodeStr (memory : Memory) (ptr : Nat) (len : Int) : Except Fault Bytes :=
  if 0 ≤ len then memory.loadBytes ptr len.toNat else .error .lengthError

/-- `htonl` of a little-endian host. -/
def htonl (word : UInt32) : UInt32 :=
  ofLe32 (word >>> 24).toUInt8 (word >>> 16).toUInt8 (word >>> 8).toUInt8 word.toUInt8

/-- `ntohl` of a little-endian host. -/
def ntohl (word : UInt32) : UInt32 := htonl word

/-- `htons` of a little-endian host. -/
def htons (word : UInt16) : UInt16 := ofBe16 word.toUInt8 (word >>> 8).toUInt8

/-- `ntohs` of a little-endian host. -/
def ntohs (word : UInt16) : UInt16 := htons word

/-- `ntohl(Coding::DecodeFixed32(ptr))`. -/
def decodeNet32 (memory : Memory) (ptr : Nat) : Except Fault UInt32 := do
  let word ← decodeFixed32 memory ptr
  .ok (ntohl word)

/-- `ntohs(Coding::DecodeFixed16(ptr))`. -/
def decodeNet16 (memory : Memory) (ptr : Nat) : Except Fault UInt16 := do
  let word ← decodeFixed16 memory ptr
  .ok (ntohs word)

/-- A word in network order is appended with its high byte first. -/
theorem encodeFixed32_htonl (dst : Bytes) (word : UInt32) :
    encodeFixed32 dst (htonl word) = dst ++ be32 word := by
  have bytes := le32_ofLe32 (word >>> 24).toUInt8 (word >>> 16).toUInt8 (word >>> 8).toUInt8
    word.toUInt8
  change dst ++ le32 (htonl word) = _
  rw [htonl, bytes]
  rfl

/-- A port in network order is appended with its high byte first. -/
theorem encodeFixed16_htons (dst : Bytes) (word : UInt16) :
    encodeFixed16 dst (htons word) = dst ++ be16 word := by
  have bytes := be16_ofBe16 word.toUInt8 (word >>> 8).toUInt8
  simp only [be16, List.cons.injEq, and_true] at bytes
  simp only [encodeFixed16, htons, bytes.1, bytes.2, be16]

variable {bytes back : Bytes} {beyond : Memory} {ptr : Nat}

/-- Reading four bytes and converting them gives the big-endian word found there. -/
theorem decodeNet32_inside (inside : ptr + 4 ≤ bytes.length) :
    decodeNet32 (Memory.ofBytes bytes beyond) ptr = .ok (wordAt bytes ptr) := by
  have swapped := le32_ofLe32 (bytes.getD ptr 0) (bytes.getD (ptr + 1) 0)
    (bytes.getD (ptr + 2) 0) (bytes.getD (ptr + 3) 0)
  simp only [le32, List.cons.injEq, and_true] at swapped
  obtain ⟨first, second, third, fourth⟩ := swapped
  unfold decodeNet32 decodeFixed32
  rw [Memory.load_getD (by omega : ptr < bytes.length),
    Memory.load_getD (by omega : ptr + 1 < bytes.length),
    Memory.load_getD (by omega : ptr + 2 < bytes.length),
    Memory.load_getD (by omega : ptr + 3 < bytes.length)]
  change Except.ok (ntohl (ofLe32 _ _ _ _)) = _
  rw [ntohl, htonl, first, second, third, fourth]
  rfl

/-- Reading four bytes that are not all inside the string faults. -/
theorem decodeNet32_outside (outside : bytes.length < ptr + 4) :
    decodeNet32 (Memory.ofBytes bytes Memory.unmapped) ptr = .error .outOfBounds := by
  have step (index : Nat) : (∃ value, (Memory.ofBytes bytes Memory.unmapped).load index = .ok value)
      ∨ (Memory.ofBytes bytes Memory.unmapped).load index = .error .outOfBounds := by
    by_cases inside : index < bytes.length
    · exact .inl ⟨_, Memory.load_inside inside⟩
    · exact .inr (Memory.load_outside (by omega))
  have last := Memory.load_outside (show bytes.length ≤ ptr + 3 by omega)
  unfold decodeNet32 decodeFixed32
  rcases step ptr with ⟨first, firstRead⟩ | firstRead <;> rw [firstRead]
  · rcases step (ptr + 1) with ⟨second, secondRead⟩ | secondRead <;> rw [secondRead]
    · rcases step (ptr + 2) with ⟨third, thirdRead⟩ | thirdRead <;> rw [thirdRead]
      · rw [last]
        rfl
      · rfl
    · rfl
  · rfl

/-- A port written in network order after a known prefix is read back. -/
theorem decodeNet16_part (front : Bytes) (port : UInt16)
    (layout : bytes = front ++ (be16 port ++ back)) (position : ptr = front.length) :
    decodeNet16 (Memory.ofBytes bytes beyond) ptr = .ok port := by
  have first : (Memory.ofBytes bytes beyond).load ptr = .ok (port >>> 8).toUInt8 :=
    Memory.load_part _ layout position
  have second : (Memory.ofBytes bytes beyond).load (ptr + 1) = .ok port.toUInt8 :=
    Memory.load_part _
      (show bytes = (front ++ [(port >>> 8).toUInt8]) ++ port.toUInt8 :: back by
        simp [layout, be16]) (by simp [position])
  unfold decodeNet16 decodeFixed16
  rw [first, second]
  have word : (port >>> 8).toUInt8.toUInt16 ||| port.toUInt8.toUInt16 <<< 8 =
      ofBe16 port.toUInt8 (port >>> 8).toUInt8 := by
    rw [ofBe16, UInt16.or_comm]
  have bytes := be16_ofBe16 port.toUInt8 (port >>> 8).toUInt8
  simp only [be16, List.cons.injEq, and_true] at bytes
  change Except.ok (ntohs _) = _
  rw [word, ntohs, htons, bytes.1, bytes.2, ofBe16_be16]

end Overplus.Coding
