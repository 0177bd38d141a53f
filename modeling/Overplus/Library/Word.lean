import Overplus.Library.Bytes

/-!
# Machine words and their bytes

Words of sixteen and thirty-two bits are assembled from bytes by shifts and bitwise or.
Each assembly is first read as a natural number, where the bytes occupy disjoint columns;
every law between a word and its bytes follows from that reading. Unsigned sizes have
sixty-four bits and wrap, and equal their natural results while these stay in range.
-/
namespace Overplus

/-- A word from its two bytes, the high byte first. -/
def ofBe16 (high low : UInt8) : UInt16 := high.toUInt16 <<< 8 ||| low.toUInt16

/-- The two bytes of a word, the high byte first. -/
def be16 (word : UInt16) : Bytes := [(word >>> 8).toUInt8, word.toUInt8]

/-- A word from its four bytes, the low byte first. -/
def ofLe32 (first second third fourth : UInt8) : UInt32 :=
  first.toUInt32 ||| second.toUInt32 <<< 8 ||| third.toUInt32 <<< 16 ||| fourth.toUInt32 <<< 24

/-- The four bytes of a word, the low byte first. -/
def le32 (word : UInt32) : Bytes :=
  [word.toUInt8, (word >>> 8).toUInt8, (word >>> 16).toUInt8, (word >>> 24).toUInt8]

/-- The four bytes of a word, the high byte first. -/
def be32 (word : UInt32) : Bytes := (le32 word).reverse

@[simp]
theorem be16_length (word : UInt16) : (be16 word).length = 2 := rfl

@[simp]
theorem be32_length (word : UInt32) : (be32 word).length = 4 := rfl

/-- Disjoint columns are joined by addition. -/
theorem or_shiftLeft_eq_add (low high width : Nat) (fits : low < 2 ^ width) :
    low ||| high <<< width = low + high * 2 ^ width := by
  rw [Nat.or_comm, ← Nat.shiftLeft_add_eq_or_of_lt fits, Nat.shiftLeft_eq, Nat.add_comm]

/-- Two bytes denote the sum of their columns. -/
theorem ofBe16_toNat (high low : UInt8) :
    (ofBe16 high low).toNat = high.toNat * 256 + low.toNat := by
  have highBound := high.toNat_lt
  have lowBound := low.toNat_lt
  have columns := or_shiftLeft_eq_add low.toNat high.toNat 8 lowBound
  have column : high.toNat <<< 8 % 2 ^ 16 = high.toNat <<< 8 := by
    rw [Nat.shiftLeft_eq]
    omega
  simp only [ofBe16, UInt16.toNat_or, UInt16.toNat_shiftLeft, UInt8.toNat_toUInt16]
  change high.toNat <<< 8 % 2 ^ 16 ||| low.toNat = _
  rw [column, Nat.or_comm, columns]
  omega

/-- Four bytes denote the sum of their columns. -/
theorem ofLe32_toNat (first second third fourth : UInt8) :
    (ofLe32 first second third fourth).toNat =
      first.toNat + second.toNat * 2 ^ 8 + third.toNat * 2 ^ 16 + fourth.toNat * 2 ^ 24 := by
  have firstBound := first.toNat_lt
  have secondBound := second.toNat_lt
  have thirdBound := third.toNat_lt
  have fourthBound := fourth.toNat_lt
  have column (byte width : Nat) (small : byte < 256) (inside : width ≤ 24) :
      byte <<< width % 2 ^ 32 = byte <<< width := by
    rw [Nat.shiftLeft_eq]
    apply Nat.mod_eq_of_lt
    calc byte * 2 ^ width < 256 * 2 ^ width := Nat.mul_lt_mul_of_pos_right small (by positivity)
      _ ≤ 256 * 2 ^ 24 := Nat.mul_le_mul_left _ (Nat.pow_le_pow_right (by decide) inside)
      _ = 2 ^ 32 := by decide
  simp only [ofLe32, UInt32.toNat_or, UInt32.toNat_shiftLeft, UInt8.toNat_toUInt32]
  change first.toNat ||| second.toNat <<< 8 % 2 ^ 32 ||| third.toNat <<< 16 % 2 ^ 32 |||
    fourth.toNat <<< 24 % 2 ^ 32 = _
  rw [column _ 8 secondBound (by decide), column _ 16 thirdBound (by decide),
    column _ 24 fourthBound (by decide)]
  rw [or_shiftLeft_eq_add _ _ 8 (by omega), or_shiftLeft_eq_add _ _ 16 (by omega),
    or_shiftLeft_eq_add _ _ 24 (by omega)]

/-- A byte of a word is the digit of its column. -/
theorem toUInt8_shiftRight_toNat (word shift : UInt32) (small : shift.toNat < 32) :
    (word >>> shift).toUInt8.toNat = word.toNat / 2 ^ shift.toNat % 256 := by
  simp only [UInt32.toNat_toUInt8, UInt32.toNat_shiftRight, Nat.shiftRight_eq_div_pow,
    Nat.mod_eq_of_lt small]

/-- The bytes of a word assemble to the word. -/
theorem ofLe32_le32 (word : UInt32) :
    ofLe32 word.toUInt8 (word >>> 8).toUInt8 (word >>> 16).toUInt8 (word >>> 24).toUInt8 =
      word := by
  apply UInt32.toNat_inj.mp
  have bound := word.toNat_lt
  have first : word.toUInt8.toNat = word.toNat % 256 := UInt32.toNat_toUInt8 word
  have second := toUInt8_shiftRight_toNat word 8 (by decide)
  have third := toUInt8_shiftRight_toNat word 16 (by decide)
  have fourth := toUInt8_shiftRight_toNat word 24 (by decide)
  rw [ofLe32_toNat, first, second, third, fourth]
  change _ + word.toNat / 2 ^ 8 % 256 * 2 ^ 8 + word.toNat / 2 ^ 16 % 256 * 2 ^ 16 +
    word.toNat / 2 ^ 24 % 256 * 2 ^ 24 = _
  omega

/-- An assembled word has the bytes it was assembled from. -/
theorem le32_ofLe32 (first second third fourth : UInt8) :
    le32 (ofLe32 first second third fourth) = [first, second, third, fourth] := by
  have value := ofLe32_toNat first second third fourth
  have firstBound := first.toNat_lt
  have secondBound := second.toNat_lt
  have thirdBound := third.toNat_lt
  have fourthBound := fourth.toNat_lt
  simp only [le32, List.cons.injEq, and_true]
  refine ⟨?_, ?_, ?_, ?_⟩ <;> apply UInt8.toNat_inj.mp
  · rw [UInt32.toNat_toUInt8]
    omega
  · rw [toUInt8_shiftRight_toNat _ 8 (by decide)]
    change _ / 2 ^ 8 % 256 = _
    omega
  · rw [toUInt8_shiftRight_toNat _ 16 (by decide)]
    change _ / 2 ^ 16 % 256 = _
    omega
  · rw [toUInt8_shiftRight_toNat _ 24 (by decide)]
    change _ / 2 ^ 24 % 256 = _
    omega

/-- The bytes of a sixteen-bit word assemble to the word. -/
theorem ofBe16_be16 (word : UInt16) :
    ofBe16 (word >>> 8).toUInt8 word.toUInt8 = word := by
  apply UInt16.toNat_inj.mp
  have bound := word.toNat_lt
  rw [ofBe16_toNat]
  simp only [UInt16.toNat_toUInt8, UInt16.toNat_shiftRight, Nat.shiftRight_eq_div_pow]
  change word.toNat / 2 ^ 8 % 2 ^ 8 * 256 + word.toNat % 2 ^ 8 = word.toNat
  omega

/-- An assembled sixteen-bit word has the bytes it was assembled from. -/
theorem be16_ofBe16 (high low : UInt8) : be16 (ofBe16 high low) = [high, low] := by
  have value := ofBe16_toNat high low
  have highBound := high.toNat_lt
  have lowBound := low.toNat_lt
  simp only [be16, List.cons.injEq, and_true]
  constructor <;> apply UInt8.toNat_inj.mp
  · simp only [UInt16.toNat_toUInt8, UInt16.toNat_shiftRight, Nat.shiftRight_eq_div_pow]
    change _ / 2 ^ 8 % 2 ^ 8 = _
    omega
  · rw [UInt16.toNat_toUInt8]
    omega

/-- A sixteen-bit word is known by its bytes. -/
theorem be16_injective {word other : UInt16} (same : be16 word = be16 other) : word = other := by
  simp only [be16, List.cons.injEq, and_true] at same
  rw [← ofBe16_be16 word, same.1, same.2, ofBe16_be16]

/-- Two bytes inside a string are the bytes of the word read there. -/
theorem drop_be16 {bytes : Bytes} {start : Nat} (inside : start + 2 ≤ bytes.length) :
    bytes.drop start = be16 (ofBe16 (bytes.getD start 0) (bytes.getD (start + 1) 0)) ++
      bytes.drop (start + 2) := by
  rw [be16_ofBe16, List.getD_eq_getElem _ _ (by omega : start < bytes.length),
    List.getD_eq_getElem _ _ (by omega : start + 1 < bytes.length),
    List.drop_eq_getElem_cons (by omega : start < bytes.length),
    List.drop_eq_getElem_cons (by omega : start + 1 < bytes.length)]
  rfl

/-- A sixteen-bit word written after a known prefix is read at that prefix's length. -/
theorem ofBe16_part {bytes back : Bytes} {start : Nat} (front : Bytes) (word : UInt16)
    (layout : bytes = front ++ (be16 word ++ back)) (position : start = front.length) :
    ofBe16 (bytes.getD start 0) (bytes.getD (start + 1) 0) = word := by
  have byte (offset : Nat) : bytes.getD (start + offset) 0 = (be16 word ++ back).getD offset 0 := by
    rw [List.getD_eq_getElem?_getD, List.getD_eq_getElem?_getD, layout, position,
      List.getElem?_append_right (Nat.le_add_right _ _), Nat.add_sub_cancel_left]
  have first := byte 0
  rw [Nat.add_zero] at first
  rw [first, byte 1]
  exact ofBe16_be16 word

/-- Two's-complement reading of a thirty-two-bit word. -/
def asInt32 (word : UInt32) : Int :=
  if word.toNat < 2 ^ 31 then word.toNat else word.toNat - 2 ^ 32

/-- A length below two gigabytes is its own signed reading. -/
theorem asInt32_ofNat {value : Nat} (small : value < 2 ^ 31) :
    asInt32 (UInt32.ofNat value) = value := by
  have exact : (UInt32.ofNat value).toNat = value := by
    rw [UInt32.toNat_ofNat']
    exact Nat.mod_eq_of_lt (by omega)
  rw [asInt32, exact, if_pos small]

/-- The big-endian word at an offset; bytes past the end count as zero. -/
def wordAt (bytes : Bytes) (start : Nat) : UInt32 :=
  ofLe32 (bytes.getD (start + 3) 0) (bytes.getD (start + 2) 0) (bytes.getD (start + 1) 0)
    (bytes.getD start 0)

/-- A word found inside a string is there as its four bytes. -/
theorem drop_wordAt {bytes : Bytes} {start : Nat} (inside : start + 4 ≤ bytes.length) :
    bytes.drop start = be32 (wordAt bytes start) ++ bytes.drop (start + 4) := by
  unfold wordAt be32
  rw [le32_ofLe32, List.getD_eq_getElem _ _ (by omega : start < bytes.length),
    List.getD_eq_getElem _ _ (by omega : start + 1 < bytes.length),
    List.getD_eq_getElem _ _ (by omega : start + 2 < bytes.length),
    List.getD_eq_getElem _ _ (by omega : start + 3 < bytes.length)]
  rw [List.drop_eq_getElem_cons (by omega : start < bytes.length),
    List.drop_eq_getElem_cons (by omega : start + 1 < bytes.length),
    List.drop_eq_getElem_cons (by omega : start + 1 + 1 < bytes.length),
    List.drop_eq_getElem_cons (by omega : start + 1 + 1 + 1 < bytes.length)]
  rfl

/-- A word written after a known prefix is found at that prefix's length. -/
theorem wordAt_part {bytes back : Bytes} {start : Nat} (front : Bytes) (word : UInt32)
    (layout : bytes = front ++ (be32 word ++ back)) (position : start = front.length) :
    wordAt bytes start = word := by
  have byte (offset : Nat) : bytes.getD (start + offset) 0 = (be32 word ++ back).getD offset 0 := by
    rw [List.getD_eq_getElem?_getD, List.getD_eq_getElem?_getD, layout, position,
      List.getElem?_append_right (Nat.le_add_right _ _), Nat.add_sub_cancel_left]
  have first := byte 0
  rw [Nat.add_zero] at first
  rw [wordAt, byte 3, byte 2, byte 1, first]
  exact ofLe32_le32 word

/-- Unsigned sizes have sixty-four bits. -/
@[irreducible]
def sizeModulus : Nat := 2 ^ 64

/-- Sum of two sizes, modulo the word. -/
def sizeAdd (left right : Nat) : Nat := (left + right) % sizeModulus

/-- Difference of two sizes; below zero it wraps to the top of the word. -/
def sizeSub (left right : Nat) : Nat := (left + sizeModulus - right) % sizeModulus

/-- A sum inside the word is exact. -/
theorem sizeAdd_exact {left right : Nat} (fits : left + right < sizeModulus) :
    sizeAdd left right = left + right := Nat.mod_eq_of_lt fits

/-- A difference that does not go below zero is exact. -/
theorem sizeSub_exact {left right : Nat} (ordered : right ≤ left) (fits : left < sizeModulus) :
    sizeSub left right = left - right := by
  unfold sizeSub
  rw [show left + sizeModulus - right = left - right + sizeModulus by omega, Nat.add_mod_right]
  exact Nat.mod_eq_of_lt (by omega)

/-- An unsigned counter that remembers whether it was ever taken below zero. -/
structure Counter where
  /-- The stored size. -/
  value : Nat
  /-- Some subtraction wrapped. -/
  wrapped : Bool := false
deriving DecidableEq, Repr

/-- Subtract from a counter. -/
def Counter.sub (counter : Counter) (amount : Nat) : Counter :=
  ⟨sizeSub counter.value amount, counter.wrapped || decide (counter.value < amount)⟩

/-- A subtraction the counter covers is exact and does not wrap. -/
theorem Counter.sub_exact {value amount : Nat} (covered : amount ≤ value)
    (fits : value < sizeModulus) : Counter.sub ⟨value, false⟩ amount = ⟨value - amount, false⟩ := by
  simp [Counter.sub, sizeSub_exact covered fits, covered]

end Overplus
