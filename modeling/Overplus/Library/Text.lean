import Overplus.Library.Bytes

/-!
# Numbers as text

The decimal and hexadecimal texts of numbers, as the bytes of their characters, and the
conversion of a text back to a number.
-/
namespace Overplus

/-- The character of a decimal digit. -/
def decimalDigit (value : Nat) : UInt8 := UInt8.ofNat (48 + value)

/-- Decimal text of a number, without leading zeros. -/
def decimal (value : Nat) : Bytes :=
  if value = 0 then [decimalDigit 0] else (Nat.digits 10 value).reverse.map decimalDigit

/-- Value of a string of decimal digits. -/
def digitsValue (digits : Bytes) : Nat :=
  digits.foldl (fun value digit => 10 * value + (digit.toNat - 48)) 0

/-- The characters of the digits are those from `0` to `9`. -/
theorem decimalDigit_toNat {value : Nat} (digit : value < 10) :
    (decimalDigit value).toNat = 48 + value := by
  rw [decimalDigit, UInt8.toNat_ofNat']
  exact Nat.mod_eq_of_lt (by omega)

/-- The characters of digits have the value of the digits. -/
theorem digitsValue_map {digits : List Nat} (small : ∀ digit ∈ digits, digit < 10) :
    digitsValue (digits.reverse.map decimalDigit) = Nat.ofDigits 10 digits := by
  unfold digitsValue
  rw [List.foldl_map, List.foldl_reverse]
  induction digits with
  | nil => rfl
  | cons digit rest ih =>
    have smaller : ∀ other ∈ rest, other < 10 := fun other member =>
      small other (List.mem_cons_of_mem _ member)
    have value := decimalDigit_toNat (small digit List.mem_cons_self)
    rw [List.foldr_cons, ih smaller, Nat.ofDigits_cons, value]
    change _ = digit + 10 * Nat.ofDigits 10 rest
    omega

/-- The decimal text of a number has the number's value. -/
theorem digitsValue_decimal (value : Nat) : digitsValue (decimal value) = value := by
  unfold decimal
  split
  · rename_i zero
    rw [zero]
    rfl
  · rw [digitsValue_map fun digit member => Nat.digits_lt_base (by decide) member,
      Nat.ofDigits_digits]

/-- Different numbers have different texts. -/
theorem decimal_injective : Function.Injective decimal := by
  intro one other same
  rw [← digitsValue_decimal one, ← digitsValue_decimal other, same]

/-- Every character of a decimal text is a digit. -/
theorem decimal_digits {value : Nat} {octet : UInt8} (member : octet ∈ decimal value) :
    48 ≤ octet.toNat ∧ octet.toNat < 58 := by
  have known {digit : Nat} (small : digit < 10) :
      48 ≤ (decimalDigit digit).toNat ∧ (decimalDigit digit).toNat < 58 := by
    rw [decimalDigit_toNat small]
    omega
  unfold decimal at member
  split at member
  · rw [List.mem_singleton.mp member]
    exact known (by decide)
  · obtain ⟨digit, among, rfl⟩ := List.mem_map.mp member
    exact known (Nat.digits_lt_base (by decide) (List.mem_reverse.mp among))

/-- A separator that is in neither front part splits a text in one way. -/
theorem append_cons_inj {separator : UInt8} {front other back rest : Bytes}
    (clean : separator ∉ front) (free : separator ∉ other)
    (same : front ++ separator :: back = other ++ separator :: rest) :
    front = other ∧ back = rest := by
  rcases List.append_eq_append_iff.mp same with ⟨between, whole, tail⟩ | ⟨between, whole, tail⟩ <;>
    cases between <;> simp_all

/-- A text and a number behind a colon can be told apart: the text of a number has no colon. -/
theorem append_colon_decimal_inj {text other : Bytes} {number second : Nat}
    (same : text ++ [58] ++ decimal number = other ++ [58] ++ decimal second) :
    text = other ∧ number = second := by
  have noColon (value : Nat) : 58 ∉ (decimal value).reverse := by
    intro member
    exact absurd (decimal_digits (List.mem_reverse.mp member)).2 (by decide)
  have turned : (decimal number).reverse ++ 58 :: text.reverse =
      (decimal second).reverse ++ 58 :: other.reverse := by
    simpa using congrArg List.reverse same
  have split := append_cons_inj (noColon number) (noColon second) turned
  exact ⟨List.reverse_injective split.2, decimal_injective (List.reverse_injective split.1)⟩

/-- The character of a lower-case hexadecimal digit. -/
def hexDigit (value : Nat) : UInt8 := UInt8.ofNat (if value < 10 then 48 + value else 87 + value)

/-- Two-digit hexadecimal text of a byte. -/
def hexByte (value : UInt8) : Bytes := [hexDigit (value.toNat / 16), hexDigit (value.toNat % 16)]

/-- Dotted text of four address bytes. -/
def dotted (first second third fourth : UInt8) : Bytes :=
  decimal first.toNat ++ [46] ++ decimal second.toNat ++ [46] ++ decimal third.toNat ++ [46] ++
    decimal fourth.toNat

/-- Different addresses have different dotted texts. -/
theorem dotted_inj {first second third fourth one two three four : UInt8}
    (same : dotted first second third fourth = dotted one two three four) :
    first = one ∧ second = two ∧ third = three ∧ fourth = four := by
  have clean (value : Nat) : (46 : UInt8) ∉ decimal value := fun member =>
    absurd (decimal_digits member).1 (by decide)
  have number {byte other : UInt8} (equal : decimal byte.toNat = decimal other.toNat) :
      byte = other := UInt8.toNat_inj.mp (decimal_injective equal)
  simp only [dotted, List.append_assoc, List.singleton_append] at same
  obtain ⟨firsts, same⟩ := append_cons_inj (clean _) (clean _) same
  obtain ⟨seconds, same⟩ := append_cons_inj (clean _) (clean _) same
  obtain ⟨thirds, fourths⟩ := append_cons_inj (clean _) (clean _) same
  exact ⟨number firsts, number seconds, number thirds, number fourths⟩

/-- The line end, carriage return and line feed. -/
def crlf : Bytes := [13, 10]

/-- The first line end behind a text without one; the text may end with a carriage return. -/
theorem find_append_crlf {front : Bytes} (free : find crlf front = none) (back : Bytes) :
    find crlf (front ++ (crlf ++ back)) = some front.length := by
  induction front with
  | nil => rfl
  | cons head tail ih =>
    rw [find] at free
    split at free
    · cases free
    rename_i other
    have later : ¬ crlf.isPrefixOf (head :: (tail ++ (crlf ++ back))) = true := by
      cases tail with
      | nil => simp [crlf]
      | cons second tail => simpa [crlf] using other
    rw [List.cons_append, find, if_neg later, ih (Option.map_eq_none_iff.mp free)]
    rfl

/-- `isspace` of the default locale. -/
def isSpace (byte : UInt8) : Bool := byte == 32 || (9 ≤ byte && byte ≤ 13)

/-- `isdigit`. -/
def isDigit (byte : UInt8) : Bool := 48 ≤ byte && byte ≤ 57

/-- The sign in front of a number, if there is one, and the text behind it. -/
def splitSign : Bytes → Bool × Bytes
  | 45 :: rest => (true, rest)
  | 43 :: rest => (false, rest)
  | text => (false, text)

/-- `std::stoi`: white space, a sign and digits; what follows the digits is ignored. -/
def stoi (text : Bytes) : Except Fault Int :=
  let signed := splitSign (text.dropWhile isSpace)
  let digits := signed.2.takeWhile isDigit
  if digits.isEmpty then .error .invalidArgument
  else
    let value : Int := if signed.1 then -digitsValue digits else digitsValue digits
    if value < -2 ^ 31 ∨ 2 ^ 31 ≤ value then .error .outOfRange else .ok value

/-- `%d` of `sscanf` with a width: white space, and a sign and digits that together have the width
at most. The text behind the number is left. -/
def scanInt (width : Nat) (text : Bytes) : Option (Int × Bytes) :=
  let body := text.dropWhile isSpace
  let field := body.take width
  let signed := splitSign field
  let digits := signed.2.takeWhile isDigit
  if digits.isEmpty then none
  else
    let value : Int := if signed.1 then -digitsValue digits else digitsValue digits
    some (value, body.drop (field.length - signed.2.length + digits.length))

/-- A number of the width is scanned whatever follows. -/
theorem scanInt_digits {digits : Bytes} (some : digits ≠ [])
    (each : ∀ octet ∈ digits, 48 ≤ octet.toNat ∧ octet.toNat < 58) (rest : Bytes) :
    scanInt digits.length (digits ++ rest) = .some ((digitsValue digits : Int), rest) := by
  have isOne : ∀ octet ∈ digits, isDigit octet = true := by
    intro octet member
    obtain ⟨low, high⟩ := each octet member
    simp only [isDigit, Bool.and_eq_true, decide_eq_true_eq, UInt8.le_iff_toNat_le]
    exact ⟨low, Nat.le_of_lt_succ high⟩
  obtain ⟨head, tail, rfl⟩ := List.exists_cons_of_ne_nil some
  obtain ⟨low, -⟩ := each head List.mem_cons_self
  have noSpace : (head :: tail ++ rest).dropWhile isSpace = head :: tail ++ rest := by
    apply List.dropWhile_cons_of_neg
    simp only [isSpace, Bool.or_eq_true, beq_iff_eq, Bool.and_eq_true, decide_eq_true_eq,
      UInt8.le_iff_toNat_le, ← UInt8.toNat_inj]
    intro space
    have : (32 : UInt8).toNat = 32 ∧ (13 : UInt8).toNat = 13 := by decide
    omega
  have unsigned : splitSign (head :: tail) = (false, head :: tail) := by
    unfold splitSign
    split
    · rename_i same
      cases (List.cons.inj same).1
      exact absurd low (by decide)
    · rename_i same
      cases (List.cons.inj same).1
      exact absurd low (by decide)
    · rfl
  have whole : (head :: tail).takeWhile isDigit = head :: tail :=
    List.takeWhile_eq_self_iff.mpr isOne
  simp only [scanInt, noSpace, List.take_left, unsigned, whole, Nat.sub_self, Nat.zero_add,
    List.drop_left, List.isEmpty_iff, some, ↓reduceIte]
  rfl

/-- The value of two digits. -/
theorem digitsValue_pair {value : Nat} (small : value < 100) :
    digitsValue [decimalDigit (value / 10), decimalDigit (value % 10)] = value := by
  have tens := decimalDigit_toNat (show value / 10 < 10 by omega)
  have ones := decimalDigit_toNat (show value % 10 < 10 by omega)
  simp only [digitsValue, List.foldl_cons, List.foldl_nil, tens, ones]
  omega

/-- Numbers of four digits. -/
theorem decimal_length_four {value : Nat} (low : 1000 ≤ value) (high : value ≤ 9999) :
    (decimal value).length = 4 := by
  have log : Nat.log 10 value = 3 :=
    Nat.log_eq_of_pow_le_of_lt_pow (by omega) (by omega)
  rw [decimal, if_neg (by omega), List.length_map, List.length_reverse,
    Nat.length_digits 10 value (by decide) (by omega), log]

end Overplus
