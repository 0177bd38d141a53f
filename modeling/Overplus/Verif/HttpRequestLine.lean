import Overplus.Protocol.Http

/-!
# The first line of an HTTP CONNECT request

`HttpRequest::unstream` takes the target of a request from its first line. The host ends at the
first colon of the target, and what is behind the colon is converted with `std::stoi`. So a port
that is no number makes the call throw, a number with other characters around it or one above
65535 is accepted with a port the application did not ask for, and a bracketed IPv6 address is
cut at its own first colon. Which first lines are decoded as they should be is exactly what is
proved here.
-/
namespace Overplus.Verif.HttpRequestLine

/-- A port number: decimal digits with a value that fits a port. -/
def IsPort (text : Bytes) (port : UInt16) : Prop :=
  text ≠ [] ∧ (∀ octet ∈ text, isDigit octet = true) ∧ digitsValue text = port.toNat

/-- The targets of the grammar with the host and port they name, for a notion of IPv6 texts: a
host, a host and a port, or an IPv6 address in brackets and a port. The host of the last is the
address, with or without its brackets. -/
inductive Names (ipv6 : Bytes → Prop) : Bytes → Bytes → UInt16 → Prop
  /-- A host alone; the port is the one of HTTPS. -/
  | host {host : Bytes} (some : host ≠ []) (plain : 58 ∉ host) : Names ipv6 host host 443
  /-- A host and a port. -/
  | hostPort {host text : Bytes} {port : UInt16} (some : host ≠ []) (plain : 58 ∉ host)
    (number : IsPort text port) : Names ipv6 (host ++ 58 :: text) host port
  /-- An IPv6 address in brackets and a port. -/
  | bracketed {address host text : Bytes} {port : UInt16} (valid : ipv6 address)
    (number : IsPort text port) (either : host = address ∨ host = 91 :: (address ++ [93])) :
    Names ipv6 (91 :: (address ++ 93 :: 58 :: text)) host port

/-- The first line; bytes without a line end are one line. -/
def firstLine (buf : Bytes) : Bytes := buf.take ((find crlf buf).getD buf.length)

/-- The target of a line that starts with the method: what follows up to the first space or the
end of the line. -/
def target (line : Bytes) : Option Bytes :=
  if line.take 8 = HttpRequest.method then some ((line.drop 8).takeWhile (· != 32)) else none

/-- The first line asks for this host and port. -/
def Asks (ipv6 : Bytes → Prop) (buf host : Bytes) (port : UInt16) : Prop :=
  ∃ authority, target (firstLine buf) = some authority ∧ Names ipv6 authority host port

/-- The request is decoded as it should be: the call returns, with true exactly when the first
line asks for a host and a port, and then with such a host and port. -/
def Exact (ipv6 : Bytes → Prop) (before : HttpRequest) (buf : Bytes) : Prop :=
  ∃ accepted after, before.unstream buf = .ok (accepted, after) ∧
    (accepted = true ↔ ∃ host port, Asks ipv6 buf host port) ∧
    (accepted = true → Asks ipv6 buf after.host after.port)

/-- What follows the first colon of a target, if there is one, is a port; or nothing is in front
of the colon and the conversion of what follows does not throw. -/
def PortOk (authority : Bytes) : Prop :=
  58 ∉ authority ∨ ∃ front rest, authority = front ++ 58 :: rest ∧ 58 ∉ front ∧
    ((∃ port, IsPort rest port) ∨ front = [] ∧ ∃ value, stoi rest = .ok value)

variable {ipv6 : Bytes → Prop} {before : HttpRequest} {buf authority host front rest text : Bytes}
  {port : UInt16}

section Decoder

/-- A digit is neither white space nor a sign. -/
theorem isDigit_plain {octet : UInt8} (digit : isDigit octet = true) :
    isSpace octet = false ∧ octet ≠ 45 ∧ octet ≠ 43 := by
  have bounds : 48 ≤ octet.toNat ∧ octet.toNat ≤ 57 := by
    simpa [isDigit, UInt8.le_iff_toNat_le] using digit
  refine ⟨?_, ?_, ?_⟩
  · simp only [isSpace, Bool.or_eq_false_iff, beq_eq_false_iff_ne, ne_eq, Bool.and_eq_false_iff,
      decide_eq_false_iff_not, UInt8.le_iff_toNat_le, ← UInt8.toNat_inj]
    change ¬ octet.toNat = 32 ∧ (¬ 9 ≤ octet.toNat ∨ ¬ octet.toNat ≤ 13)
    omega
  · rintro rfl
    exact absurd bounds.1 (by decide)
  · rintro rfl
    exact absurd bounds.1 (by decide)

/-- The conversion of decimal digits gives their value. -/
theorem stoi_digits (number : IsPort text port) : stoi text = .ok (port.toNat : Int) := by
  obtain ⟨some, digits, value⟩ := number
  have whole : text.takeWhile isDigit = text := List.takeWhile_eq_self_iff.mpr digits
  have unsigned : splitSign (text.dropWhile isSpace) = (false, text) := by
    cases text with
    | nil => exact absurd rfl some
    | cons first rest =>
      obtain ⟨visible, minus, plus⟩ := isDigit_plain (digits first List.mem_cons_self)
      rw [List.dropWhile_cons_of_neg (by simp [visible])]
      unfold splitSign
      split
      · rename_i same
        exact absurd (List.cons.inj same).1 minus
      · rename_i same
        exact absurd (List.cons.inj same).1 plus
      · rfl
  have small := port.toNat_lt
  unfold stoi
  simp only [unsigned, whole, value]
  rw [if_neg (by simpa using some), if_neg (by simp; omega)]
  rfl

/-- A target without a colon is taken as the host. -/
theorem unstreamAddress_plain (plain : 58 ∉ authority) :
    before.unstreamAddress authority = .ok (!authority.isEmpty, ⟨authority, 443⟩) := by
  unfold HttpRequest.unstreamAddress
  rw [find_symbol_none plain]

/-- A target with a colon is cut there, and what follows is converted. -/
theorem unstreamAddress_colon (plain : 58 ∉ front) :
    before.unstreamAddress (front ++ 58 :: rest) = (stoi rest).map fun value =>
      (!front.isEmpty, ⟨front, UInt16.ofInt value⟩) := by
  unfold HttpRequest.unstreamAddress
  rw [find_append_symbol plain]
  have behind : (front ++ 58 :: rest).drop (front.length + 1) = rest := by
    rw [← List.drop_drop, List.drop_left]
    rfl
  simp only [List.take_left, behind]
  cases stoi rest <;> rfl

/-- The target found in a line ends at its first space. -/
theorem cut_space (line : Bytes) :
    (match find [32] line with
      | some position => before.unstreamAddress (line.take position)
      | none => before.unstreamAddress line) =
      before.unstreamAddress (line.takeWhile (· != 32)) := by
  by_cases spaced : (32 : UInt8) ∈ line
  · obtain ⟨front, rest, rfl, plain⟩ := List.eq_append_cons_of_mem spaced
    have cut : (front ++ 32 :: rest).takeWhile (· != (32 : UInt8)) = front := by
      rw [List.takeWhile_append_of_pos (by
        intro octet member
        simp only [bne_iff_ne, ne_eq]
        rintro rfl
        exact plain member), List.takeWhile_cons_of_neg (by simp), List.append_nil]
    rw [find_append_symbol plain, cut]
    dsimp only
    rw [List.take_left]
  · have whole : line.takeWhile (· != (32 : UInt8)) = line := by
      apply List.takeWhile_eq_self_iff.mpr
      intro octet member
      simp only [bne_iff_ne, ne_eq]
      rintro rfl
      exact spaced member
    rw [find_symbol_none spaced, whole]

/-- Bytes with a line end are decoded from the target of their first line. -/
theorem unstream_eq (before : HttpRequest) (ended : (find crlf buf).isSome = true) :
    before.unstream buf = match target (firstLine buf) with
      | none => .ok (false, before)
      | some authority => before.unstreamAddress authority := by
  obtain ⟨position, found⟩ := Option.isSome_iff_exists.mp ended
  have line : firstLine buf = buf.take position := by rw [firstLine, found, Option.getD_some]
  unfold HttpRequest.unstream target
  rw [found, line]
  dsimp only
  by_cases method : (buf.take position).take 8 = HttpRequest.method
  · rw [if_neg (not_not.mpr method), if_pos method]
    exact cut_space _
  · rw [if_pos method, if_neg method]

end Decoder

section Grammar

/-- A target without a colon names itself. -/
theorem Names.of_plain (names : Names ipv6 authority host port) (plain : 58 ∉ authority) :
    authority ≠ [] := by
  cases names with
  | host some _ => exact some
  | hostPort => simp at plain
  | bracketed => simp at plain

/-- A target that is cut at its first colon names what is in front of it and the port behind it,
or it is bracketed: then what is behind the colon is no port, and the host has a colon. -/
theorem Names.of_colon (colons : ∀ text, ipv6 text → 58 ∈ text) (plain : 58 ∉ front)
    (names : Names ipv6 (front ++ 58 :: rest) host port) :
    front ≠ [] ∧ (host = front ∧ IsPort rest port ∨
      58 ∈ host ∧ ∀ number, ¬ IsPort rest number) := by
  generalize whole : front ++ 58 :: rest = authority at names
  cases names with
  | host some clean =>
    rw [← whole] at clean
    simp at clean
  | hostPort some clean number =>
    obtain ⟨rfl, rfl⟩ := append_cons_inj plain clean whole
    exact ⟨some, .inl ⟨rfl, number⟩⟩
  | @bracketed address _ text _ valid number either =>
    obtain ⟨first, last, rfl, clean⟩ := List.eq_append_cons_of_mem (colons _ valid)
    have opened : 58 ∉ 91 :: first := by simpa using clean
    have split : front ++ 58 :: rest = (91 :: first) ++ 58 :: (last ++ 93 :: 58 :: text) := by
      rw [whole]
      simp
    obtain ⟨rfl, rfl⟩ := append_cons_inj plain opened split
    refine ⟨List.cons_ne_nil _ _, .inr ⟨?_, ?_⟩⟩
    · rcases either with rfl | rfl <;> simp
    · intro other port
      exact absurd (port.2.1 93 (by simp)) (by decide)

end Grammar

/-- A call on a target returns, with true exactly when the target names a host and a port, and
then with such a host and port. -/
def ExactAddress (ipv6 : Bytes → Prop) (before : HttpRequest) (authority : Bytes) : Prop :=
  ∃ accepted after, before.unstreamAddress authority = .ok (accepted, after) ∧
    (accepted = true ↔ ∃ host port, Names ipv6 authority host port) ∧
    (accepted = true → Names ipv6 authority after.host after.port)

/-- A target without a colon is decoded as it should be. -/
theorem exactAddress_plain (before : HttpRequest) (plain : 58 ∉ authority) :
    ExactAddress ipv6 before authority := by
  refine ⟨_, _, unstreamAddress_plain plain, ?_, ?_⟩
  · constructor
    · intro accepted
      exact ⟨authority, 443, .host (by simpa using accepted) plain⟩
    · rintro ⟨host, port, names⟩
      simpa using names.of_plain plain
  · intro accepted
    exact .host (by simpa using accepted) plain

/-- A target is decoded as it should be exactly when what follows its first colon is a port, or
nothing is in front of the colon and the conversion of what follows does not throw. -/
theorem exactAddress_colon (colons : ∀ text, ipv6 text → 58 ∈ text) (before : HttpRequest)
    (plain : 58 ∉ front) : ExactAddress ipv6 before (front ++ 58 :: rest) ↔
      (∃ port, IsPort rest port) ∨ front = [] ∧ ∃ value, stoi rest = .ok value := by
  constructor
  · rintro ⟨accepted, after, returned, -, right⟩
    rw [unstreamAddress_colon plain] at returned
    cases converted : stoi rest with
    | error fault =>
      rw [converted] at returned
      cases returned
    | ok value =>
      rw [converted] at returned
      obtain ⟨rfl, rfl⟩ := Prod.mk.inj (Except.ok.inj returned)
      by_cases empty : front = []
      · exact .inr ⟨empty, value, rfl⟩
      · obtain ⟨-, ⟨-, number⟩ | ⟨coloned, -⟩⟩ :=
          (right (by simpa using empty)).of_colon colons plain
        · exact .inl ⟨_, number⟩
        · exact absurd coloned plain
  · rintro (⟨port, number⟩ | ⟨rfl, value, converted⟩)
    · have word : UInt16.ofInt (port.toNat : Int) = port := by
        have small := port.toNat_lt
        have exact : ((port.toNat : Int) % 2 ^ 16).toNat = port.toNat := by omega
        rw [UInt16.ofInt, exact, UInt16.ofNat_toNat]
      refine ⟨!front.isEmpty, ⟨front, port⟩, ?_, ?_, ?_⟩
      · rw [unstreamAddress_colon plain, stoi_digits number, Except.map, word]
      · constructor
        · intro accepted
          exact ⟨front, port, .hostPort (by simpa using accepted) plain number⟩
        · rintro ⟨host, other, names⟩
          simpa using (names.of_colon colons plain).1
      · intro accepted
        exact .hostPort (by simpa using accepted) plain number
    · refine ⟨false, ⟨[], UInt16.ofInt value⟩, ?_, ?_, fun accepted => by cases accepted⟩
      · rw [unstreamAddress_colon plain, converted]
        rfl
      · constructor
        · intro accepted
          cases accepted
        · rintro ⟨host, port, names⟩
          exact absurd rfl (names.of_colon colons plain).1

/-- A target is decoded as it should be exactly when its port is in order. -/
theorem exactAddress_iff (colons : ∀ text, ipv6 text → 58 ∈ text) (before : HttpRequest)
    (authority : Bytes) : ExactAddress ipv6 before authority ↔ PortOk authority := by
  by_cases coloned : (58 : UInt8) ∈ authority
  · obtain ⟨front, rest, rfl, plain⟩ := List.eq_append_cons_of_mem coloned
    rw [exactAddress_colon colons before plain]
    constructor
    · intro fine
      exact .inr ⟨front, rest, rfl, plain, fine⟩
    · rintro (none | ⟨other, last, same, clean, fine⟩)
      · exact absurd coloned none
      · obtain ⟨rfl, rfl⟩ := append_cons_inj plain clean same
        exact fine
  · exact ⟨fun _ => .inl coloned, fun _ => exactAddress_plain before coloned⟩

/-- **Which requests are decoded as they should be.** Of all byte strings with a line end, exactly
those whose first line is no CONNECT line or has a target with its port in order: no colon at all,
a number up to 65535 behind the first colon, or nothing in front of the first colon and behind it
a text that `std::stoi` converts. On all others the call throws or accepts a host or port that the
line does not ask for. -/
theorem request_line_exact_iff (ipv6 : Bytes → Prop) (colons : ∀ text, ipv6 text → 58 ∈ text)
    (before : HttpRequest) (buf : Bytes) (ended : (find crlf buf).isSome = true) :
    Exact ipv6 before buf ↔
      ∀ authority, target (firstLine buf) = some authority → PortOk authority := by
  unfold Exact Asks
  rw [unstream_eq before ended]
  cases found : target (firstLine buf) with
  | none => simp
  | some authority =>
    have decoded := exactAddress_iff colons before authority
    simpa [ExactAddress] using decoded

/-- `CONNECT a:80 x` and a line end. -/
def portLine : Bytes := HttpRequest.method ++ [97, 58, 56, 48, 32, 120] ++ crlf

/-- A line with a port is decoded as it should be. -/
theorem request_line_exact_port : Exact (58 ∈ ·) {} portLine := by
  have exact_iff := request_line_exact_iff (58 ∈ ·) (fun _ member => member) {} portLine
    (by decide +kernel)
  apply exact_iff.mpr
  intro authority found
  have known : target (firstLine portLine) = some [97, 58, 56, 48] := by decide +kernel
  obtain rfl := Option.some.inj (known.symm.trans found)
  exact .inr ⟨[97], [56, 48], rfl, by decide, .inl ⟨80, by decide, by decide +kernel, rfl⟩⟩

/-- `CONNECT a:b` and a line end. -/
def wordLine : Bytes := HttpRequest.method ++ [97, 58, 98] ++ crlf

/-- On a line whose port is no number the call throws. -/
theorem request_line_throws :
    ({} : HttpRequest).unstream wordLine = .error .invalidArgument ∧
      ¬ Exact (58 ∈ ·) {} wordLine := by
  have threw : ({} : HttpRequest).unstream wordLine = .error .invalidArgument := by decide +kernel
  refine ⟨threw, ?_⟩
  rintro ⟨accepted, after, returned, -⟩
  rw [threw] at returned
  cases returned

end Overplus.Verif.HttpRequestLine
