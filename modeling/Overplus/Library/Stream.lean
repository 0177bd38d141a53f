import Mathlib

/-!
# Streams of self-delimiting values

A parser that returns a value and the number of symbols it takes is self-delimiting when it
takes at least one symbol and does not look behind them. A stream of such values is decoded
by parsing again and again; how it was cut into chunks does not matter.
-/
namespace Overplus

variable {α β : Type}

/-- A parser takes at least one symbol, inside the string, and ignores what follows. -/
def SelfDelimiting (parse : List α → Option (β × Nat)) : Prop :=
  ∀ {data value count}, parse data = some (value, count) →
    0 < count ∧ count ≤ data.length ∧ ∀ rest, parse (data ++ rest) = some (value, count)

/-- The values at the front of a string, at most as many as the first argument says. -/
def decodeUpTo (parse : List α → Option (β × Nat)) : Nat → List α → List β
  | 0, _ => []
  | fuel + 1, data =>
    match parse data with
    | none => []
    | some read => read.1 :: decodeUpTo parse fuel (data.drop read.2)

/-- All complete values of a stream; a value takes at least one symbol, so there are at most
as many as symbols. -/
def decodeStream (parse : List α → Option (β × Nat)) (data : List α) : List β :=
  decodeUpTo parse data.length data

/-- Parsing values one after another leads from a stream to an unparsed rest. -/
inductive Decoded (parse : List α → Option (β × Nat)) : List α → List β → List α → Prop
  /-- Nothing parsed yet. -/
  | start (data : List α) : Decoded parse data [] data
  /-- One value parsed first. -/
  | parsed {data rest : List α} {value : β} {count : Nat} {values : List β}
    (first : parse data = some (value, count))
    (others : Decoded parse (data.drop count) values rest) :
    Decoded parse data (value :: values) rest

variable {parse : List α → Option (β × Nat)} {data rest : List α} {value : β} {count fuel : Nat}
  {values : List β}

/-- A self-delimiting parser finds nothing in an empty string. -/
theorem SelfDelimiting.parse_nil (delimiting : SelfDelimiting parse) : parse [] = none := by
  cases found : parse [] with
  | none => rfl
  | some read =>
    obtain ⟨positive, inside, _⟩ := delimiting found
    exact absurd inside (Nat.not_le.mpr positive)

/-- No proper beginning of a whole value is parsed. -/
theorem SelfDelimiting.parse_part (delimiting : SelfDelimiting parse)
    (whole : parse (data ++ rest) = some (value, (data ++ rest).length)) (proper : rest ≠ []) :
    parse data = none := by
  cases found : parse data with
  | none => rfl
  | some read =>
    -- What is parsed stays parsed behind more bytes, so it would be the whole value already.
    obtain ⟨_, inside, stable⟩ := delimiting found
    rw [stable rest] at whole
    have length := (Prod.mk.inj (Option.some.inj whole)).2
    rw [List.length_append] at length
    have positive := List.length_pos_iff.mpr proper
    omega

/-- Encodings that are parsed whole are parsed one after another. -/
theorem Decoded.flatMap {ι : Type} (delimiting : SelfDelimiting parse) (encode : ι → List α)
    (decoded : ι → β)
    (whole : ∀ item, parse (encode item) = some (decoded item, (encode item).length))
    (items : List ι) : Decoded parse (items.flatMap encode) (items.map decoded) [] := by
  induction items with
  | nil => exact .start []
  | cons item items ih =>
    rw [List.flatMap_cons, List.map_cons]
    refine .parsed ((delimiting (whole item)).2.2 _) ?_
    rwa [List.drop_left]

/-- Values already parsed stay parsed when the stream goes on. -/
theorem Decoded.append (delimiting : SelfDelimiting parse)
    (decoded : Decoded parse data values rest) (more : List α) :
    Decoded parse (data ++ more) values (rest ++ more) := by
  induction decoded with
  | start data => exact .start _
  | parsed first others ih =>
    obtain ⟨_, inside, stable⟩ := delimiting first
    refine .parsed (stable more) ?_
    rwa [List.drop_append_of_le_length inside]

/-- Parsing one more value from the rest. -/
theorem Decoded.next (decoded : Decoded parse data values rest)
    (found : parse rest = some (value, count)) :
    Decoded parse data (values ++ [value]) (rest.drop count) := by
  induction decoded with
  | start data => exact .parsed found (.start _)
  | parsed first others ih => exact .parsed first (ih found)

/-- At the front of encodings the first one is parsed. -/
theorem parse_encodings {ι : Type} (delimiting : SelfDelimiting parse) (encode : ι → List α)
    (decoded : ι → β)
    (whole : ∀ item, parse (encode item) = some (decoded item, (encode item).length))
    {items : List ι} {more : List α} (found : parse data = some (value, count))
    (stream : data ++ more = items.flatMap encode) :
    ∃ item others, items = item :: others ∧ count = (encode item).length ∧
      data.drop count ++ more = others.flatMap encode := by
  obtain ⟨_, inside, stable⟩ := delimiting found
  have parsed := stable more
  rw [stream] at parsed
  cases items with
  | nil =>
    rw [List.flatMap_nil, delimiting.parse_nil] at parsed
    cases parsed
  | cons item others =>
    rw [List.flatMap_cons, (delimiting (whole item)).2.2] at parsed
    obtain ⟨-, rfl⟩ := Prod.mk.inj (Option.some.inj parsed)
    refine ⟨item, others, rfl, rfl, ?_⟩
    have cut := congrArg (List.drop (encode item).length) stream
    rwa [List.flatMap_cons, List.drop_left, List.drop_append_of_le_length inside] at cut

/-- A stream that is a beginning of encodings leaves less than one of them unparsed. -/
theorem Decoded.rest_lt {ι : Type} (delimiting : SelfDelimiting parse) (encode : ι → List α)
    (decoded : ι → β)
    (whole : ∀ item, parse (encode item) = some (decoded item, (encode item).length))
    {items : List ι} {more : List α} (read : Decoded parse data values rest)
    (stream : data ++ more = items.flatMap encode) (finished : parse rest = none) :
    rest = [] ∨ ∃ item ∈ items, rest.length < (encode item).length := by
  induction read generalizing items with
  | start data =>
    cases items with
    | nil => exact .inl (List.append_eq_nil_iff.mp stream).1
    | cons item others =>
      refine .inr ⟨item, List.mem_cons_self, ?_⟩
      by_contra long
      -- A whole encoding at the front would have been parsed.
      rw [List.flatMap_cons] at stream
      obtain ⟨left, front⟩ : encode item <+: data :=
        List.prefix_of_prefix_length_le ⟨_, rfl⟩ ⟨_, stream⟩ (Nat.not_lt.mp long)
      have parsed := (delimiting (whole item)).2.2 left
      rw [front, finished] at parsed
      cases parsed
  | parsed first others ih =>
    obtain ⟨item, left, rfl, -, stream⟩ :=
      parse_encodings delimiting encode decoded whole first stream
    rcases ih stream finished with empty | ⟨other, member, short⟩
    · exact .inl empty
    · exact .inr ⟨other, List.mem_cons_of_mem _ member, short⟩

/-- Once the rest holds no complete value, the values parsed are all values of the stream. -/
theorem Decoded.decodeUpTo_eq (delimiting : SelfDelimiting parse)
    (decoded : Decoded parse data values rest) (finished : parse rest = none)
    (enough : data.length ≤ fuel) : decodeUpTo parse fuel data = values := by
  induction decoded generalizing fuel with
  | start data =>
    cases fuel with
    | zero => rfl
    | succ fuel => simp [decodeUpTo, finished]
  | parsed first others ih =>
    obtain ⟨positive, inside, _⟩ := delimiting first
    cases fuel with
    | zero => omega
    | succ fuel =>
      rw [decodeUpTo, first]
      exact congrArg _ (ih finished (by rw [List.length_drop]; omega))

/-- Once the rest holds no complete value, the values parsed are all values of the stream. -/
theorem Decoded.decodeStream_eq (delimiting : SelfDelimiting parse)
    (decoded : Decoded parse data values rest) (finished : parse rest = none) :
    decodeStream parse data = values :=
  decoded.decodeUpTo_eq delimiting finished le_rfl

end Overplus
