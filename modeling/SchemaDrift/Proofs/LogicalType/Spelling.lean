import SchemaDrift.LogicalType.Spelling
import SchemaDrift.Proofs.Text.Chars

namespace SchemaDrift.LogicalType

/-- The type as a catalog can tell it: the unknown is text, a precision has a scale, and a scale has
a precision. -/
def canonical : LogicalType → LogicalType
  | decimal (some precision) none => decimal (some precision) (some 0)
  | decimal none _ => decimal none none
  | unknown => string
  | array element => array element.canonical
  | type => type

/-- Text has no other canonical form. -/
theorem canonical_of_isText {type : LogicalType} (text : type.isText = true) :
    type.canonical = type := by
  cases type with
  | string => rfl
  | varchar length => rfl
  | _ => cases text

/-- The word that the spelling of a type starts with, in lower case. -/
def word : LogicalType → String
  | bool => "boolean"
  | int => "integer"
  | float => "double precision"
  | decimal _ _ => "numeric"
  | varchar _ => "varchar"
  | string => "text"
  | date => "date"
  | timestamp => "timestamptz"
  | json => "jsonb"
  | uuid => "uuid"
  | array element => element.word
  | unknown => "text"

/-- What stands in the parentheses of a spelling, with `gap` behind a comma. -/
def innerWith (gap : List Char) : LogicalType → Option (List Char)
  | decimal (some p) (some s) => some (digits p.toNat ++ ',' :: (gap ++ digits s.toNat))
  | decimal (some p) none => some (digits p.toNat)
  | varchar (some n) => some (digits n.toNat)
  | _ => none

/-- A word with what stands in parentheses behind it. -/
def withInner (name : List Char) : Option (List Char) → List Char
  | some inner => name ++ '(' :: (inner ++ [')'])
  | none => name

/-- The lower-case spelling of a type with `gap` behind the comma of a decimal type. -/
def spelledWith (gap : List Char) : LogicalType → List Char
  | array element => element.spelledWith gap ++ ['[', ']']
  | type => withInner type.word.toList (type.innerWith gap)

/-- The number of array types around the type of the elements. -/
def depth : LogicalType → Nat
  | array element => element.depth + 1
  | _ => 0

def spelledWords : List String :=
  ["boolean", "integer", "double precision", "numeric", "varchar", "text", "date", "timestamptz",
    "jsonb", "uuid"]

/-- Every spelling starts with one of the words. -/
theorem word_mem (type : LogicalType) : type.word ∈ spelledWords := by
  induction type with
  | array element inductionHypothesis => exact inductionHypothesis
  | _ => simp [word, spelledWords]

/-- The words neither start nor end with a blank and hold no parenthesis, no bracket and nothing
outside of ASCII. -/
theorem word_plain {name : String} (present : name ∈ spelledWords) :
    (∃ first rest, name.toList = first :: rest ∧ Text.isBlank first = false) ∧
      Text.trim name.toList = name.toList ∧ '(' ∉ name.toList ∧
      Text.dropTail? ['[', ']'] name.toList = none := by
  have front : ∀ name ∈ spelledWords, (name.toList.head?.map Text.isBlank) = some false ∧
      Text.trim name.toList = name.toList ∧ '(' ∉ name.toList ∧
      Text.dropTail? ['[', ']'] name.toList = none := by decide
  rcases front name present with ⟨first, others⟩
  refine ⟨?_, others⟩
  cases same : name.toList with
  | nil => simp [same] at first
  | cons c rest => exact ⟨c, rest, rfl, by simpa [same] using first⟩

/-- A word with something in parentheses is trimmed, ends in no bracket, and is named by the word. -/
theorem withInner_plain {name : String} (present : name ∈ spelledWords)
    (inner : Option (List Char)) :
    Text.trim (withInner name.toList inner) = withInner name.toList inner ∧
      Text.dropTail? ['[', ']'] (withInner name.toList inner) = none ∧
      Text.trim ((withInner name.toList inner).takeWhile (· != '(')) = name.toList := by
  rcases word_plain present with ⟨⟨first, rest, split, front⟩, trimmed, absent, single⟩
  cases inner with
  | none =>
      refine ⟨trimmed, single, ?_⟩
      rw [withInner, Text.takeWhile_bne_of_notMem absent, trimmed]
  | some inner =>
      rw [withInner]
      refine ⟨Text.trim_eq_self ?_ ?_, ?_, ?_⟩
      · intro c present
        rw [split] at present
        cases present
        exact front
      · intro c present
        have last : c = ')' := by simpa [List.getLast?_cons] using present.symm
        rw [last]
        decide
      · cases dropped : Text.dropTail? ['[', ']'] (name.toList ++ '(' :: (inner ++ [')'])) with
        | none => rfl
        | some before =>
            have ends := congrArg List.getLast? ((Text.dropTail?_eq_some_iff _ _ _).mp dropped)
            simp [List.getLast?_cons, List.getLast?_append] at ends
      · rw [Text.takeWhile_bne_append absent, trimmed]

/-- The parameters of a spelling are what stands in its parentheses. -/
theorem parameters?_withInner {name inner : List Char} (absent : '(' ∉ name) (single : '(' ∉ inner)
    (unclosed : ')' ∉ inner) : parameters? (withInner name (some inner)) = some inner := by
  have outer : '(' ∉ inner ++ [')'] := by simp [single]
  rw [parameters?, withInner, Text.splitOnce_append absent, Option.map_some,
    Text.takeWhile_bne_of_notMem outer, Text.takeWhile_bne_append unclosed]

/-- The digits of a number are none of the marks between numbers. -/
theorem marks_notMem_digits (n : Nat) : '(' ∉ digits n ∧ ')' ∉ digits n ∧ ',' ∉ digits n := by
  refine ⟨?_, ?_, ?_⟩ <;> intro present
  all_goals
    have plain := Text.digit_plain (Text.isAsciiDigit_of_mem_toDigits present)
    simp at plain

/-- Blanks in front of a number are no part of it. -/
theorem trim_gap {gap : List Char} (blank : ∀ c ∈ gap, c = ' ') (n : Nat) :
    Text.trim (gap ++ digits n) = digits n := by
  have dropped : Text.trimStart (gap ++ digits n) = Text.trimStart (digits n) := by
    induction gap with
    | nil => rfl
    | cons c gap inductionHypothesis =>
        have same := blank c List.mem_cons_self
        rw [same, List.cons_append]
        exact inductionHypothesis fun c present => blank c (List.mem_cons_of_mem _ present)
  rw [Text.trim, dropped]
  exact Text.trim_toDigits n

/-- The precision and scale of a decimal type are read back. -/
theorem ofDecimalSpelling_withInner {gap : List Char} (blank : ∀ c ∈ gap, c = ' ')
    (precision scale : Option UInt16) :
    ofDecimalSpelling (withInner "numeric".toList (innerWith gap (decimal precision scale))) =
      canonical (decimal precision scale) := by
  have name : '(' ∉ "numeric".toList := by decide
  have number : ∀ p : UInt16,
      (Text.boundedNat? 65535 (digits p.toNat)).map UInt16.ofNat = some p := by
    intro p
    rw [digits, Text.boundedNat?_toDigits (Nat.le_of_lt_succ p.toNat_lt)]
    simp
  have marks := marks_notMem_digits
  rcases precision with _ | p
  · have read : ofDecimalSpelling "numeric".toList = decimal none none := by decide
    exact read
  · rcases scale with _ | s
    · rw [ofDecimalSpelling, innerWith,
        parameters?_withInner name (marks p.toNat).1 (marks p.toNat).2.1, Option.map_some,
        Text.splitOn_of_notMem (marks p.toNat).2.2]
      simp only [digits, Text.trim_toDigits]
      rw [← digits, number]
      rfl
    · have gaps : ∀ {c : Char}, c ≠ ' ' → c ∉ gap :=
        fun different present => different (blank _ present)
      rw [ofDecimalSpelling, innerWith, parameters?_withInner name
        (by simp [marks, gaps]) (by simp [marks, gaps]), Option.map_some,
        Text.splitOn_append (marks p.toNat).2.2,
        Text.splitOn_of_notMem (by simp [marks, gaps])]
      simp only [trim_gap blank]
      rw [digits, Text.trim_toDigits, ← digits, number, number]
      rfl

/-- The length of a bounded text type is read back. -/
theorem lengthOfSpelling_withInner (gap : List Char) (length : Option UInt32) :
    lengthOfSpelling (withInner "varchar".toList (innerWith gap (varchar length))) = length := by
  rcases length with _ | n
  · have read : lengthOfSpelling "varchar".toList = none := by decide
    exact read
  · have marks := marks_notMem_digits n.toNat
    rw [lengthOfSpelling, innerWith, parameters?_withInner (by decide) marks.1 marks.2.1]
    simp only [Option.bind_eq_bind, Option.bind_some]
    rw [digits, Text.trim_toDigits, Text.boundedNat?_toDigits (Nat.le_of_lt_succ n.toNat_lt)]
    simp

/-- The words without parameters name their types. -/
theorem ofName?_plain : ∀ entry ∈ [("boolean", bool), ("integer", int), ("double precision", float),
      ("text", string), ("date", date), ("timestamptz", timestamp), ("jsonb", json), ("uuid", uuid)],
    ∀ spelling, ofName? entry.1.toList spelling = some entry.2 := by
  intro entry present spelling
  have listed : ∀ entry ∈ [("boolean", bool), ("integer", int), ("double precision", float),
      ("text", string), ("date", date), ("timestamptz", timestamp), ("jsonb", json), ("uuid", uuid)],
      plainSpellings.lookup entry.1 = some entry.2 := by decide
  rw [ofName?, String.ofList_toList, listed entry present]

/-- The name of the decimal types is read with the parameters behind it. -/
theorem ofName?_numeric (spelling : List Char) :
    ofName? "numeric".toList spelling = some (ofDecimalSpelling spelling) := by
  have unlisted : plainSpellings.lookup "numeric" = none := by decide
  have listed : decimalNames.contains "numeric" = true := by decide
  rw [ofName?, String.ofList_toList, unlisted]
  simp only [listed, if_true]

/-- The name of the bounded text types is read with the length behind it. -/
theorem ofName?_varchar (spelling : List Char) :
    ofName? "varchar".toList spelling = some (varchar (lengthOfSpelling spelling)) := by
  have unlisted : plainSpellings.lookup "varchar" = none := by decide
  have other : decimalNames.contains "varchar" = false := by decide
  have listed : boundedTextNames.contains "varchar" = true := by decide
  rw [ofName?, String.ofList_toList, unlisted]
  simp only [other, listed, if_true, Bool.false_eq_true, if_false]

theorem trim_array (gap : List Char) (element : LogicalType) :
    Text.trim (element.spelledWith gap ++ ['[', ']']) = element.spelledWith gap ++ ['[', ']'] := by
  have front : ∃ first rest, element.spelledWith gap = first :: rest ∧
      Text.isBlank first = false := by
    have word : ∀ type : LogicalType, ∃ first rest,
        withInner type.word.toList (type.innerWith gap) = first :: rest ∧
          Text.isBlank first = false := by
      intro type
      rcases (word_plain type.word_mem).1 with ⟨first, rest, split, plain⟩
      cases type.innerWith gap with
      | none => exact ⟨first, rest, split, plain⟩
      | some inner =>
          exact ⟨first, rest ++ '(' :: (inner ++ [')']), by rw [withInner, split]; rfl, plain⟩
    induction element with
    | array element inductionHypothesis =>
        rcases inductionHypothesis with ⟨first, rest, split, plain⟩
        exact ⟨first, rest ++ ['[', ']'], by rw [spelledWith, split]; rfl, plain⟩
    | _ => exact word _
  rcases front with ⟨first, rest, split, plain⟩
  refine Text.trim_eq_self ?_ ?_
  · intro c present
    rw [split] at present
    cases present
    exact plain
  · intro c present
    have last : c = ']' := by simpa [List.getLast?_append] using present.symm
    rw [last]
    decide

/-- A lower-case spelling is read as the canonical form of the type that it was made from. -/
theorem ofLowered_spelledWith {gap : List Char} (blank : ∀ c ∈ gap, c = ' ') (type : LogicalType)
    {fuel : Nat} (enough : type.depth ≤ fuel) :
    ofLowered (fuel + 1) (type.spelledWith gap) = type.canonical := by
  have single : ∀ (type : LogicalType) (fuel : Nat),
      ofName? type.word.toList (withInner type.word.toList (type.innerWith gap)) =
        some type.canonical →
      ofLowered (fuel + 1) (withInner type.word.toList (type.innerWith gap)) = type.canonical := by
    intro type fuel named
    rcases withInner_plain type.word_mem (type.innerWith gap) with ⟨trimmed, unbracketed, name⟩
    rw [ofLowered, trimmed, unbracketed]
    simp only [name, named]
  induction type generalizing fuel with
  | array element inductionHypothesis =>
      rcases fuel with _ | fuel
      · exact absurd enough (Nat.not_succ_le_zero _)
      · have dropped := (Text.dropTail?_eq_some_iff ['[', ']']
          (element.spelledWith gap ++ ['[', ']']) (element.spelledWith gap)).mpr rfl
        rw [spelledWith, ofLowered, trim_array, dropped]
        exact congrArg array (inductionHypothesis (Nat.le_of_succ_le_succ enough))
  | decimal precision scale =>
      refine single (decimal precision scale) fuel ?_
      rw [word, ofName?_numeric, ofDecimalSpelling_withInner blank]
  | varchar length =>
      refine single (varchar length) fuel ?_
      rw [word, ofName?_varchar, lengthOfSpelling_withInner]
      rfl
  | bool => exact single bool fuel (ofName?_plain ("boolean", bool) (by simp) _)
  | int => exact single int fuel (ofName?_plain ("integer", int) (by simp) _)
  | float => exact single float fuel (ofName?_plain ("double precision", float) (by simp) _)
  | string => exact single string fuel (ofName?_plain ("text", string) (by simp) _)
  | date => exact single date fuel (ofName?_plain ("date", date) (by simp) _)
  | timestamp =>
      exact single timestamp fuel (ofName?_plain ("timestamptz", timestamp) (by simp) _)
  | json => exact single json fuel (ofName?_plain ("jsonb", json) (by simp) _)
  | uuid => exact single uuid fuel (ofName?_plain ("uuid", uuid) (by simp) _)
  | unknown => exact single unknown fuel (ofName?_plain ("text", string) (by simp) _)

end SchemaDrift.LogicalType
