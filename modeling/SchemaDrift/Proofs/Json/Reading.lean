import Mathlib.Data.Bool.AllAny
import SchemaDrift.Proofs.Json.Layout
import SchemaDrift.Proofs.Text.Chars

namespace SchemaDrift.Json

/-- The number of brackets that are open at the deepest place of a value. -/
def depth : Json → Nat
  | array items => depthItems items + 1
  | object members => depthMembers members + 1
  | _ => 0
where
  /-- The depth of the deepest element. -/
  depthItems : List Json → Nat
    | [] => 0
    | item :: items => max (depth item) (depthItems items)
  /-- The depth of the deepest member. -/
  depthMembers : List (String × Json) → Nat
    | [] => 0
    | (_, value) :: members => max (depth value) (depthMembers members)

def Whole : Json → Prop
  | integer value => -9223372036854775808 ≤ value ∧ value ≤ word64
  | real _ => False
  | array items => wholeItems items
  | object members => wholeMembers members
  | _ => True
where
  /-- The numbers of all elements are whole. -/
  wholeItems : List Json → Prop
    | [] => True
    | item :: items => Whole item ∧ wholeItems items
  /-- The numbers of all members are whole. -/
  wholeMembers : List (String × Json) → Prop
    | [] => True
    | (_, value) :: members => Whole value ∧ wholeMembers members

/-- The numbers of an array are whole when those of its elements are. -/
theorem whole_array_iff (items : List Json) :
    (array items).Whole ↔ ∀ item ∈ items, item.Whole := by
  show Whole.wholeItems items ↔ _
  induction items with
  | nil => simp [Whole.wholeItems]
  | cons item items inductionHypothesis =>
      rw [Whole.wholeItems, inductionHypothesis, List.forall_mem_cons]

theorem whole_object_iff (members : List (String × Json)) :
    (object members).Whole ↔ ∀ member ∈ members, member.2.Whole := by
  show Whole.wholeMembers members ↔ _
  induction members with
  | nil => simp [Whole.wholeMembers]
  | cons member members inductionHypothesis =>
      rw [Whole.wholeMembers, inductionHypothesis, List.forall_mem_cons]

/-- An array is one deeper than its elements. -/
theorem depth_array_le_iff (items : List Json) (limit : Nat) :
    (array items).depth ≤ limit + 1 ↔ ∀ item ∈ items, item.depth ≤ limit := by
  have inner : depth.depthItems items ≤ limit ↔ ∀ item ∈ items, item.depth ≤ limit := by
    induction items with
    | nil => simp [depth.depthItems]
    | cons item items inductionHypothesis =>
        rw [depth.depthItems, Nat.max_le, inductionHypothesis, List.forall_mem_cons]
  rw [← inner]
  exact Nat.succ_le_succ_iff

theorem depth_object_le_iff (members : List (String × Json)) (limit : Nat) :
    (object members).depth ≤ limit + 1 ↔ ∀ member ∈ members, member.2.depth ≤ limit := by
  have inner : depth.depthMembers members ≤ limit ↔ ∀ member ∈ members, member.2.depth ≤ limit := by
    induction members with
    | nil => simp [depth.depthMembers]
    | cons member members inductionHypothesis =>
        rw [depth.depthMembers, Nat.max_le, inductionHypothesis, List.forall_mem_cons]
  rw [← inner]
  exact Nat.succ_le_succ_iff

/-- A hexadecimal digit is read as the number that it writes. -/
theorem hexDigit?_hexChar {n : Nat} (digit : n < 16) : Text.hexDigit? (Text.hexChar n) = some n := by
  have checked : ∀ n < 16, Text.hexDigit? (Text.hexChar n) = some n := by decide
  exact checked n digit

/-- The characters that are written as a letter behind a backslash, each with its letter. -/
def letterEscapes : List (Char × Char) :=
  [('"', '"'), ('\\', '\\'), (Char.ofNat 8, 'b'), (Char.ofNat 12, 'f'), ('\n', 'n'), ('\r', 'r'),
    ('\t', 't')]

/-- The ways in which a character is written inside a string: as a letter behind a backslash, by its
number, or as itself. -/
inductive Escaped : Char → List Char → Prop where
  | letter {c letter : Char} (listed : (c, letter) ∈ letterEscapes) : Escaped c ['\\', letter]
  | number {c : Char} (control : c.toNat < 0x20) :
      Escaped c ['\\', 'u', '0', '0', Text.hexChar (c.toNat / 16), Text.hexChar (c.toNat % 16)]
  | plain {c : Char} (unlisted : c ∉ letterEscapes.map Prod.fst) (printed : ¬ c.toNat < 0x20) :
      Escaped c [c]

/-- Every character is written in one of these ways. -/
theorem escaped_escapeChar (c : Char) : Escaped c (escapeChar c) := by
  have same : ∀ {n : Nat}, (c.toNat == n) = true → c = Char.ofNat n := fun equal => by
    rw [← beq_iff_eq.mp equal, Char.ofNat_toNat]
  by_cases listed : c ∈ letterEscapes.map Prod.fst
  · simp only [letterEscapes, List.map_cons, List.map_nil, List.mem_cons, List.not_mem_nil,
      or_false] at listed
    obtain rfl | rfl | rfl | rfl | rfl | rfl | rfl := listed <;> exact .letter (by decide)
  · have others := listed
    simp only [letterEscapes, List.map_cons, List.map_nil, List.mem_cons, List.not_mem_nil,
      or_false, not_or] at others
    obtain ⟨quote, backslash, backspace, formFeed, lineBreak, carriageReturn, tab⟩ := others
    have spelled : escapeChar c = if c.toNat < 0x20 then
        ['\\', 'u', '0', '0', Text.hexChar (c.toNat / 16), Text.hexChar (c.toNat % 16)]
        else [c] := by
      rw [escapeChar, if_neg (mt beq_iff_eq.mp quote), if_neg (mt beq_iff_eq.mp backslash),
        if_neg (mt same backspace), if_neg (mt same formFeed), if_neg (mt beq_iff_eq.mp lineBreak),
        if_neg (mt beq_iff_eq.mp carriageReturn), if_neg (mt beq_iff_eq.mp tab)]
    rw [spelled]
    split
    case isTrue control => exact .number control
    case isFalse printed => exact .plain listed printed

/-- A letter behind a backslash is read as the character that it is written for. -/
theorem readEscape_letter {c letter : Char} (listed : (c, letter) ∈ letterEscapes)
    (rest : List Char) : readEscape (letter :: rest) = some (c, rest) := by
  simp only [letterEscapes, List.mem_cons, Prod.mk.injEq, List.not_mem_nil, or_false] at listed
  obtain ⟨rfl, rfl⟩ | ⟨rfl, rfl⟩ | ⟨rfl, rfl⟩ | ⟨rfl, rfl⟩ | ⟨rfl, rfl⟩ | ⟨rfl, rfl⟩ | ⟨rfl, rfl⟩ :=
    listed <;> rfl

/-- The number of a control character is read as the character. -/
theorem readEscape_number {c : Char} (control : c.toNat < 0x20) (rest : List Char) :
    readEscape ('u' :: '0' :: '0' :: Text.hexChar (c.toNat / 16) :: Text.hexChar (c.toNat % 16) ::
      rest) = some (c, rest) := by
  have high : Text.hexDigit? (Text.hexChar (c.toNat / 16)) = some (c.toNat / 16) :=
    hexDigit?_hexChar (by omega)
  have low : Text.hexDigit? (Text.hexChar (c.toNat % 16)) = some (c.toNat % 16) :=
    hexDigit?_hexChar (by omega)
  have zero : Text.hexDigit? '0' = some 0 := rfl
  have value : c.toNat / 16 * 16 + c.toNat % 16 = c.toNat := by omega
  have unit : readHex4 ('0' :: '0' :: Text.hexChar (c.toNat / 16) ::
      Text.hexChar (c.toNat % 16) :: rest) = some (c.toNat, rest) := by
    simp [readHex4, high, low, zero, value]
  rw [readEscape, unit]
  simp only
  rw [if_neg (by simp; omega), if_neg (by simp; omega), Char.ofNat_toNat]

/-- A character is read from its written form inside a string. -/
theorem readString_escapeChar (c : Char) (fuel : Nat) (rest : List Char) :
    readString (fuel + 1) (escapeChar c ++ rest) =
      (readString fuel rest).map fun read => (c :: read.1, read.2) := by
  have escape : ∀ code : List Char, readEscape (code ++ rest) = some (c, rest) →
      readString (fuel + 1) ('\\' :: code ++ rest) =
        (readString fuel rest).map fun read => (c :: read.1, read.2) := by
    intro code meaning
    rw [List.cons_append, readString]
    rw [if_neg (by decide), if_pos (by decide), meaning]
    simp only [Option.bind_eq_bind, Option.bind_some]
    cases readString fuel rest <;> rfl
  have escaped := escaped_escapeChar c
  generalize escapeChar c = written at escaped ⊢
  cases escaped with
  | letter listed => exact escape [_] (readEscape_letter listed rest)
  | number control => exact escape ['u', '0', '0', _, _] (readEscape_number control rest)
  | plain unlisted printed =>
      have quote : ¬ (c == '"') = true := fun same => unlisted (beq_iff_eq.mp same ▸ by decide)
      have backslash : ¬ (c == '\\') = true := fun same =>
        unlisted (beq_iff_eq.mp same ▸ by decide)
      rw [List.singleton_append, readString, if_neg quote, if_neg backslash, if_neg printed]
      cases readString fuel rest <;> rfl

/-- A text is read from its written form between quotes. -/
theorem readString_flatMap_escapeChar {text : List Char} {fuel : Nat} (enough : text.length < fuel)
    (rest : List Char) :
    readString fuel (text.flatMap escapeChar ++ '"' :: rest) = some (text, rest) := by
  induction text generalizing fuel with
  | nil =>
      cases fuel with
      | zero => cases enough
      | succ fuel => rfl
  | cons c text inductionHypothesis =>
      cases fuel with
      | zero => cases enough
      | succ fuel =>
          rw [List.flatMap_cons, List.append_assoc, readString_escapeChar,
            inductionHypothesis (Nat.lt_of_succ_lt_succ enough)]
          rfl

/-- A text in quotes stands before what follows it. -/
theorem quote_append (value : String) (rest : List Char) :
    quote value ++ rest = '"' :: (value.toList.flatMap escapeChar ++ '"' :: rest) := by
  simp [quote]

/-- A text is no longer than its written form. -/
theorem length_le_flatMap_escapeChar (text : List Char) :
    text.length ≤ (text.flatMap escapeChar).length := by
  induction text with
  | nil => exact Nat.zero_le _
  | cons c text inductionHypothesis =>
      have nonempty : 0 < (escapeChar c).length := by
        have escaped := escaped_escapeChar c
        generalize escapeChar c = written at escaped ⊢
        cases escaped <;> exact Nat.succ_pos _
      rw [List.flatMap_cons, List.length_append, List.length_cons]
      omega

/-- A text is read from its quotes, however many characters follow it. -/
theorem readString_quote (value : String) (rest : List Char) :
    readString ((value.toList.flatMap escapeChar ++ '"' :: rest).length + 1)
      (value.toList.flatMap escapeChar ++ '"' :: rest) = some (value.toList, rest) := by
  have shorter := length_le_flatMap_escapeChar value.toList
  refine readString_flatMap_escapeChar ?_ rest
  rw [List.length_append]
  omega

/-- What follows a value does not prolong a number. -/
def Stops (rest : List Char) : Prop :=
  ∀ c ∈ rest.head?, Text.isAsciiDigit c = false ∧ c ∉ ['.', 'e', 'E']

/-- The digits of a number do not start with a zero that says nothing. -/
theorem head?_toDigits_ne_zero {n : Nat} (positive : 0 < n) :
    (Nat.toDigits 10 n).head? ≠ some '0' := by
  induction n using Nat.strongRecOn with
  | ind n inductionHypothesis =>
      by_cases small : n < 10
      · have checked : ∀ n < 10, 0 < n → n.digitChar ≠ '0' := by decide
        rw [Nat.toDigits_of_lt_base small, List.head?_cons, ne_eq, Option.some_inj]
        exact checked n small positive
      · rw [Nat.toDigits_of_base_le (by decide) (Nat.le_of_not_lt small),
          List.head?_append, Option.or_of_isSome (by simp [Nat.toDigits_ne_nil])]
        exact inductionHypothesis (n / 10) (by omega) (by omega)

/-- An unsigned number of 64 bits, or of 63 bits and a sign, is read from its digits. -/
theorem readUnsigned_toDigits (negative : Bool) {n : Nat} {rest : List Char}
    (fits : if negative then 0 < n ∧ n ≤ 9223372036854775808 else n ≤ word64)
    (stops : Stops rest) :
    readUnsigned negative (Nat.toDigits 10 n ++ rest) =
      some (integer (if negative then -(n : Int) else n), rest) := by
  have digital : ∀ c ∈ Nat.toDigits 10 n, Text.isAsciiDigit c = true :=
    fun c present => Text.isAsciiDigit_of_mem_toDigits present
  have run := Text.span_append digital fun c found => (stops c found).1
  have nonempty : (Nat.toDigits 10 n).isEmpty = false :=
    List.isEmpty_eq_false_iff.mpr Nat.toDigits_ne_nil
  have digits : readDigits (Nat.toDigits 10 n ++ rest) = some (Nat.toDigits 10 n, rest) := by
    rw [readDigits, run.1, run.2]
    simp [nonempty]
  have unpadded : ((Nat.toDigits 10 n).length > 1 && (Nat.toDigits 10 n).head? == some '0') =
      false := by
    obtain rfl | positive := Nat.eq_zero_or_pos n
    · rfl
    · rw [Bool.and_eq_false_iff]
      exact .inr (beq_eq_false_iff_ne.mpr (head?_toDigits_ne_zero positive))
  have whole : readFraction rest = some ([], rest) ∧ readExponent rest = some ([], 0, rest) := by
    cases rest with
    | nil => exact ⟨rfl, rfl⟩
    | cons c rest =>
        have other := (stops c rfl).2
        simp only [List.mem_cons, List.not_mem_nil, or_false, not_or] at other
        refine ⟨?_, by simp [readExponent, other]⟩
        rw [readFraction]
        rintro _ ⟨⟩
        exact other.1 rfl
  rw [readUnsigned]
  simp only [digits, Option.bind_eq_bind, Option.bind_some, unpadded, Bool.false_eq_true, if_false,
    whole.1, whole.2, Text.digitsValue_toDigits]
  rw [if_pos]
  cases negative <;> simpa using fits

/-- The text of a whole number starts with a sign or a digit. -/
theorem integerText_eq_cons (n : Int) :
    ∃ c text, integerText n = c :: text ∧ (c = '-' ∨ Text.isAsciiDigit c = true) := by
  cases n with
  | ofNat n =>
      obtain ⟨c, text, same⟩ := List.exists_cons_of_ne_nil (Nat.toDigits_ne_nil (b := 10) (n := n))
      have present : c ∈ Nat.toDigits 10 n := same ▸ List.mem_cons_self
      exact ⟨c, text, same, .inr (Text.isAsciiDigit_of_mem_toDigits present)⟩
  | negSucc n => exact ⟨'-', _, rfl, .inl rfl⟩

theorem readNumber_integerText {n : Int} (whole : (integer n).Whole) {rest : List Char}
    (stops : Stops rest) : readNumber (integerText n ++ rest) = some (integer n, rest) := by
  cases n with
  | ofNat n =>
      have read := readUnsigned_toDigits false (Int.ofNat_le.mp whole.2) stops
      rw [readNumber]
      · exact read
      · intro tail minus
        obtain ⟨c, text, same⟩ := List.exists_cons_of_ne_nil (Nat.toDigits_ne_nil (b := 10) (n := n))
        rw [integerText, same] at minus
        cases minus
        have digit := Text.isAsciiDigit_of_mem_toDigits (c := '-') (n := n)
          (same ▸ List.mem_cons_self)
        exact absurd digit (by decide)
  | negSucc n =>
      have least : n + 1 ≤ 9223372036854775808 := by
        have bound := whole.1
        omega
      exact readUnsigned_toDigits true ⟨Nat.succ_pos n, least⟩ stops

/-- The blanks at the start of a text are passed over. -/
theorem skipBlanks_append {gap : List Char} (blank : ∀ c ∈ gap, isBlank c = true)
    (rest : List Char) : skipBlanks (gap ++ rest) = skipBlanks rest :=
  List.dropWhile_append_of_pos blank

/-- A text that starts with no blank stays. -/
theorem skipBlanks_cons {c : Char} (solid : isBlank c = false) (rest : List Char) :
    skipBlanks (c :: rest) = c :: rest :=
  List.dropWhile_cons_of_neg (by simp only [isBlank] at solid; simp [solid])

/-- A value is read behind blanks as without them. -/
theorem readValue_append {gap : List Char} (blank : ∀ c ∈ gap, isBlank c = true) (budget : Nat)
    (rest : List Char) : readValue budget (gap ++ rest) = readValue budget rest := by
  rw [readValue.eq_def, readValue.eq_def budget rest]
  simp only [skipBlanks_append blank]

/-- A sign or a digit is no blank, and starts no value but a number. -/
theorem isBlank_numeral {c : Char} (numeral : c = '-' ∨ Text.isAsciiDigit c = true) :
    isBlank c = false ∧ c ∉ [']', '}', 'n', 't', 'f', '"', '[', '{'] := by
  obtain rfl | digit := numeral
  · decide
  · have undigital : ∀ c ∈ [' ', '\n', '\t', '\r', ']', '}', 'n', 't', 'f', '"', '[', '{'],
        Text.isAsciiDigit c = false := List.all_iff_forall_prop.mp (by decide)
    refine ⟨Bool.eq_false_iff.mpr fun blank => ?_, fun listed => ?_⟩
    · simp only [isBlank, Bool.or_eq_true, beq_iff_eq] at blank
      obtain ((rfl | rfl) | rfl) | rfl := blank <;> exact absurd digit (by decide)
    · have other := undigital c (List.mem_append_right [' ', '\n', '\t', '\r'] listed)
      exact absurd digit (by rw [other]; decide)

/-- The text of a value starts with no blank and no closing bracket. -/
theorem write_eq_cons (layout : Layout) (level : Nat) {value : Json} (whole : value.Whole) :
    ∃ c text, layout.write level value = c :: text ∧ isBlank c = false ∧ c ≠ ']' ∧ c ≠ '}' := by
  cases value with
  | null => exact ⟨'n', _, rfl, by decide⟩
  | bool value =>
      cases value
      · exact ⟨'f', _, rfl, by decide⟩
      · exact ⟨'t', _, rfl, by decide⟩
  | integer value =>
      obtain ⟨c, text, same, numeral⟩ := integerText_eq_cons value
      obtain ⟨solid, other⟩ := isBlank_numeral numeral
      simp only [List.mem_cons, not_or] at other
      exact ⟨c, text, same, solid, other.1, other.2.1⟩
  | real text => cases whole
  | string value => exact ⟨'"', _, rfl, by decide⟩
  | array items => cases items <;> exact ⟨'[', _, rfl, by decide⟩
  | object members =>
      cases members with
      | nil => exact ⟨'{', _, rfl, by decide⟩
      | cons member members => exact ⟨'{', _, rfl, by decide⟩

/-- The number at the start of a text is a value. -/
theorem readValue_integerText (budget : Nat) {n : Int} (whole : (integer n).Whole)
    {rest : List Char} (stops : Stops rest) :
    readValue budget (integerText n ++ rest) = some (integer n, rest) := by
  have read := readNumber_integerText whole stops
  obtain ⟨c, text, same, numeral⟩ := integerText_eq_cons n
  obtain ⟨solid, other⟩ := isBlank_numeral numeral
  rw [same, List.cons_append] at read ⊢
  rw [readValue.eq_def]
  simp only [skipBlanks_cons solid]
  split
  case h_7 => exact read
  all_goals
    rename_i head
    obtain ⟨rfl, _⟩ := List.cons.inj head
    exact absurd (by decide) other

/-- The text in quotes at the start of a text is a value. -/
theorem readValue_quote (budget : Nat) (value : String) (rest : List Char) :
    readValue budget (quote value ++ rest) = some (string value, rest) := by
  have opened : ∀ text, readValue budget ('"' :: text) =
      (readString (text.length + 1) text).map fun read => (string (String.ofList read.1), read.2) := by
    intro text
    cases budget <;> rfl
  rw [quote_append, opened, readString_quote, Option.map_some, String.ofList_toList]

/-- What closes a level or goes on with it does not prolong a number. -/
theorem stops_append {gap : List Char} (blank : ∀ c ∈ gap, isBlank c = true) {c : Char}
    (mark : c ∈ [',', ']', '}']) (rest : List Char) : Stops (gap ++ c :: rest) := by
  have plain : ∀ c ∈ [',', ']', '}', ' ', '\n', '\t', '\r'],
      Text.isAsciiDigit c = false ∧ c ∉ ['.', 'e', 'E'] :=
    List.all_iff_forall_prop.mp (by decide)
  intro first found
  refine plain first ?_
  cases gap with
  | nil =>
      cases found
      exact List.mem_append_left _ mark
  | cons before gap =>
      cases found
      have space := blank first List.mem_cons_self
      simp only [isBlank, Bool.or_eq_true, beq_iff_eq] at space
      obtain ((rfl | rfl) | rfl) | rfl := space <;> decide

/-- A mark behind a value does not prolong a number. -/
theorem stops_cons {c : Char} (mark : c ∈ [',', ']', '}']) (rest : List Char) : Stops (c :: rest) :=
  stops_append (List.forall_mem_nil _) mark rest

/-- Elements are read behind blanks as without them. -/
theorem readItems_append {gap : List Char} (blank : ∀ c ∈ gap, isBlank c = true) (budget : Nat)
    (fuel : Nat) (rest : List Char) :
    readItems (readValue budget) fuel (gap ++ rest) = readItems (readValue budget) fuel rest := by
  cases fuel with
  | zero => rfl
  | succ fuel => rw [readItems, readItems, readValue_append blank]

/-- The elements of an array are read from their text, unless one of them is too deep. -/
theorem readItems_write {layout : Layout} (blank : layout.Blank) {level : Nat} {budget : Nat}
    {item : Json} {items : List Json} {closing : List Char}
    (closes : ∀ c ∈ closing, isBlank c = true) (rest : List Char)
    (each : ∀ other ∈ item :: items, ∀ rest, Stops rest →
      readValue budget (layout.write level other ++ rest) =
        if other.depth ≤ budget then some (other, rest) else none)
    (fuel : Nat) (enough : items.length < fuel) :
    readItems (readValue budget) fuel (layout.write level item ++
      (Layout.write.writeItems layout level items ++ (closing ++ ']' :: rest))) =
        if depth.depthItems (item :: items) ≤ budget then some (item :: items, rest) else none := by
  induction items generalizing item fuel with
  | nil =>
      cases fuel with
      | zero => cases enough
      | succ fuel =>
          rw [Layout.write.writeItems, List.nil_append, readItems,
            each item List.mem_cons_self _ (stops_append closes (by decide) rest)]
          by_cases shallow : item.depth ≤ budget
          · have closed : skipBlanks (closing ++ ']' :: rest) = ']' :: rest := by
              rw [skipBlanks_append closes, skipBlanks_cons rfl]
            simp [shallow, closed, depth.depthItems]
          · simp [shallow, depth.depthItems]
  | cons next items inductionHypothesis =>
      cases fuel with
      | zero => cases enough
      | succ fuel =>
          rw [List.forall_mem_cons] at each
          have later := inductionHypothesis each.2 fuel (Nat.lt_of_succ_lt_succ enough)
          simp only [Layout.write.writeItems, List.cons_append, List.append_assoc]
          rw [readItems, each.1 _ (stops_cons (by decide) _), depth.depthItems]
          by_cases shallow : item.depth ≤ budget
          · rw [if_pos shallow]
            simp only [Option.bind_eq_bind, Option.bind_some, skipBlanks_cons (c := ',') rfl,
              readItems_append (blank.gap level), later, Nat.max_le, shallow, true_and]
            split <;> rfl
          · rw [if_neg shallow, if_neg fun fits => shallow (Nat.max_le.mp fits).1]
            rfl

/-- Members are read behind blanks as without them. -/
theorem readMembers_append {gap : List Char} (blank : ∀ c ∈ gap, isBlank c = true) (budget : Nat)
    (fuel : Nat) (rest : List Char) :
    readMembers (readValue budget) fuel (gap ++ rest) =
      readMembers (readValue budget) fuel rest := by
  cases fuel with
  | zero => rfl
  | succ fuel => rw [readMembers, readMembers, skipBlanks_append blank]

/-- The members of an object are read from their text, unless one of them is too deep. -/
theorem readMembers_write {layout : Layout} (blank : layout.Blank) {level : Nat} {budget : Nat}
    {key : String} {value : Json} {members : List (String × Json)} {closing : List Char}
    (closes : ∀ c ∈ closing, isBlank c = true) (rest : List Char)
    (each : ∀ other ∈ (key, value) :: members, ∀ rest, Stops rest →
      readValue budget (layout.write level other.2 ++ rest) =
        if other.2.depth ≤ budget then some (other.2, rest) else none)
    (fuel : Nat) (enough : members.length < fuel) :
    readMembers (readValue budget) fuel (quote key ++ ':' :: (layout.space ++
      (layout.write level value ++
        (Layout.write.writeMembers layout level members ++ (closing ++ '}' :: rest))))) =
          if depth.depthMembers ((key, value) :: members) ≤ budget then
            some ((key, value) :: members, rest)
          else none := by
  -- A member is read as its name, a colon and its value, and what follows it ends the object or
  -- goes on with the next member.
  have first : ∀ {fuel : Nat} {key : String} {value : Json} {after rest : List Char}
      {next : Option (List (String × Json) × List Char)},
      readValue budget (layout.write level value ++ after) =
        (if value.depth ≤ budget then some (value, after) else none) →
      (skipBlanks after = '}' :: rest ∧ next = some ([(key, value)], rest) ∨
        skipBlanks after = ',' :: rest ∧
          next = (readMembers (readValue budget) fuel rest).bind fun read =>
            some ((key, value) :: read.1, read.2)) →
      readMembers (readValue budget) (fuel + 1) (quote key ++ ':' :: (layout.space ++
        (layout.write level value ++ after))) = if value.depth ≤ budget then next else none := by
    intro fuel key value after rest next read follows
    rw [readMembers, quote_append, skipBlanks_cons (c := '"') rfl]
    simp only [readString_quote, Option.bind_eq_bind, Option.bind_some,
      skipBlanks_cons (c := ':') rfl, readValue_append blank.space, read, String.ofList_toList]
    split
    · obtain ⟨closed, rfl⟩ | ⟨continued, rfl⟩ := follows
      · simp only [Option.bind_some, closed]
      · simp only [Option.bind_some, continued]
    · rfl
  induction members generalizing key value fuel with
  | nil =>
      cases fuel with
      | zero => cases enough
      | succ fuel =>
          have closed : skipBlanks (closing ++ '}' :: rest) = '}' :: rest := by
            rw [skipBlanks_append closes, skipBlanks_cons rfl]
          rw [Layout.write.writeMembers, List.nil_append, first (each (key, value)
            List.mem_cons_self _ (stops_append closes (by decide) rest)) (.inl ⟨closed, rfl⟩)]
          simp [depth.depthMembers]
  | cons next members inductionHypothesis =>
      cases fuel with
      | zero => cases enough
      | succ fuel =>
          obtain ⟨name, content⟩ := next
          rw [List.forall_mem_cons] at each
          have later := inductionHypothesis each.2 fuel (Nat.lt_of_succ_lt_succ enough)
          simp only [Layout.write.writeMembers, List.cons_append, List.append_assoc]
          rw [first (each.1 _ (stops_cons (by decide) _)) (.inr ⟨skipBlanks_cons (c := ',') rfl _, rfl⟩),
            depth.depthMembers]
          simp only [readMembers_append (blank.gap level), later, Nat.max_le]
          by_cases shallow : value.depth ≤ budget
          · simp only [shallow, if_true, true_and]
            split <;> rfl
          · rw [if_neg shallow, if_neg fun fits => shallow fits.1]

/-- There are no more elements after the first than characters that write them. -/
theorem length_le_writeItems (layout : Layout) (level : Nat) (items : List Json) :
    items.length ≤ (Layout.write.writeItems layout level items).length := by
  induction items with
  | nil => exact Nat.zero_le _
  | cons item items inductionHypothesis =>
      simp only [Layout.write.writeItems, List.length_append, List.length_cons]
      omega

/-- There are no more members after the first than characters that write them. -/
theorem length_le_writeMembers (layout : Layout) (level : Nat) (members : List (String × Json)) :
    members.length ≤ (Layout.write.writeMembers layout level members).length := by
  induction members with
  | nil => exact Nat.zero_le _
  | cons member members inductionHypothesis =>
      simp only [Layout.write.writeMembers, List.length_append, List.length_cons]
      omega

/-- An array with elements is read as far as one less deep allows. -/
theorem readValue_array {gap : List Char} (blank : ∀ c ∈ gap, isBlank c = true) {c : Char}
    (solid : isBlank c = false) (opens : c ≠ ']') (budget : Nat) (text : List Char) :
    readValue (budget + 1) ('[' :: (gap ++ c :: text)) =
      (readItems (readValue budget) ((c :: text).length + 1) (c :: text)).map fun read =>
        (array read.1, read.2) := by
  -- The reader runs over the bracket, up to the blanks behind it.
  conv => lhs; whnf
  rw [skipBlanks_append blank, skipBlanks_cons solid]
  split
  · rename_i head
    exact absurd (List.cons.inj head).1 opens
  · rfl

/-- An object with members is read as far as one less deep allows. -/
theorem readValue_object {gap : List Char} (blank : ∀ c ∈ gap, isBlank c = true) (budget : Nat)
    (text : List Char) :
    readValue (budget + 1) ('{' :: (gap ++ '"' :: text)) =
      (readMembers (readValue budget) (('"' :: text).length + 1) ('"' :: text)).map fun read =>
        (object read.1, read.2) := by
  conv => lhs; whnf
  rw [skipBlanks_append blank, skipBlanks_cons rfl]
  rfl

theorem readValue_zero {bracket : Char} (opening : bracket ∈ ['[', '{']) (rest : List Char) :
    readValue 0 (bracket :: rest) = none := by
  simp only [List.mem_cons, List.not_mem_nil, or_false] at opening
  obtain rfl | rfl := opening <;> rfl

/-- A value is read from its text, in any layout, unless it is too deep. -/
theorem readValue_write {layout : Layout} (blank : layout.Blank) {value : Json}
    (whole : value.Whole) (level budget : Nat) {rest : List Char} (stops : Stops rest) :
    readValue budget (layout.write level value ++ rest) =
      if value.depth ≤ budget then some (value, rest) else none := by
  induction value using induction generalizing level budget rest with
  | null =>
      show readValue budget ('n' :: 'u' :: 'l' :: 'l' :: rest) = some (null, rest)
      cases budget <;> rfl
  | bool value =>
      cases value
      · show readValue budget ('f' :: 'a' :: 'l' :: 's' :: 'e' :: rest) = some (bool false, rest)
        cases budget <;> rfl
      · show readValue budget ('t' :: 'r' :: 'u' :: 'e' :: rest) = some (bool true, rest)
        cases budget <;> rfl
  | integer value => exact readValue_integerText budget whole stops
  | real text => cases whole
  | string value => exact readValue_quote budget value rest
  | array items each =>
      rw [whole_array_iff] at whole
      cases items with
      | nil =>
          show readValue budget ('[' :: ']' :: rest) = _
          cases budget with
          | zero => exact readValue_zero (by decide) _
          | succ budget => exact (if_pos (Nat.succ_le_succ (Nat.zero_le _))).symm
      | cons item items =>
          obtain ⟨c, text, same, solid, opens, _⟩ :=
            write_eq_cons layout (level + 1) (whole item List.mem_cons_self)
          simp only [Layout.write, List.cons_append, List.append_assoc, List.nil_append]
          cases budget with
          | zero => exact readValue_zero (by decide) _
          | succ budget =>
              have few := length_le_writeItems layout (level + 1) items
              have inner := readItems_write blank (blank.gap level) rest
                (fun other among rest stops =>
                  each other among (whole other among) (level + 1) budget stops)
                ((layout.write (level + 1) item ++
                  (Layout.write.writeItems layout (level + 1) items ++
                    (layout.gap level ++ ']' :: rest))).length + 1)
                (by simp only [List.length_append]; omega)
              rw [same, List.cons_append] at inner ⊢
              rw [readValue_array (blank.gap (level + 1)) solid opens, inner]
              simp only [depth, Nat.succ_le_succ_iff]
              split <;> rfl
  | object members each =>
      rw [whole_object_iff] at whole
      cases members with
      | nil =>
          show readValue budget ('{' :: '}' :: rest) = _
          cases budget with
          | zero => exact readValue_zero (by decide) _
          | succ budget => exact (if_pos (Nat.succ_le_succ (Nat.zero_le _))).symm
      | cons member members =>
          obtain ⟨key, value⟩ := member
          simp only [Layout.write, List.cons_append, List.append_assoc, List.nil_append]
          cases budget with
          | zero => exact readValue_zero (by decide) _
          | succ budget =>
              have few := length_le_writeMembers layout (level + 1) members
              have inner := readMembers_write blank (blank.gap level) rest
                (fun other among rest stops =>
                  each other among (whole other among) (level + 1) budget stops)
                ((quote key ++ ':' :: (layout.space ++ (layout.write (level + 1) value ++
                  (Layout.write.writeMembers layout (level + 1) members ++
                    (layout.gap level ++ '}' :: rest))))).length + 1)
                (by simp only [List.length_append, List.length_cons]; omega)
              rw [quote_append] at inner ⊢
              rw [readValue_object (blank.gap (level + 1)), inner]
              simp only [depth, Nat.succ_le_succ_iff]
              split <;> rfl

/-- A text in any layout writes just its value, or is refused where the value is too deep. -/
theorem read?_write {layout : Layout} (blank : layout.Blank) {value : Json} (whole : value.Whole)
    (level : Nat) :
    read? (layout.write level value) = if value.depth ≤ maxDepth then some value else none := by
  have read := readValue_write blank whole level maxDepth (show Stops [] from nofun)
  rw [List.append_nil] at read
  rw [read?, read]
  by_cases shallow : value.depth ≤ maxDepth
  · simp only [shallow, if_true]
    rfl
  · simp only [shallow, if_false]

/-- The indented text of a value is read as the value, or refused where the value is too deep. -/
theorem read?_toPrettyText {value : Json} (whole : value.Whole) :
    read? value.toPrettyText.toList = if value.depth ≤ maxDepth then some value else none := by
  rw [toPrettyText, String.toList_ofList, pretty_eq_write, read?_write indented_blank whole]

/-- The compact text of a value is read as the value, or refused where the value is too deep. -/
theorem read?_toCompactText {value : Json} (whole : value.Whole) :
    read? value.toCompactText.toList = if value.depth ≤ maxDepth then some value else none := by
  rw [toCompactText, String.toList_ofList, compact_eq_write value 0, read?_write dense_blank whole]

end SchemaDrift.Json
