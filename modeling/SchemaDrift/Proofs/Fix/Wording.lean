import Mathlib.Data.List.Find
import SchemaDrift.Proofs.Ddl.Naming
import SchemaDrift.Proofs.Fix.Denylist
import SchemaDrift.Proofs.Text.Chars

namespace SchemaDrift

namespace Validation

/-- The search for denied words finds in a text what it finds among some words. -/
def Reports (text : List Char) (words : List String) : Prop :=
  findDenied false text = words.find? deniedWords.contains

/-- A text passes when the search for denied words finds nothing in it. -/
def Passes (text : List Char) : Prop := Reports text []

instance (text : List Char) : Decidable (Passes text) :=
  inferInstanceAs (Decidable (findDenied false text = none))

/-- A name is denied when it is a denied word in some case. -/
def isDenied (name : String) : Bool := deniedWords.contains (Text.lowerString name)

/-- A character stands between words: it belongs to none, and it is the same in either case. -/
def isGap (c : Char) : Bool := !Text.isWordPart c && Text.lowerChar c == [c]

/-- A gap belongs to no word and is the same in either case. -/
theorem isGap_iff (c : Char) :
    isGap c = true ↔ Text.isWordPart c = false ∧ Text.lowerChar c = [c] := by
  simp [isGap]

/-- The denied words are made of letters. -/
theorem isAsciiLetter_of_mem_denied {word : String} (denied : word ∈ deniedWords) :
    ∀ c ∈ word.toList, Text.isAsciiLetter c = true := by
  have letters : (deniedWords.all fun word => word.toList.all Text.isAsciiLetter) = true := by
    decide
  exact List.all_eq_true.mp (List.all_eq_true.mp letters word denied)

/-- The denied words are made of word characters. -/
theorem isWordPart_of_mem_denied {word : String} (denied : word ∈ deniedWords) :
    ∀ c ∈ word.toList, Text.isWordPart c = true := by
  intro c present
  have part : isIdentifierPart c = true := by
    simp [isIdentifierPart, isAsciiLetter_of_mem_denied denied c present]
  exact ((isIdentifierPart_iff c).mp part).2

/-- A word is found before a gap as it is found at the end of a text. -/
theorem dropWord?_gap {gap : Char} (separates : isGap gap = true) {word : List Char}
    (letters : ∀ c ∈ word, Text.isWordPart c = true) (text rest : List Char) :
    dropWord? word (text ++ gap :: rest) = (dropWord? word text).map (· ++ gap :: rest) := by
  obtain ⟨outside, caseless⟩ := (isGap_iff gap).mp separates
  induction word generalizing text with
  | nil => rfl
  | cons letter word inductionHypothesis =>
      have later := inductionHypothesis fun c present => letters c (List.mem_cons_of_mem _ present)
      cases text with
      | nil =>
          have other : gap ≠ letter := by
            rintro rfl
            exact Bool.false_ne_true (outside.symm.trans (letters gap List.mem_cons_self))
          simp [dropWord?, caseless, other]
      | cons c text =>
          rw [List.cons_append, dropWord?, dropWord?, later]
          split <;> rfl

/-- The search at one place does not look beyond a gap. -/
theorem deniedAt?_gap {gap : Char} (separates : isGap gap = true) (text rest : List Char) :
    deniedAt? (text ++ gap :: rest) = deniedAt? text := by
  refine List.find?_congr fun word denied => ?_
  rw [dropWord?_gap separates (isWordPart_of_mem_denied denied)]
  cases dropWord? word.toList text with
  | none => rfl
  | some left => cases left <;> simp [((isGap_iff gap).mp separates).1]

/-- The search goes over a gap as if the text ended and began there. -/
theorem findDenied_gap {gap : Char} (separates : isGap gap = true) (withinWord : Bool)
    (text rest : List Char) :
    findDenied withinWord (text ++ gap :: rest) =
      (findDenied withinWord text).or (findDenied false rest) := by
  induction text generalizing withinWord with
  | nil =>
      have absent : deniedAt? (gap :: rest) = none := deniedAt?_gap separates [] rest
      cases withinWord <;> simp [findDenied, absent, ((isGap_iff gap).mp separates).1]
  | cons c text inductionHypothesis =>
      have here := deniedAt?_gap separates (c :: text) rest
      rw [List.cons_append] at here ⊢
      rw [findDenied, findDenied, here, inductionHypothesis]
      cases (if withinWord = true then none else deniedAt? (c :: text)) <;> rfl

/-- Of a text with a gap in it, the words on both sides are found. -/
theorem reports_gap {gap : Char} (separates : isGap gap = true) {text rest : List Char}
    {words others : List String} (left : Reports text words) (right : Reports rest others) :
    Reports (text ++ gap :: rest) (words ++ others) := by
  rw [Reports, findDenied_gap separates, left, right, List.find?_append]

/-- Nothing starts within a word. -/
theorem findDenied_within {text : List Char} (parts : ∀ c ∈ text, Text.isWordPart c = true) :
    findDenied true text = none := by
  induction text with
  | nil => rfl
  | cons c text inductionHypothesis =>
      rw [findDenied, parts c List.mem_cons_self]
      exact inductionHypothesis fun other present => parts other (List.mem_cons_of_mem _ present)

/-- A text that is one word starts with a word when it is the word in some case. -/
theorem startsWithWord_iff {text : List Char} (parts : ∀ c ∈ text, isIdentifierPart c = true)
    (word : String) :
    StartsWithWord word text ↔ Text.lowerString (String.ofList text) = word := by
  have ascii : ∀ c ∈ text, c.toNat < 128 := fun c present =>
    ((isIdentifierPart_iff c).mp (parts c present)).1
  have lowered : text.map Text.lowerChar = (text.map Text.lowerAscii).map ([·]) := by
    rw [List.map_map]
    exact List.map_congr_left fun c present => if_pos (ascii c present)
  have whole : Text.lowerString (String.ofList text) = word ↔
      text.map Text.lowerChar = word.toList.map ([·]) := by
    rw [lowered, List.map_inj_right (by simp), Text.lowerString, String.toList_ofList,
      Text.lower_of_ascii ascii]
    constructor
    · rintro rfl
      rw [String.toList_ofList]
    · intro same
      rw [same, String.ofList_toList]
  rw [whole]
  constructor
  · rintro ⟨letters, rest, rfl, same, ends⟩
    -- A rest would go on with a word character.
    have nothing : rest = [] := by
      cases rest with
      | nil => rfl
      | cons c rest =>
          have part := ((isIdentifierPart_iff c).mp (parts c (by simp))).2
          simp [part] at ends
    rw [nothing, List.append_nil]
    exact same
  · exact fun same => ⟨text, [], (List.append_nil text).symm, same, rfl⟩

/-- Of a text that is one word, the word is found in lower case. -/
theorem reports_word {text : List Char} (parts : ∀ c ∈ text, isIdentifierPart c = true) :
    Reports text [Text.lowerString (String.ofList text)] := by
  have inside : ∀ c ∈ text, Text.isWordPart c = true := fun c present =>
    ((isIdentifierPart_iff c).mp (parts c present)).2
  have start : findDenied false text = deniedAt? text := by
    cases text with
    | nil => decide
    | cons c rest =>
        have tail := findDenied_within fun other present =>
          inside other (List.mem_cons_of_mem _ present)
        rw [findDenied, inside c List.mem_cons_self, tail]
        cases deniedAt? (c :: rest) <;> rfl
  rw [Reports, start]
  cases found : deniedAt? text with
  | none =>
      have absent := (deniedAt?_eq_none_iff text).mp found
      simp only [startsWithWord_iff parts] at absent
      refine (List.find?_eq_none.mpr fun word same denied => ?_).symm
      rw [List.mem_singleton] at same
      rw [List.contains_iff_mem] at denied
      exact absent word denied same.symm
  | some word =>
      obtain ⟨denied, starts⟩ := starts_of_deniedAt? found
      rw [(startsWithWord_iff parts word).mp starts]
      exact (List.find?_cons_of_pos (List.contains_iff_mem.mpr denied)).symm

/-- A name with a character that is no letter is not denied. -/
theorem isDenied_of_mem {text : List Char} (parts : ∀ c ∈ text, isIdentifierPart c = true)
    {c : Char} (present : c ∈ text) (other : Text.isAsciiLetter c = false) :
    isDenied (String.ofList text) = false := by
  have ascii : ∀ c ∈ text, c.toNat < 128 := fun c present =>
    ((isIdentifierPart_iff c).mp (parts c present)).1
  rw [isDenied, ← Bool.not_eq_true, List.contains_iff_mem]
  intro denied
  have lowered : Text.lowerAscii c ∈ (Text.lowerString (String.ofList text)).toList := by
    rw [Text.lowerString, String.toList_ofList, String.toList_ofList, Text.lower_of_ascii ascii]
    exact List.mem_map_of_mem present
  have kept : Text.isAsciiLetter (Text.lowerAscii c) = Text.isAsciiLetter c :=
    Text.forall_ascii (fun c => Text.isAsciiLetter (Text.lowerAscii c) = Text.isAsciiLetter c)
      (by decide) (ascii c present)
  have letter := isAsciiLetter_of_mem_denied denied _ lowered
  exact Bool.false_ne_true (other.symm.trans (kept.symm.trans letter))

/-- Words that are not denied are as good as none. -/
theorem Reports.passes {text : List Char} {words : List String} (reports : Reports text words)
    (allowed : ∀ word ∈ words, word ∉ deniedWords) : Passes text := by
  refine reports.trans (List.find?_eq_none.mpr fun word present denied => ?_)
  exact allowed word present (List.contains_iff_mem.mp denied)

/-- Digits pass. -/
theorem passes_digits (n : Nat) : Passes (LogicalType.digits n) := by
  have plain : ∀ c ∈ LogicalType.digits n,
      isIdentifierPart c = true ∧ Text.isAsciiLetter c = false := by
    intro c present
    have digit := Text.isAsciiDigit_of_mem_toDigits present
    have ascii := (Text.digit_plain digit).2.2.2.2.2.2
    revert digit
    exact Text.forall_ascii (fun c => Text.isAsciiDigit c = true →
      isIdentifierPart c = true ∧ Text.isAsciiLetter c = false) (by decide) ascii
  have parts : ∀ c ∈ LogicalType.digits n, isIdentifierPart c = true :=
    fun c present => (plain c present).1
  refine (reports_word parts).passes fun word same => ?_
  obtain ⟨c, present⟩ := List.exists_mem_of_ne_nil (LogicalType.digits n) Nat.toDigits_ne_nil
  have allowed := isDenied_of_mem parts present (plain c present).2
  rw [isDenied, ← Bool.not_eq_true, List.contains_iff_mem] at allowed
  rwa [List.mem_singleton.mp same]

/-- Fixed text between names is allowed, and names end where it starts and start where it ends. -/
structure Between (mark : List Char) : Prop where
  starts : mark.head?.any isGap = true
  ends : mark.getLast?.any isGap = true
  allowed : Passes mark

instance (mark : List Char) : Decidable (Between mark) :=
  decidable_of_iff
    (mark.head?.any isGap = true ∧ mark.getLast?.any isGap = true ∧ Passes mark)
    ⟨fun facts => ⟨facts.1, facts.2.1, facts.2.2⟩,
      fun between => ⟨between.starts, between.ends, between.allowed⟩⟩

/-- Nothing is found in fixed text that ends in a gap. -/
theorem reports_lead {lead : List Char} (allowed : Passes lead)
    (ends : lead.getLast?.any isGap = true) {rest : List Char} {words : List String}
    (reports : Reports rest words) : Reports (lead ++ rest) words := by
  obtain ⟨gap, last, separates⟩ := (Option.any_eq_true _ _).mp ends
  obtain ⟨front, rfl⟩ := List.getLast?_eq_some_iff.mp last
  have clean : Passes front := by
    rw [Passes, Reports, findDenied_gap separates] at allowed
    exact (Option.or_eq_none_iff.mp allowed).1
  rw [List.append_assoc, List.singleton_append]
  exact reports_gap separates clean reports

/-- Nothing is found in fixed text between two others. -/
theorem reports_between {mark : List Char} (between : Between mark) {text rest : List Char}
    {words others : List String} (left : Reports text words) (right : Reports rest others) :
    Reports (text ++ mark ++ rest) (words ++ others) := by
  obtain ⟨gap, first, separates⟩ := (Option.any_eq_true _ _).mp between.starts
  obtain ⟨back, rfl⟩ := List.head?_eq_some_iff.mp first
  have behind := reports_lead between.allowed between.ends right
  have same : findDenied false (gap :: back ++ rest) = findDenied false (back ++ rest) :=
    findDenied_gap separates false [] (back ++ rest)
  rw [List.append_assoc, List.cons_append]
  exact reports_gap separates left (same.symm.trans behind)

/-- Of a name in a statement, the name is found in lower case, whether it is quoted or not. -/
theorem reports_identifier (identifier : Identifier) :
    Reports identifier.ddlChars [Text.lowerString identifier.name] := by
  have word := reports_word fun _ present => identifier.isIdentifierPart_of_mem present
  rw [String.ofList_toList] at word
  rw [Identifier.ddlChars]
  split
  · have opened := reports_lead (show Passes ['"'] by decide) (by decide) word
    exact reports_gap (by decide) opened (show Passes [] from rfl)
  · exact word

theorem passes_type (type : LogicalType) : Passes type.ddlChars := by
  have enclosed : ∀ {name inner : List Char}, Passes name → Passes inner →
      Passes (name ++ '(' :: (inner ++ ')' :: [])) := fun first second =>
    reports_gap (by decide) first (reports_gap (by decide) second (show Passes [] from rfl))
  induction type with
  | array element inductionHypothesis =>
      exact reports_gap (by decide) inductionHypothesis (show Passes [']'] by decide)
  | decimal precision scale =>
      cases precision with
      | none => exact show Passes ("NUMERIC".toList ++ []) by decide
      | some precision =>
          cases scale with
          | none => exact enclosed (by decide) (passes_digits _)
          | some scale =>
              have numbers := reports_between (show Between [',', ' '] by decide)
                (passes_digits precision.toNat) (passes_digits scale.toNat)
              rw [List.append_assoc] at numbers
              exact enclosed (by decide) numbers
  | varchar length =>
      cases length with
      | none => decide
      | some length => exact enclosed (by decide) (passes_digits _)
  | _ => decide

/-- Of a column in a statement, the name is found in lower case. -/
theorem reports_column (column : ColumnDefinition) :
    Reports column.ddlChars [Text.lowerString column.name.name] := by
  have typed : Passes column.typeChars := by
    unfold ColumnDefinition.typeChars
    split
    · decide
    · exact passes_type column.type
  have named := reports_gap (show isGap ' ' = true by decide) (reports_identifier column.name) typed
  have marked : ∀ {mark : List Char}, Passes mark →
      Reports (column.name.ddlChars ++ ' ' :: column.typeChars ++ ' ' :: mark)
        [Text.lowerString column.name.name] :=
    fun allowed => reports_gap (by decide) named allowed
  rw [ColumnDefinition.ddlChars, ColumnDefinition.markChars]
  split
  · exact marked (show Passes "PRIMARY KEY".toList by decide)
  · split
    · rw [List.append_nil]
      exact named
    · exact marked (show Passes "NOT NULL".toList by decide)

/-- Of parts with commas between them, the words of each are found. -/
theorem reports_listed {Part : Type} {render : Part → List Char} {word : Part → String}
    (each : ∀ part, Reports (render part) [word part]) (parts : List Part) :
    Reports (DdlStatement.listed (parts.map render)) (parts.map word) := by
  rw [DdlStatement.listed]
  induction parts with
  | nil => exact show Passes [] from rfl
  | cons part parts inductionHypothesis =>
      cases parts with
      | nil => exact each part
      | cons next parts =>
          rw [List.map_cons, Text.joinWith]
          · exact reports_between (by decide) (each part) inductionHypothesis
          · exact List.cons_ne_nil _ _

/-- The names of a statement in lower case. -/
def namesOf (statement : DdlStatement) : List String :=
  statement.identifiers.map fun identifier => Text.lowerString identifier.name

/-- Of a statement, its names are found in lower case. -/
theorem reports_statement (statement : DdlStatement) :
    Reports statement.ddlChars (namesOf statement) := by
  have lead (text : String) (allowed : Passes text.toList)
      (ends : text.toList.getLast?.any isGap = true) (identifier : Identifier) :
      Reports (text.toList ++ identifier.ddlChars) [Text.lowerString identifier.name] :=
    reports_lead allowed ends (reports_identifier identifier)
  have closed : ∀ {text : List Char} {words : List String}, Reports text words →
      Reports (text ++ [')']) words := by
    intro text words reports
    have ended := reports_gap (show isGap ')' = true by decide) reports (show Passes [] from rfl)
    rwa [List.append_nil] at ended
  unfold DdlStatement.ddlChars
  cases statement with
  | createTable table columns =>
      have named := lead "CREATE TABLE IF NOT EXISTS " (by decide +kernel) (by decide) table
      have whole := reports_between (show Between " (".toList by decide +kernel) named
        (reports_listed reports_column columns)
      rw [namesOf, DdlStatement.identifiers, List.map_cons, List.map_map]
      exact closed whole
  | addColumn table column =>
      have named := lead "ALTER TABLE " (by decide +kernel) (by decide) table
      exact reports_between (show Between " ADD COLUMN IF NOT EXISTS ".toList by decide +kernel) named
        (reports_column column)
  | createIndex name table columns =>
      have named := lead "CREATE INDEX IF NOT EXISTS " (by decide +kernel) (by decide) name
      have placed := reports_between (show Between " ON ".toList by decide +kernel) named
        (reports_identifier table)
      have whole := reports_between (show Between " (".toList by decide +kernel) placed
        (reports_listed reports_identifier columns)
      exact closed whole
  | alterColumnType table column type previous =>
      have named := lead "ALTER TABLE " (by decide +kernel) (by decide) table
      have placed := reports_between (show Between " ALTER COLUMN ".toList by decide +kernel) named
        (reports_identifier column)
      have typed := reports_between (show Between " TYPE ".toList by decide +kernel) placed
        (passes_type type)
      have again := reports_between (show Between " USING ".toList by decide +kernel) typed
        (reports_identifier column)
      have whole := reports_between (show Between "::".toList by decide +kernel) again (passes_type type)
      -- The column is written twice, and what is found in it the first time is found.
      refine Eq.trans whole ?_
      simp only [namesOf, DdlStatement.identifiers, List.map_cons, List.map_nil, List.cons_append,
        List.nil_append, List.append_nil, List.find?_cons]
      cases deniedWords.contains (Text.lowerString column.name) <;> rfl

/-- The denylist finds in a statement what it finds among its names. -/
theorem deniedWord?_eq (statement : DdlStatement) :
    deniedWord? statement.toDdl = (namesOf statement).find? deniedWords.contains := by
  rw [deniedWord?, DdlStatement.toDdl, String.toList_ofList]
  exact reports_statement statement

/-- A statement passes the denylist exactly when none of its names is denied. -/
theorem deniedWord?_toDdl (statement : DdlStatement) :
    deniedWord? statement.toDdl = none ↔
      ∀ identifier ∈ statement.identifiers, isDenied identifier.name = false := by
  rw [deniedWord?_eq, List.find?_eq_none, namesOf, List.forall_mem_map]
  refine forall₂_congr fun identifier _ => ?_
  rw [isDenied, Bool.not_eq_true]

/-- The denylist sees the names of a statement and nothing else: what it finds is the first of them
that is a denied word in lower case, so it finds a word exactly when there is such a name. -/
theorem deniedWord?_finds_names (statement : DdlStatement) :
    deniedWord? statement.toDdl = (namesOf statement).find? deniedWords.contains ∧
      ((deniedWord? statement.toDdl).isSome = true ↔
        ∃ identifier ∈ statement.identifiers, Text.lowerString identifier.name ∈ deniedWords) ∧
      ∀ word, deniedWord? statement.toDdl = some word →
        word ∈ deniedWords ∧
          ∃ identifier ∈ statement.identifiers, Text.lowerString identifier.name = word := by
  refine ⟨deniedWord?_eq statement, ?_, fun word found => ?_⟩
  · simp only [deniedWord?_eq, List.find?_isSome, namesOf, List.mem_map, exists_exists_and_eq_and,
      List.contains_iff_mem]
  · rw [deniedWord?_eq] at found
    have denied := List.find?_some found
    have named := List.mem_of_find?_eq_some found
    rw [List.contains_iff_mem] at denied
    exact ⟨denied, List.mem_map.mp named⟩

/-- A table is found by its name, and a column that only starts with a denied word is not. -/
theorem deniedWord?_finds_names_table :
    "grant" ∈ deniedWords ∧
      ∃ identifier ∈ (DdlStatement.createTable ⟨"Grant", by decide⟩
        [.plain ⟨"drop_off", by decide⟩ .string]).identifiers,
        Text.lowerString identifier.name = "grant" :=
  (deniedWord?_finds_names (.createTable ⟨"Grant", by decide⟩
    [.plain ⟨"drop_off", by decide⟩ .string])).2.2 "grant" (by decide +kernel)

end Validation

end SchemaDrift
