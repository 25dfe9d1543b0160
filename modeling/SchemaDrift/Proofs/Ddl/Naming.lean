import SchemaDrift.Ddl.Basic
import SchemaDrift.Proofs.Text.Utf8

namespace SchemaDrift

/-- The characters that a name may go on with are the word characters of ASCII. -/
theorem isIdentifierPart_iff (c : Char) :
    isIdentifierPart c = true ↔ c.toNat < 128 ∧ Text.isWordPart c = true := by
  constructor
  · intro part
    have ascii : c.toNat < 128 := by
      have least : ∀ {last : Char}, c ≤ last → last.toNat < 128 → c.toNat < 128 :=
        fun before small => Nat.lt_of_le_of_lt (Char.le_def.mp before) small
      simp only [isIdentifierPart, Text.isAsciiLetter, Text.isAsciiDigit, Bool.or_eq_true,
        Bool.and_eq_true, decide_eq_true_eq, beq_iff_eq] at part
      obtain ((⟨_, last⟩ | ⟨_, last⟩) | ⟨_, last⟩) | rfl := part
      · exact least last (by decide)
      · exact least last (by decide)
      · exact least last (by decide)
      · decide
    refine ⟨ascii, ?_⟩
    rw [Text.isWordPart, if_pos ascii]
    exact part
  · rintro ⟨ascii, part⟩
    rw [Text.isWordPart, if_pos ascii] at part
    exact part

/-- A name may go on with what it may start with. -/
theorem isIdentifierPart_of_start {c : Char} (start : isIdentifierStart c = true) :
    isIdentifierPart c = true := by
  rw [isIdentifierStart, Bool.or_eq_true] at start
  rw [isIdentifierPart, Bool.or_eq_true, Bool.or_eq_true]
  exact start.imp_left .inl

/-- A valid name is made of the characters of names. -/
theorem Identifier.isIdentifierPart_of_mem (identifier : Identifier) {c : Char}
    (present : c ∈ identifier.name.toList) : isIdentifierPart c = true := by
  have valid := identifier.valid
  rw [isValidName, Bool.and_eq_true] at valid
  cases name : identifier.name.toList with
  | nil =>
      rw [name] at present
      cases present
  | cons first rest =>
      rw [name] at present valid
      have form := valid.1
      rw [isIdentifierForm, Bool.and_eq_true, List.all_eq_true] at form
      obtain rfl | later := List.mem_cons.mp present
      · exact isIdentifierPart_of_start form.1
      · exact form.2 c later

/-- A name of the right form is valid when it is short enough. -/
theorem isValidName_ofList {first : Char} {rest : List Char}
    (start : isIdentifierStart first = true) (parts : ∀ c ∈ rest, isIdentifierPart c = true)
    (short : Text.utf8Length (first :: rest) ≤ maxIdentifierLength) :
    isValidName (String.ofList (first :: rest)) = true := by
  rw [isValidName, String.toList_ofList, isIdentifierForm, Bool.and_eq_true, Bool.and_eq_true,
    List.all_eq_true, decide_eq_true_eq]
  exact ⟨⟨start, parts⟩, short⟩

namespace Digest

/-- The bytes of a number are below 256. -/
theorem lt_of_mem_bigEndian {width n byte : Nat} (present : byte ∈ bigEndian width n) :
    byte < 256 := by
  induction width generalizing n with
  | zero => cases present
  | succ width inductionHypothesis =>
      rw [bigEndian, List.mem_append, List.mem_singleton] at present
      obtain higher | rfl := present
      · exact inductionHypothesis higher
      · exact Nat.mod_lt n (by decide)

/-- A hash consists of bytes. -/
theorem lt_of_mem_sha256 {message : List Nat} {byte : Nat} (present : byte ∈ sha256 message) :
    byte < 256 := by
  rw [sha256] at present
  obtain ⟨word, _, found⟩ := List.mem_flatMap.mp present
  exact lt_of_mem_bigEndian found

/-- A short hash has at most its number of digits, and they may all stand in a name. -/
theorem shortHash_parts (digits : Nat) (text : List Char) :
    (shortHash digits text).toList.length ≤ digits ∧
      ∀ c ∈ (shortHash digits text).toList, isIdentifierPart c = true := by
  rw [shortHash, String.toList_ofList]
  refine ⟨List.length_take_le _ _, ?_⟩
  intro c present
  obtain ⟨byte, found, digit⟩ := List.mem_flatMap.mp (List.mem_of_mem_take present)
  have small := lt_of_mem_sha256 found
  have hexadecimal : ∀ n < 16, isIdentifierPart (Text.hexChar n) = true := by decide
  simp only [List.mem_cons, List.not_mem_nil, or_false] at digit
  obtain rfl | rfl := digit
  · exact hexadecimal _ (by omega)
  · exact hexadecimal _ (by omega)

end Digest

/-- What the names of indexes start with is made of the characters of names. -/
theorem isIdentifierPart_of_mem_index {rest : List Char}
    (parts : ∀ c ∈ rest, isIdentifierPart c = true) :
    ∀ c ∈ "idx_".toList ++ rest, isIdentifierPart c = true := by
  have lead := List.all_eq_true.mp (show "idx_".toList.all isIdentifierPart = true by decide)
  intro c present
  obtain early | later := List.mem_append.mp present
  · exact lead c early
  · exact parts c later

/-- Every index on one column has a name, which starts like the names of indexes. -/
theorem indexName_ok (table column : Identifier) :
    ∃ name rest, indexName table column = .ok name ∧
      name.name = String.ofList ("idx_".toList ++ rest) := by
  have made : ∀ {rest : List Char}, (∀ c ∈ rest, isIdentifierPart c = true) →
      Text.utf8Length ("idx_".toList ++ rest) ≤ maxIdentifierLength →
        ∃ name other, Identifier.ofName (String.ofList ("idx_".toList ++ rest)) = .ok name ∧
          name.name = String.ofList ("idx_".toList ++ other) := by
    intro rest parts short
    have lead := isIdentifierPart_of_mem_index parts
    have valid := isValidName_ofList (show isIdentifierStart 'i' = true by decide)
      (fun c present => lead c (List.mem_cons_of_mem _ present)) short
    exact ⟨⟨_, valid⟩, rest, by rw [Identifier.ofName]; exact dif_pos valid, rfl⟩
  have parts : ∀ c ∈ table.name.toList ++ '_' :: column.name.toList, isIdentifierPart c = true := by
    intro c present
    rw [List.mem_append, List.mem_cons] at present
    obtain inTable | rfl | inColumn := present
    · exact table.isIdentifierPart_of_mem inTable
    · decide
    · exact column.isIdentifierPart_of_mem inColumn
  unfold indexName
  simp only [List.append_assoc]
  split
  · rename_i short
    exact made parts short
  · generalize hashed : Digest.shortHash 8 _ = suffix
    obtain ⟨few, digits⟩ := hashed ▸ Digest.shortHash_parts 8 _
    -- The name is cut behind its lead, so that it keeps the lead.
    have cut : ("idx_".toList ++ (table.name.toList ++ '_' :: column.name.toList)).take 54 ++
        '_' :: suffix.toList = "idx_".toList ++
          ((table.name.toList ++ '_' :: column.name.toList).take 50 ++ '_' :: suffix.toList) := rfl
    have whole : ∀ c ∈ (table.name.toList ++ '_' :: column.name.toList).take 50 ++
        '_' :: suffix.toList, isIdentifierPart c = true := by
      intro c present
      rw [List.mem_append, List.mem_cons] at present
      obtain early | rfl | digit := present
      · exact parts c (List.mem_of_mem_take early)
      · decide
      · exact digits c digit
    rw [cut]
    refine made whole ?_
    rw [(Text.utf8Length_eq_length_iff _).mpr fun c present =>
      ((isIdentifierPart_iff c).mp (isIdentifierPart_of_mem_index whole c present)).1]
    have lead : "idx_".toList.length = 4 := rfl
    simp only [List.length_append, List.length_cons, List.length_take, lead, maxIdentifierLength]
    omega

end SchemaDrift
