import Mathlib.Data.Bool.AllAny
import SchemaDrift.Sql.Lexer
import SchemaDrift.Proofs.Ddl.Naming
import SchemaDrift.Proofs.Text.Chars

namespace SchemaDrift.Sql

/-- A text is cut into tokens in any number of steps above its length. -/
def Cuts (dialect : Dialect) (text : List Char) (tokens : List Token) : Prop :=
  ∀ fuel, text.length < fuel → Lexer.readTokens dialect fuel text = some tokens

/-- The characters that start a text, a placeholder or a comment, and those that stand between a letter
and a text. -/
def openers : List Char := ['\'', '"', '&', '?', '$', '-', '/']

def numberToken (n : Nat) : Token := .number (String.ofList (Nat.toDigits 10 n)) false

/-- The characters that end a word or a number. -/
def endings : List Char := [' ', '(', ')', ',', '[', ']', ':']

/-- A word or a number ends in front of the text: the text is empty, or starts with what ends it. -/
def Ends (text : List Char) : Prop := ∀ c ∈ text.head?, c ∈ endings

/-- Words with a blank behind each of them. -/
def spaced (words : List String) : List Char := words.flatMap fun word => word.toList ++ [' ']

variable {dialect : Dialect} {rest : List Char} {tokens : List Token}

/-- The end of a text ends a word. -/
theorem Ends.nil : Ends [] := nofun

/-- A blank or a mark ends a word. -/
theorem Ends.cons {c : Char} (ending : c ∈ endings) (rest : List Char) : Ends (c :: rest) := by
  intro first found
  cases found
  exact ending

/-- What ends a word or a number is no part of it, and does not make the start of a text of it. -/
theorem endings_plain (dialect : Dialect) {c : Char} (ending : c ∈ endings) :
    dialect.isNamePart c = false ∧ Text.isAsciiDigit c = false ∧ c ∉ openers ∧
      c ∉ ['.', 'x', 'e', 'E', 'L'] := by
  have checked : ∀ dialect : Dialect, ∀ c ∈ endings, dialect.isNamePart c = false ∧
      Text.isAsciiDigit c = false ∧ c ∉ openers ∧ c ∉ ['.', 'x', 'e', 'E', 'L'] := by
    intro dialect
    cases dialect <;> exact List.all_iff_forall_prop.mp (by decide)
  exact checked dialect c ending

namespace Cuts

/-- An empty text has no tokens. -/
theorem nil : Cuts dialect [] [] := by
  intro fuel enough
  cases fuel with
  | zero => cases enough
  | succ fuel => rfl

/-- A blank is passed over. -/
theorem blank (cuts : Cuts dialect rest tokens) : Cuts dialect (' ' :: rest) tokens := by
  intro fuel enough
  cases fuel with
  | zero => cases enough
  | succ fuel =>
      rw [Lexer.readTokens]
      · exact (if_pos (by decide)).trans (cuts fuel (Nat.lt_of_succ_lt_succ enough))
      · rintro _ ⟨⟩
      · rintro _ ⟨⟩

/-- A token that is read from the start of a text comes before those of what follows it. -/
theorem cons {c : Char} {text : List Char} {token : Token} (opens : c = '"' ∨ c ∉ openers)
    (solid : Text.isBlank c = false)
    (read : Lexer.readToken dialect (c :: text) = some (token, rest))
    (shorter : rest.length ≤ text.length) (cuts : Cuts dialect rest tokens) :
    Cuts dialect (c :: text) (token :: tokens) := by
  intro fuel enough
  cases fuel with
  | zero => cases enough
  | succ fuel =>
      have later := cuts fuel (Nat.lt_of_le_of_lt shorter (Nat.lt_of_succ_lt_succ enough))
      rw [Lexer.readTokens]
      · simp [solid, read, later]
      · rintro _ rfl
        exact absurd opens (by decide)
      · rintro _ rfl
        exact absurd opens (by decide)

end Cuts

namespace Lexer

/-- The characters of names may stand in a word, and do not start anything else. -/
theorem identifierPart_plain (dialect : Dialect) {c : Char} (part : isIdentifierPart c = true) :
    dialect.isNamePart c = true ∧ c ∉ openers ∧
      Text.isBlank c = false := by
  have checked : ∀ dialect : Dialect, ∀ n < 128, isIdentifierPart (Char.ofNat n) = true →
      dialect.isNamePart (Char.ofNat n) = true ∧
        Char.ofNat n ∉ openers ∧
          Text.isBlank (Char.ofNat n) = false := by
    intro dialect
    cases dialect <;> decide +kernel
  exact Text.forall_ascii (fun c => isIdentifierPart c = true → dialect.isNamePart c = true ∧
    c ∉ openers ∧ Text.isBlank c = false) (checked dialect)
    ((isIdentifierPart_iff c).mp part).1 part

/-- The characters that names start with start a word and nothing else. -/
theorem identifierStart_opens (dialect : Dialect) {c : Char}
    (start : isIdentifierStart c = true) :
    dialect.isNameQuote c = false ∧ (Text.isAsciiDigit c || c == '.') = false ∧
      (Text.isAlphabetic c || c == '_') = true := by
  have checked : ∀ dialect : Dialect, ∀ n < 128, isIdentifierStart (Char.ofNat n) = true →
      dialect.isNameQuote (Char.ofNat n) = false ∧
        (Text.isAsciiDigit (Char.ofNat n) || Char.ofNat n == '.') = false ∧
          (Text.isAlphabetic (Char.ofNat n) || Char.ofNat n == '_') = true := by
    intro dialect
    cases dialect <;> decide +kernel
  exact Text.forall_ascii (fun c => isIdentifierStart c = true → dialect.isNameQuote c = false ∧
    (Text.isAsciiDigit c || c == '.') = false ∧ (Text.isAlphabetic c || c == '_') = true)
    (checked dialect) ((isIdentifierPart_iff c).mp (isIdentifierPart_of_start start)).1 start

/-- The letters that may stand before a quote and say what is in it. -/
def quoteLeads : List Char := "bBnNeEuUxXrR".toList

/-- What starts with neither a quote nor a placeholder is a name in quotes, a number, a word or a mark,
by its first character. -/
theorem readToken_cons {c : Char} (plain : c = '"' ∨ c ∉ openers)
    (led : c ∈ quoteLeads → ∀ next ∈ rest.head?, next ∉ openers) :
    readToken dialect (c :: rest) =
      if dialect.isNameQuote c then
        (readQuoted c false rest).map fun r => (.word (String.ofList r.1) (some c), r.2)
      else if Text.isAsciiDigit c || c == '.' then some (readNumber (c :: rest))
      else if Text.isAlphabetic c || c == '_' then some (readWord dialect (c :: rest))
      else some (readSymbol dialect (c :: rest)) := by
  unfold readToken
  simp only
  split
  case h_16 =>
    have unled : ∀ quote ∈ ['\'', '"'], ∀ generic : Bool,
        (generic && (c == 'r' || c == 'R') && rest.head? == some quote) = false := by
      intro quote listed generic
      rw [Bool.and_eq_false_iff, or_iff_not_imp_left]
      intro raw
      rw [Bool.not_eq_false, Bool.and_eq_true, Bool.or_eq_true, beq_iff_eq, beq_iff_eq] at raw
      have lead : c ∈ quoteLeads := by
        obtain ⟨_, rfl | rfl⟩ := raw <;> decide
      refine beq_eq_false_iff_ne.mpr fun found => led lead quote found ?_
      exact List.mem_append_left ['&', '?', '$', '-', '/'] listed
    rw [unled '\'' (by simp), unled '"' (by simp)]
    rfl
  all_goals first
    | exact absurd plain (by decide)
    | exact absurd (led (by decide) _ rfl) (by decide)

/-- A word that nothing prolongs is read as it stands. -/
theorem readToken_word (dialect : Dialect) {first : Char} {body : List Char}
    (start : isIdentifierStart first = true) (parts : ∀ c ∈ body, isIdentifierPart c = true) (ends : Ends rest) :
    readToken dialect (first :: (body ++ rest)) =
      some (.word (String.ofList (first :: body)) none, rest) := by
  have part {c : Char} (inside : isIdentifierPart c = true) :=
    identifierPart_plain dialect inside
  have ending {c : Char} (found : c ∈ rest.head?) :=
    endings_plain dialect (ends c found)
  have unquoted : ∀ c ∈ (body ++ rest).head?, c ∉ openers := by
    intro c found
    cases body with
    | nil => exact (ending found).2.2.1
    | cons next body =>
        cases found
        exact (part (parts c List.mem_cons_self)).2.1
  have opens := identifierStart_opens dialect start
  have run := Text.span_append (fun c present => (part (parts c present)).1)
    (fun c found => (ending found).1)
  rw [readToken_cons (.inr (part (isIdentifierPart_of_start start)).2.1) fun _ => unquoted,
    opens.1, opens.2.1, opens.2.2]
  simp only [readWord, List.take_succ_cons, List.take_zero, List.drop_succ_cons, List.drop_zero,
    run, List.singleton_append]
  rfl

/-- Characters that are no quote are read up to the quote that ends them. -/
theorem readQuoted_append {body : List Char} (unquoted : '"' ∉ body)
    (single : ∀ c ∈ rest.head?, c ≠ '"') :
    readQuoted '"' false (body ++ '"' :: rest) = some (body, rest) := by
  induction body with
  | nil =>
      cases rest with
      | nil => rfl
      | cons c rest => simp [readQuoted, single c rfl]
  | cons c body inductionHypothesis =>
      rw [List.mem_cons, not_or] at unquoted
      rw [List.cons_append, readQuoted.eq_def]
      simp [Ne.symm unquoted.1, inductionHypothesis unquoted.2]

/-- A name in quotes is read as it stands. -/
theorem readToken_quoted (dialect : Dialect) {body : List Char} (unquoted : '"' ∉ body)
    (single : ∀ c ∈ rest.head?, c ≠ '"') :
    readToken dialect ('"' :: (body ++ '"' :: rest)) =
      some (.word (String.ofList body) (some '"'), rest) := by
  have quote : dialect.isNameQuote '"' = true := by
    cases dialect <;> rfl
  rw [readToken_cons (.inl rfl) (fun lead => absurd lead (by decide)), quote,
    readQuoted_append unquoted single]
  rfl

/-- The digits of a number that nothing prolongs are read as they stand. -/
theorem readNumber_append {digits : List Char} (nonempty : digits ≠ [])
    (digital : ∀ c ∈ digits, Text.isAsciiDigit c = true) (ends : Ends rest) :
    readNumber (digits ++ rest) = (.number (String.ofList digits) false, rest) := by
  have run := Text.span_append digital fun c found =>
    (endings_plain .postgres (ends c found)).2.1
  have pointless : (digits == ['.']) = false := by
    rw [beq_eq_false_iff_ne]
    rintro rfl
    exact absurd (digital '.' List.mem_cons_self) (by decide)
  unfold readNumber
  simp only [run]
  cases rest with
  | nil =>
      split
      · rename_i same
        cases same
      · simp [pointless]
  | cons c rest =>
      have other := (endings_plain .postgres (ends c rfl)).2.2.2
      simp only [List.mem_cons, List.not_mem_nil, or_false, not_or] at other
      split
      · rename_i same
        exact absurd (List.cons.inj same).1 other.2.1
      · simp [other, pointless]

/-- A number that nothing prolongs is read as it stands. -/
theorem readToken_number {first : Char} {body : List Char}
    (digital : ∀ c ∈ first :: body, Text.isAsciiDigit c = true) (ends : Ends rest) :
    readToken dialect (first :: (body ++ rest)) =
      some (.number (String.ofList (first :: body)) false, rest) := by
  have digit := digital first List.mem_cons_self
  have part : isIdentifierPart first = true := by
    rw [isIdentifierPart, digit, Bool.or_true, Bool.true_or]
  have plain := (identifierPart_plain dialect part).2.1
  have undigital : ∀ c ∈ quoteLeads, Text.isAsciiDigit c = false :=
    List.all_iff_forall_prop.mp (by decide)
  have unled : first ∉ quoteLeads := fun lead => by simp [undigital first lead] at digit
  have unquoted : dialect.isNameQuote first = false := by
    rw [Bool.eq_false_iff]
    intro quote
    simp only [Dialect.isNameQuote, Bool.or_eq_true, Bool.and_eq_true, beq_iff_eq] at quote
    obtain rfl | ⟨_, rfl⟩ := quote <;> exact absurd digit (by decide)
  have read := readNumber_append (List.cons_ne_nil first body) digital ends
  rw [readToken_cons (.inr plain) fun lead => absurd lead unled, unquoted, digit]
  exact congrArg some read

/-- The marks that stand alone. -/
def marks : List (Char × String) := [('(', "("), (')', ")"), (',', ","), ('[', "["), (']', "]")]

/-- A mark is read alone, whatever follows it. -/
theorem readToken_mark {mark : Char} {text : String} (listed : (mark, text) ∈ marks)
    (rest : List Char) : readToken dialect (mark :: rest) = some (.symbol text, rest) := by
  have checked : ∀ mark ∈ marks, mark.1 ∉ openers ∧ mark.1 ∉ quoteLeads ∧
      (Text.isAsciiDigit mark.1 || mark.1 == '.') = false ∧
        (Text.isAlphabetic mark.1 || mark.1 == '_') = false := by decide
  have unquoted : ∀ mark ∈ marks, dialect.isNameQuote mark.1 = false := by
    cases dialect <;> decide
  obtain ⟨plain, unled, undigital, unlettered⟩ := checked _ listed
  rw [readToken_cons (.inr plain) fun lead => absurd lead unled, unquoted _ listed, undigital,
    unlettered]
  simp only [marks, List.mem_cons, Prod.mk.injEq, List.not_mem_nil, or_false] at listed
  obtain ⟨rfl, rfl⟩ | ⟨rfl, rfl⟩ | ⟨rfl, rfl⟩ | ⟨rfl, rfl⟩ | ⟨rfl, rfl⟩ := listed <;> rfl

theorem readToken_colons (rest : List Char) :
    readToken dialect (':' :: ':' :: rest) = some (.symbol "::", rest) := by
  rw [readToken_cons (.inr (by decide)) fun lead => absurd lead (by decide)]
  cases dialect <;> rfl

end Lexer

namespace Cuts

theorem word (text : String) (formed : isIdentifierForm text.toList = true) (ends : Ends rest)
    (cuts : Cuts dialect rest tokens) :
    Cuts dialect (text.toList ++ rest) (.word text none :: tokens) := by
  cases spelled : text.toList with
  | nil =>
      rw [spelled] at formed
      cases formed
  | cons first body =>
      rw [spelled, isIdentifierForm, Bool.and_eq_true, List.all_eq_true] at formed
      have plain := Lexer.identifierPart_plain dialect
        (isIdentifierPart_of_start formed.1)
      have read := Lexer.readToken_word dialect formed.1 formed.2 ends
      rw [← spelled, String.ofList_toList] at read
      exact cons (.inr plain.2.1) plain.2.2 read (List.suffix_append body rest).length_le cuts

theorem quoted {text : String} (unquoted : '"' ∉ text.toList)
    (single : ∀ c ∈ rest.head?, c ≠ '"') (cuts : Cuts dialect rest tokens) :
    Cuts dialect ('"' :: (text.toList ++ '"' :: rest)) (.word text (some '"') :: tokens) := by
  have read := Lexer.readToken_quoted dialect unquoted single
  rw [String.ofList_toList] at read
  refine cons (.inl rfl) (by decide) read ?_ cuts
  rw [List.length_append, List.length_cons]
  omega

theorem number (n : Nat) (ends : Ends rest) (cuts : Cuts dialect rest tokens) :
    Cuts dialect (Nat.toDigits 10 n ++ rest) (numberToken n :: tokens) := by
  have digital : ∀ c ∈ Nat.toDigits 10 n, Text.isAsciiDigit c = true :=
    fun c present => Text.isAsciiDigit_of_mem_toDigits present
  obtain ⟨first, body, same⟩ := List.exists_cons_of_ne_nil (Nat.toDigits_ne_nil (b := 10) (n := n))
  rw [numberToken]
  rw [same] at digital ⊢
  have digit := digital first List.mem_cons_self
  have part : isIdentifierPart first = true := by
    rw [isIdentifierPart, digit, Bool.or_true, Bool.true_or]
  have plain := Lexer.identifierPart_plain dialect part
  exact cons (.inr plain.2.1) plain.2.2 (Lexer.readToken_number digital ends)
    (List.suffix_append body rest).length_le cuts

theorem mark (mark : Char) (text : String) (listed : (mark, text) ∈ Lexer.marks)
    (cuts : Cuts dialect rest tokens) : Cuts dialect (mark :: rest) (.symbol text :: tokens) := by
  have plain : ∀ mark ∈ Lexer.marks, mark.1 ∉ openers ∧ Text.isBlank mark.1 = false := by decide
  exact cons (.inr (plain _ listed).1) (plain _ listed).2 (Lexer.readToken_mark listed rest) le_rfl
    cuts

/-- A pair of colons is a token, and ends the word before it. -/
theorem colons (cuts : Cuts dialect rest tokens) :
    Ends ("::".toList ++ rest) ∧
      Cuts dialect ("::".toList ++ rest) (.symbol "::" :: tokens) :=
  ⟨.cons (by decide) _, cons (.inr (by decide)) (by decide) (Lexer.readToken_colons rest)
    (Nat.le_succ _) cuts⟩

/-- Words with a blank behind each of them are tokens. -/
theorem spaced {words : List String}
    (formed : ∀ word ∈ words, isIdentifierForm word.toList = true)
    (cuts : Cuts dialect rest tokens) :
    Cuts dialect (Sql.spaced words ++ rest)
      (words.map (fun word => Token.word word none) ++ tokens) := by
  induction words with
  | nil => exact cuts
  | cons first words inductionHypothesis =>
      rw [List.forall_mem_cons] at formed
      have cut := word first formed.1 (.cons (by decide) _) (inductionHypothesis formed.2).blank
      simpa only [Sql.spaced, List.flatMap_cons, List.append_assoc, List.map_cons, List.cons_append,
        List.nil_append] using cut

/-- A text of words with a blank behind each of them is cut into them. -/
theorem lead (text : String) (words : List String) (spelled : text.toList = Sql.spaced words)
    (formed : ∀ word ∈ words, isIdentifierForm word.toList = true)
    (cuts : Cuts dialect rest tokens) :
    Cuts dialect (text.toList ++ rest) (words.map (fun word => Token.word word none) ++ tokens) := by
  rw [spelled]
  exact spaced formed cuts

/-- A text of words with a blank before and behind each of them is cut into them, and ends the word
before it. -/
theorem between (text : String) (words : List String)
    (spelled : text.toList = ' ' :: Sql.spaced words)
    (formed : ∀ word ∈ words, isIdentifierForm word.toList = true)
    (cuts : Cuts dialect rest tokens) :
    Ends (text.toList ++ rest) ∧
      Cuts dialect (text.toList ++ rest) (words.map (fun word => Token.word word none) ++ tokens) := by
  rw [spelled]
  exact ⟨.cons (by decide) _, (spaced formed cuts).blank⟩

theorem tokenize_eq {text : List Char} (cuts : Cuts dialect text tokens) :
    tokenize dialect text = some tokens :=
  cuts _ (Nat.lt_succ_self _)

end Cuts

end SchemaDrift.Sql
