import SchemaDrift.Proofs.Ddl.Naming
import SchemaDrift.Proofs.Host.Boundaries
import SchemaDrift.Proofs.Result

namespace SchemaDrift.Host

open Text

/-- The letters that belong to a literal when they stand directly in front of its quote, in small
letters. -/
def literalPrefixes : Language → List String
  | .python => ["r", "u", "b", "f", "rb", "br", "fr", "rf"]
  | .rust => ["r", "b", "br"]
  | _ => []

/-- A word of letters that do not belong to a literal behind them, in a language that may have it
directly in front of one. -/
structure Language.Keyword (language : Language) (word : List Char) : Prop where
  known : language = .python ∨ language = .javaScript
  filled : word ≠ []
  letters : ∀ c ∈ word, isAsciiLetter c = true
  apart : String.ofList (word.map lowerAscii) ∉ literalPrefixes language

/-- The word `return` is no prefix of a literal. -/
theorem keyword_return : Language.python.Keyword "return".toList where
  known := .inl rfl
  filled := by decide
  letters := by simp [isAsciiLetter]
  apart := by decide

/-- What a part of a line in double quotes writes. -/
inductive Written : List Char → List Char → Prop where
  | nil : Written [] []
  | plain {c : Char} {body text : List Char} (noQuote : c ≠ '"') (noBackslash : c ≠ '\\')
      (noFeed : c ≠ '\n') (more : Written body text) : Written (c :: body) (c :: text)
  | escaped {c : Char} {body text : List Char} (noFeed : c ≠ '\n') (more : Written body text) :
      Written ('\\' :: c :: body) (escapedText (.plain '"') c ++ text)

/-- What holds of both languages in which a word may stand directly in front of a literal. -/
theorem known_plain {language : Language} (known : language = .python ∨ language = .javaScript) :
    language ≠ .sql ∧ language ≠ .rust ∧ language.apostropheIsCharacter = false := by
  rcases known with rfl | rfl <;> decide

/-- Letters are parts of identifiers and start neither literals nor comments. -/
theorem letter_plain (language : Language) {c : Char} (letter : isAsciiLetter c = true) :
    language.isIdentifierPart c = true ∧ isQuote c = false ∧ c ≠ '#' ∧ c ≠ '/' := by
  have ascii := ((isIdentifierPart_iff c).mp (by simp [isIdentifierPart, letter])).1
  have part : isNamePart c = true ∧ isQuote c = false ∧ c ≠ '#' ∧ c ≠ '/' := by
    revert letter
    exact forall_ascii (fun c => isAsciiLetter c = true → isNamePart c = true ∧ isQuote c = false ∧
      c ≠ '#' ∧ c ≠ '/') (by decide) ascii
  refine ⟨?_, part.2⟩
  rw [Language.isIdentifierPart, part.1, Bool.true_or]

section Words

variable {language : Language} {word : List Char}

/-- No literal opens where something else than a quote stands behind at most three letters. -/
theorem opening?_of_next (plain : language ≠ .rust) {text : List Char}
    (next : ∀ c ∈ (text.drop ((text.takeWhile isAsciiLetter).take 3).length).head?,
      isQuote c = false) (before : Option Char) : opening? language before text = none := by
  have noHashes : ∀ spelling : String, (language == .rust && (spelling == "r" || spelling == "br")) =
      false := by
    intro spelling
    rw [beq_false_of_ne plain, Bool.false_and]
  unfold opening?
  simp only [noHashes, Bool.false_eq_true, if_false, List.drop_zero]
  split
  · rfl
  · split
    · rfl
    · rename_i quote rest shape
      rw [shape] at next
      have noQuote := next quote rfl
      rw [isQuote] at noQuote
      rw [if_neg (Bool.eq_false_iff.mp noQuote)]

/-- A word of more than three letters, or one with something else than a quote behind it, opens no
literal. -/
theorem opening?_of_word (plain : language ≠ .rust) (letters : ∀ c ∈ word, isAsciiLetter c = true)
    {c : Char} (ends : isAsciiLetter c = false) (far : 3 < word.length ∨ isQuote c = false)
    (before : Option Char) (rest : List Char) :
    opening? language before (word ++ c :: rest) = none := by
  refine opening?_of_next plain ?_ before
  have run : (word ++ c :: rest).takeWhile isAsciiLetter = word :=
    (span_append letters (by rintro d ⟨⟩; exact ends)).1
  rw [run]
  rcases Nat.lt_or_ge 3 word.length with long | short
  · have some : word.drop 3 ≠ [] := by
      rw [ne_eq, List.drop_eq_nil_iff]
      omega
    obtain ⟨d, more, behind⟩ := List.exists_cons_of_ne_nil some
    have present : d ∈ word := List.mem_of_mem_drop (behind ▸ List.mem_cons_self)
    rw [List.length_take_of_le (Nat.le_of_lt long), List.drop_append_of_le_length (by omega), behind]
    rintro e ⟨⟩
    exact (letter_plain language (letters d present)).2.1
  · rw [List.take_of_length_le short, List.drop_left]
    rintro d ⟨⟩
    exact far.resolve_left (Nat.not_lt.mpr short)

theorem commentSpan_of_letters (filled : word ≠ []) (letters : ∀ c ∈ word, isAsciiLetter c = true)
    (rest : List Char) : commentSpan language (word ++ rest) = 0 := by
  obtain ⟨first, others, rfl⟩ := List.exists_cons_of_ne_nil filled
  obtain ⟨-, -, noHash, noSlash⟩ := letter_plain language (letters first List.mem_cons_self)
  simp [commentSpan, noHash, noSlash]

/-- A word in front of which nothing stands is passed over as a whole. -/
theorem literalsOf_word (keyword : language.Keyword word) {c : Char}
    (ends : language.isIdentifierPart c = false) {rest : List Char}
    (closed : opening? language none (word ++ c :: rest) = none) :
    literalsOf language (word ++ c :: rest) =
      readLiterals language ⟨word.getLast?, 1, c :: rest, false⟩ := by
  obtain ⟨host, -, single⟩ := known_plain keyword.known
  have oneLine : '\n' ∉ word := fun present =>
    absurd (keyword.letters _ present) (by decide)
  obtain ⟨first, others, rfl⟩ := List.exists_cons_of_ne_nil keyword.filled
  obtain ⟨letter, more⟩ := List.forall_mem_cons.mp keyword.letters
  have part := (letter_plain language letter).1
  have comment : commentSpan language (first :: others ++ c :: rest) = 0 :=
    commentSpan_of_letters keyword.filled keyword.letters _
  have span : plainSpan language (first :: others ++ c :: rest) = (first :: others).length := by
    have run : (others ++ c :: rest).takeWhile language.isIdentifierPart = others :=
      (span_append (fun d present => (letter_plain language (more d present)).1)
        (by rintro d ⟨⟩; exact ends)).1
    rw [List.cons_append, plainSpan, single, Bool.and_false, if_neg Bool.false_ne_true, if_pos part,
      run, List.length_cons, Nat.add_comm]
  exact literalsOf_append host oneLine (by simp) comment closed span

/-- The letters of a word that are not known in front of a literal open none. -/
theorem ofOpening?_of_keyword (keyword : language.Keyword word) (tripled : Bool) :
    Style.ofOpening? language (String.ofList (word.map lowerAscii)) 0 '"' tripled = none := by
  obtain ⟨known, filled, -, apart⟩ := keyword
  have some : String.ofList (word.map lowerAscii) ≠ "" := by
    simpa [← String.toList_inj] using filled
  rcases known with rfl | rfl
  · simp only [literalPrefixes, List.mem_cons, List.not_mem_nil, or_false, not_or] at apart
    simp [Style.ofOpening?, some, apart]
  · simp [Style.ofOpening?, some]

/-- No literal opens with a word that a space or a double quote follows. -/
theorem opening?_of_keyword (keyword : language.Keyword word) {c : Char} (mark : c = ' ' ∨ c = '"')
    (rest : List Char) : opening? language none (word ++ c :: rest) = none := by
  have plain := (known_plain keyword.known).2.1
  have ends : isAsciiLetter c = false := by
    rcases mark with rfl | rfl <;> rfl
  by_cases far : 3 < word.length ∨ isQuote c = false
  · exact opening?_of_word plain keyword.letters ends far none rest
  · obtain ⟨short, quote⟩ := not_or.mp far
    have double : c = '"' := by
      rcases mark with rfl | rfl
      · exact absurd rfl quote
      · rfl
    subst double
    rw [opening?_letters (Nat.not_lt.mp short) keyword.letters rfl (.inl plain) rfl,
      ofOpening?_of_keyword keyword]
    rfl

theorem any_getLast? (keyword : language.Keyword word) :
    word.getLast?.any language.isIdentifierPart = true := by
  rw [List.getLast?_eq_some_getLast keyword.filled]
  exact (letter_plain language (keyword.letters _ (List.getLast_mem keyword.filled))).1

/-- A word is passed over together with the space or the double quote that follows it. -/
theorem literalsOf_keyword_mark (keyword : language.Keyword word) {c : Char}
    (mark : c = ' ' ∨ c = '"') (rest : List Char) :
    literalsOf language (word ++ c :: rest) = literalsOf language rest := by
  have host := (known_plain keyword.known).1
  have ends : language.isIdentifierPart c = false := by
    rcases keyword.known with rfl | rfl <;> rcases mark with rfl | rfl <;> rfl
  have comment : commentSpan language (c :: rest) = 0 := by
    rcases mark with rfl | rfl <;> simp [commentSpan]
  have closed : opening? language word.getLast? (c :: rest) = none := by
    have noTemplate : c ≠ '\x60' := by
      rcases mark with rfl | rfl <;> decide
    simp [opening?, any_getLast? keyword, noTemplate]
  have one : plainSpan language (c :: rest) = 1 := by
    have noCharacter : c ≠ '\'' := by
      rcases mark with rfl | rfl <;> decide
    simp [plainSpan, noCharacter, ends]
  have stepped : Cursor.advance 1 ⟨word.getLast?, 1, c :: rest, false⟩ = ⟨some c, 1, rest, false⟩ := by
    rcases mark with rfl | rfl <;> rfl
  rw [literalsOf_word keyword ends (opening?_of_keyword keyword mark rest),
    readLiterals_of_plain _ (List.cons_ne_nil c rest) comment closed]
  simp only [one]
  rw [stepped, readLiterals_behind host ends]

end Words

section Templates

/-- How a template is written. -/
def templateStyle : Style := ⟨'\x60', false, 0, .special, true, .dollarBraces⟩

/-- A template opens behind every character. -/
theorem opening?_template (before : Option Char) (rest : List Char) :
    opening? .javaScript before ('\x60' :: rest) = some ⟨0, templateStyle⟩ := by
  simp [opening?, isAsciiLetter, Style.ofOpening?, Style.plain, templateStyle]

/-- A template is found directly behind a word. -/
theorem literalsOf_template {word : List Char} (keyword : Language.javaScript.Keyword word)
    (rest : List Char) :
    literalsOf .javaScript (word ++ '\x60' :: rest) = literalsOf .javaScript ('\x60' :: rest) := by
  have comment : commentSpan .javaScript ('\x60' :: rest) = 0 := by
    simp [commentSpan]
  rcases Nat.lt_or_ge 3 word.length with long | short
  · rw [literalsOf_word keyword rfl
      (opening?_of_word (by decide) keyword.letters rfl (.inl long) none rest)]
    refine readLiterals_congr (List.cons_ne_nil _ _) comment (opening?_template _ rest)
      (List.cons_ne_nil _ _) comment (opening?_template _ rest) rfl ?_
    rfl
  · have opens : opening? .javaScript none (word ++ '\x60' :: rest) =
        some ⟨word.length, templateStyle⟩ :=
      opening?_letters short keyword.letters rfl (.inl (by decide)) rfl rest
    have oneLine : '\n' ∉ word ++ ['\x60'] := by
      rw [List.mem_append, not_or]
      exact ⟨fun present => absurd (keyword.letters _ present) (by decide), by decide⟩
    have passed : Cursor.advance (word.length + 1) ⟨none, 1, word ++ '\x60' :: rest, false⟩ =
        ⟨some '\x60', 1, rest, false⟩ := by
      have run := Cursor.advance_append oneLine none 1 rest
      simpa using run
    refine readLiterals_congr (by simp [Cursor.start])
      (commentSpan_of_letters keyword.filled keyword.letters _) opens (List.cons_ne_nil _ _) comment
      (opening?_template _ rest) rfl ?_
    rw [readString, readString]
    exact congrArg (readBody templateStyle .empty) passed

end Templates

section Lines

/-- More text or a further expression behind what is read leaves it in front. -/
theorem prefix_addTo (draft : Draft) (piece : Piece) : draft.text <+: (piece.addTo draft).text := by
  cases piece with
  | text added span => exact List.prefix_append draft.text added
  | expression added span => exact List.prefix_append draft.text _

/-- What is read stays in front when the rest of a literal is read. -/
theorem prefix_readBody (style : Style) (draft : Draft) (cursor : Cursor) :
    draft.text <+: (readBody style draft cursor).1.text := by
  fun_induction readBody style draft cursor with
  | case1 => exact List.prefix_rfl
  | case2 => exact List.prefix_rfl
  | case3 draft cursor _ piece _ _ inductionHypothesis =>
      exact (prefix_addTo draft piece).trans inductionHypothesis

/-- What is read stays in front when all that is joined to it is read. -/
theorem prefix_readJoined {language : Language} {draft : Draft} {cursor : Cursor}
    {answer : Draft × Cursor} (read : readJoined language draft cursor = .ok answer) :
    draft.text <+: answer.1.text := by
  fun_induction readJoined language draft cursor with
  | case1 => cases read
  | case2 =>
      cases read
      exact List.prefix_rfl
  | case3 draft cursor opening place _ _ _ inductionHypothesis =>
      exact (prefix_readBody _ draft _).trans (inductionHypothesis read)
  | case4 draft cursor expression place _ _ inductionHypothesis =>
      exact (List.prefix_append draft.text _).trans (inductionHypothesis read)

/-- A literal starts with what its first part writes. -/
theorem prefix_readLiteral {language : Language} {opening : Opening} {cursor after : Cursor}
    {literal : Literal} (read : readLiteral language opening cursor = .ok (literal, after)) :
    (readString opening .empty cursor).1.text <+: literal.text := by
  unfold readLiteral at read
  simp only at read
  split at read
  · cases read
  · rename_i joined
    split at read
    · cases read
    · cases read
      exact prefix_readJoined joined

/-- A part of a literal that does not end it is read, and then the rest. -/
theorem readBody_of_piece {style : Style} {cursor : Cursor} {piece : Piece}
    (goesOn : startsWith style.delimiter cursor.rest = false)
    (found : piece? style cursor.rest = some piece) (draft : Draft) :
    readBody style draft cursor = readBody style (piece.addTo draft) (cursor.advance piece.span) := by
  rw [readBody, if_neg (by simp [goesOn])]
  split
  · rename_i none
    cases found.symm.trans none
  · rename_i other same
    cases found.symm.trans same
    rfl

/-- A line in double quotes ends with one of them. -/
theorem decodes_plain : (Style.plain '"').Decodes '"' := ⟨by decide, rfl, rfl, rfl, rfl⟩

variable {body text : List Char}

/-- What a line in double quotes writes is read, up to the quote that closes it. -/
theorem readBody_written (written : Written body text) (draft : Draft) (before : Option Char)
    (rest : List Char) :
    readBody (.plain '"') draft ⟨before, 1, body ++ '"' :: rest, false⟩ =
      (draft.addText text, ⟨some '"', 1, rest, false⟩) := by
  induction written generalizing draft before with
  | nil => exact readBody_spelled decodes_plain [] draft before 1 rest
  | @plain c body text noQuote noBackslash noFeed _ inductionHypothesis =>
      have goesOn : startsWith (Style.plain '"').delimiter (c :: body ++ '"' :: rest) = false := by
        rw [List.cons_append, startsWith_delimiter decodes_plain]
        simpa using Ne.symm noQuote
      have found : piece? (.plain '"') (c :: body ++ '"' :: rest) = some (.text [c] 1) := by
        simp [piece?, noFeed, noBackslash, interpolation?, Style.plain]
      have passed : Cursor.advance 1 ⟨before, 1, c :: body ++ '"' :: rest, false⟩ =
          ⟨some c, 1, body ++ '"' :: rest, false⟩ := by
        simp [Cursor.advance, Cursor.next, noFeed]
      rw [readBody_of_piece goesOn found]
      simp only [Piece.addTo, Piece.span, passed]
      rw [inductionHypothesis, addText_addText]
      rfl
  | @escaped c body text noFeed _ inductionHypothesis =>
      have goesOn : startsWith (Style.plain '"').delimiter ('\\' :: c :: body ++ '"' :: rest) =
          false := by
        rw [List.cons_append, startsWith_delimiter decodes_plain]
        rfl
      have found : piece? (.plain '"') ('\\' :: c :: body ++ '"' :: rest) =
          some (.text (escapedText (.plain '"') c) 2) := by
        simp [piece?, Style.plain]
      have passed : Cursor.advance 2 ⟨before, 1, '\\' :: c :: body ++ '"' :: rest, false⟩ =
          ⟨some c, 1, body ++ '"' :: rest, false⟩ := by
        simp [Cursor.advance, Cursor.next, noFeed]
      rw [readBody_of_piece goesOn found]
      simp only [Piece.addTo, Piece.span, passed]
      rw [inductionHypothesis, addText_addText]

/-- A double quote that is not written three times opens a line. -/
theorem opening?_line {language : Language} (known : language = .python ∨ language = .javaScript)
    {rest : List Char} (once : (rest.take 2 == ['"', '"']) = false) :
    opening? language none ('"' :: rest) = some ⟨0, .plain '"'⟩ := by
  rw [opening?_bare rfl, once]
  rcases known with rfl | rfl <;> rfl

/-- The quote in front of a line is not written three times if the line ends behind its quotes. -/
theorem take_two_written (written : Written body text) {rest : List Char}
    (ends : rest.head? = some '\n') : ((body ++ '"' :: rest).take 2 == ['"', '"']) = false := by
  cases written with
  | nil =>
      obtain ⟨more, rfl⟩ := List.head?_eq_some_iff.mp ends
      rfl
  | plain noQuote _ _ _ => simp [noQuote]
  | escaped _ _ => simp

/-- The first literal of a source text that starts with a line in double quotes starts with what the
line writes. -/
theorem prefix_of_line {language : Language} (known : language = .python ∨ language = .javaScript)
    (written : Written body text) {rest : List Char} (ends : rest.head? = some '\n')
    {literals : List Literal}
    (read : literalsOf language ('"' :: (body ++ '"' :: rest)) = .ok literals) :
    ∃ first others, literals = first :: others ∧ text <+: first.text := by
  have host := (known_plain known).1
  have comment : commentSpan language ('"' :: (body ++ '"' :: rest)) = 0 := by
    simp [commentSpan]
  have opens := opening?_line known (take_two_written written ends)
  have begun : readString ⟨0, .plain '"'⟩ .empty (.start ('"' :: (body ++ '"' :: rest))) =
      (Draft.empty.addText text, ⟨some '"', 1, rest, false⟩) :=
    readBody_written written .empty (some '"') rest
  rw [literalsOf_of_host host,
    readLiterals_of_opening _ (List.cons_ne_nil _ _) comment opens] at read
  obtain ⟨⟨literal, after⟩, told, read⟩ := (Result.bind_ok_iff _ _ _).mp read
  obtain ⟨others, _, made⟩ := (Result.bind_ok_iff _ _ _).mp read
  cases made
  have front := prefix_readLiteral told
  rw [begun] at front
  exact ⟨literal, others, rfl, front⟩

/-- An empty line in double quotes is read like a line that does not end. -/
theorem literalsOf_empty_line {language : Language}
    (known : language = .python ∨ language = .javaScript) {rest : List Char}
    (ends : rest.head? = some '\n') :
    literalsOf language ('"' :: '"' :: rest) = literalsOf language ('"' :: rest) := by
  obtain ⟨more, rfl⟩ := List.head?_eq_some_iff.mp ends
  have host := (known_plain known).1
  have unclosed : readBody (.plain '"') .empty ⟨some '"', 1, '\n' :: more, false⟩ =
      (Draft.empty, ⟨some '"', 1, '\n' :: more, false⟩) := by
    have goesOn : startsWith (Style.plain '"').delimiter ('\n' :: more) = false := by
      rw [startsWith_delimiter decodes_plain]
      rfl
    rw [readBody, if_neg (by simp [goesOn])]
    split
    · rfl
    · rename_i found
      cases found
  have closed := readBody_written .nil .empty (some '"') ('\n' :: more)
  rw [literalsOf_of_host host, literalsOf_of_host host]
  refine readLiterals_congr (List.cons_ne_nil _ _) (by simp [Cursor.start, commentSpan])
    (opening?_line known (take_two_written .nil ends)) (List.cons_ne_nil _ _)
    (by simp [Cursor.start, commentSpan]) (opening?_line known ?_) rfl ?_
  · cases more <;> rfl
  · exact closed.trans unclosed.symm

end Lines

/-- Behind a word and a space a line in double quotes is read as if it stood alone, and its text is
found. Directly behind the word its opening quote is passed over, so that the literals are those of what
follows the quote; they are the same as with a space if nothing stands in the quotes. A template is
found either way. -/
theorem literalsOf_keyword {language : Language} {word : List Char} (keyword : language.Keyword word)
    {body text : List Char} (written : Written body text) {rest : List Char}
    (ends : rest.head? = some '\n') :
    let line := '"' :: (body ++ '"' :: rest)
    literalsOf language (word ++ ' ' :: line) = literalsOf language line ∧
      (∀ literals, literalsOf language line = .ok literals →
        ∃ first others, literals = first :: others ∧ text <+: first.text) ∧
      literalsOf language (word ++ line) = literalsOf language (body ++ '"' :: rest) ∧
      (body = [] →
        literalsOf language (word ++ line) = literalsOf language (word ++ ' ' :: line)) ∧
      (language = .javaScript → ∀ template : List Char,
        literalsOf language (word ++ '\x60' :: template) =
          literalsOf language (word ++ ' ' :: '\x60' :: template)) := by
  intro line
  have spaced := literalsOf_keyword_mark keyword (.inl rfl) line
  have direct := literalsOf_keyword_mark keyword (.inr rfl) (body ++ '"' :: rest)
  refine ⟨spaced, fun literals read => prefix_of_line keyword.known written ends read, direct, ?_, ?_⟩
  · rintro rfl
    rw [direct, spaced]
    exact (literalsOf_empty_line keyword.known ends).symm
  · rintro rfl template
    rw [literalsOf_template keyword, literalsOf_keyword_mark keyword (.inl rfl)]

/-- Behind `return` and a space an escaped quote is read as part of the literal. -/
theorem literalsOf_keyword_return :
    Language.python.Keyword "return".toList ∧ Written ['a', '\\', '"'] ['a', '"'] ∧
      "\nid".toList.head? = some '\n' ∧
        literalsOf .python "return \"a\\\"\"\nid".toList =
          literalsOf .python "\"a\\\"\"\nid".toList ∧
        literalsOf .python "return\"a\\\"\"\nid".toList =
          literalsOf .python "a\\\"\"\nid".toList := by
  have written : Written ['a', '\\', '"'] ['a', '"'] :=
    .plain (by decide) (by decide) (by decide) (.escaped (by decide) .nil)
  have ends : "\nid".toList.head? = some '\n' := by decide
  obtain ⟨spaced, -, direct, -⟩ := literalsOf_keyword keyword_return written ends
  exact ⟨keyword_return, written, ends, spaced, direct⟩

/-- Directly behind `return` a literal is lost. -/
theorem literalsOf_keyword_lost :
    ¬∀ (language : Language) (word body text rest : List Char), language.Keyword word →
      Written body text → rest.head? = some '\n' →
        let contents := fun literal : Literal =>
          (literal.text, literal.interpolations, literal.arguments)
        (literalsOf language (word ++ '"' :: (body ++ '"' :: rest))).map (List.map contents) =
          (literalsOf language (word ++ ' ' :: '"' :: (body ++ '"' :: rest))).map
            (List.map contents) := by
  intro found
  have written : Written ['a'] ['a'] := .plain (by decide) (by decide) (by decide) .nil
  exact absurd (found .python _ ['a'] ['a'] ['\n'] keyword_return written rfl) (by decide +kernel)

end SchemaDrift.Host
