import SchemaDrift.Host.Literal
import SchemaDrift.Proofs.Text.Chars

namespace SchemaDrift.Host

open Text

/-- The characters that may stand for something else in quotes. -/
def ambiguous : List Char := ['\\', '"', '\'', '\x60', '$', '\x7b', '\x7d', '#']

/-- How a character is spelled in quotes: a line feed by its letter, and what may stand for something
else behind a backslash. -/
def spelledChar (c : Char) : List Char :=
  if c = '\n' then ['\\', 'n'] else if c ∈ ambiguous then ['\\', c] else [c]

def spelled (text : List Char) : List Char := text.flatMap spelledChar

/-- A text written as a literal, with letters before its quotes. -/
structure Spelling where
  letters : List Char
  quote : Char
  text : List Char

namespace Spelling

/-- The literal as it stands in a source text. -/
def source (spelling : Spelling) : List Char :=
  spelling.letters ++ spelling.quote :: (spelled spelling.text ++ [spelling.quote])

/-- The ways to write a literal: double quotes in each language of programs, with an `f` before them in
Python, and the quotes of templates in JavaScript. -/
def Fits (language : Language) (spelling : Spelling) : Prop :=
  (language ≠ .sql ∧ spelling.letters = [] ∧ spelling.quote = '"') ∨
    (language = .python ∧ spelling.letters ∈ [['f'], ['F']] ∧ spelling.quote = '"') ∨
      (language = .javaScript ∧ spelling.letters = [] ∧ spelling.quote = '\x60')

instance (language : Language) (spelling : Spelling) : Decidable (spelling.Fits language) :=
  inferInstanceAs (Decidable (_ ∨ _))

/-- The literals of a sum as they stand in a source text. -/
def sum (spellings : List Spelling) : List Char :=
  joinWith " + ".toList (spellings.map source)

end Spelling

/-- A literal of the style ends with one quote, which is ambiguous itself, and a backslash writes
special characters. -/
structure Style.Decodes (style : Style) (quote : Char) : Prop where
  closing : quote ∈ ambiguous ∧ quote ≠ '\\'
  quote : style.quote = quote
  triple : style.triple = false
  hashes : style.hashes = 0
  escapes : style.escapes = .special

section Characters

variable {style : Style} {quote : Char}

/-- The literal ends where its quote stands. -/
theorem startsWith_delimiter (decodes : style.Decodes quote) (c : Char) (rest : List Char) :
    startsWith style.delimiter (c :: rest) = (quote == c) := by
  by_cases same : quote = c <;>
    simp [Style.delimiter, Style.quotes, decodes.triple, decodes.hashes, decodes.quote, startsWith,
      dropLead?, same]

/-- No expression starts with a character that stands for itself. -/
theorem interpolation?_of_plain (kind : Interpolation) {c : Char} (plain : c ∉ ambiguous)
    (rest : List Char) : interpolation? kind (c :: rest) = none := by
  have different : c ≠ '\x7b' ∧ c ≠ '\x7d' ∧ c ≠ '$' ∧ c ≠ '#' := by
    refine ⟨?_, ?_, ?_, ?_⟩ <;> rintro rfl <;> exact plain (by decide)
  unfold interpolation?
  split <;> simp_all

/-- What a backslash writes before a character that may stand for something else is the character. -/
theorem escapedText_of_ambiguous (decodes : style.Decodes quote) {c : Char}
    (special : c ∈ ambiguous) : escapedText style c = [c] := by
  have letters : c ≠ 'n' ∧ c ≠ 't' ∧ c ≠ 'r' ∧ c ≠ '0' ∧ c ≠ '\n' := by
    refine ⟨?_, ?_, ?_, ?_, ?_⟩ <;> rintro rfl <;> exact absurd special (by decide)
  have listed : ['\\', '\'', '"', '\x60', '$', '\x7b', '\x7d', '#'].contains c = true := by
    rw [List.contains_iff_mem]
    exact (List.Perm.swap '\'' '"' _).cons '\\' |>.mem_iff.mp special
  simp only [escapedText, decodes.escapes, beq_iff_eq, letters, if_false, listed, if_true]

/-- A character is read back from its spelling, which does not end the literal. -/
theorem piece?_spelledChar (decodes : style.Decodes quote) (c : Char) (rest : List Char) :
    piece? style (spelledChar c ++ rest) = some (.text [c] (spelledChar c).length) := by
  unfold spelledChar
  split
  · rename_i feed
    simp [piece?, decodes.escapes, escapedText, feed]
  split
  · rename_i special
    simp [piece?, decodes.escapes, escapedText_of_ambiguous decodes special]
  · rename_i feed plain
    have noBackslash : c ≠ '\\' := by
      rintro rfl
      exact plain (by decide)
    simp [piece?, feed, noBackslash, interpolation?_of_plain _ plain]

/-- A spelling stands on one line, and starts with no quote. -/
theorem exists_spelledChar (closing : quote ∈ ambiguous ∧ quote ≠ '\\') (c : Char) :
    ∃ first more, spelledChar c = first :: more ∧ first ≠ quote ∧ '\n' ∉ first :: more := by
  obtain ⟨closing, other⟩ := closing
  unfold spelledChar
  split
  · exact ⟨'\\', ['n'], rfl, Ne.symm other, by decide⟩
  split
  · rename_i feed _
    exact ⟨'\\', [c], rfl, Ne.symm other, by simpa using Ne.symm feed⟩
  · rename_i feed plain
    exact ⟨c, [], rfl, fun same => plain (same ▸ closing), by simpa using Ne.symm feed⟩

end Characters

namespace Cursor

/-- Characters without a line feed are passed over on one line. -/
theorem advance_append {run : List Char} (line : '\n' ∉ run) (before : Option Char) (number : Nat)
    (rest : List Char) :
    advance run.length ⟨before, number, run ++ rest, false⟩ =
      ⟨run.getLast?.or before, number, rest, false⟩ := by
  induction run generalizing before with
  | nil => rfl
  | cons c run inductionHypothesis =>
      rw [List.mem_cons, not_or] at line
      have stepped : next ⟨before, number, c :: (run ++ rest), false⟩ =
          ⟨some c, number, run ++ rest, false⟩ := by
        simp [next, Ne.symm line.1]
      rw [List.length_cons, List.cons_append, advance, stepped, inductionHypothesis line.2,
        List.getLast?_cons]
      cases run.getLast? <;> rfl

end Cursor

/-- Texts that are added one after the other. -/
theorem addText_addText (draft : Draft) (first second : List Char) :
    (draft.addText first).addText second = draft.addText (first ++ second) := by
  simp [Draft.addText]

section Literals

variable {language : Language} {spelling : Spelling} {style : Style} {quote : Char}

theorem readBody_spelled (decodes : style.Decodes quote) (text : List Char) (draft : Draft)
    (before : Option Char) (line : Nat) (rest : List Char) :
    readBody style draft ⟨before, line, spelled text ++ quote :: rest, false⟩ =
      (draft.addText text, ⟨some quote, line, rest, false⟩) := by
  induction text generalizing draft before with
  | nil =>
      have oneLine : quote ≠ '\n' := by
        rintro rfl
        exact absurd decodes.closing.1 (by decide)
      have opened : style.openingSpan = 1 := by
        simp [Style.openingSpan, Style.quotes, decodes.triple, decodes.hashes]
      rw [readBody]
      simp only [spelled, List.flatMap_nil, List.nil_append, startsWith_delimiter decodes,
        beq_self_eq_true, if_true, opened]
      simp [Draft.addText, Cursor.advance, Cursor.next, oneLine]
  | cons c text inductionHypothesis =>
      obtain ⟨first, more, shape, different, oneLine⟩ := exists_spelledChar decodes.closing c
      have found := piece?_spelledChar decodes c (spelled text ++ quote :: rest)
      have passed := Cursor.advance_append (shape ▸ oneLine) before line
        (spelled text ++ quote :: rest)
      have goesOn : startsWith style.delimiter
          (spelledChar c ++ (spelled text ++ quote :: rest)) = false := by
        rw [shape, List.cons_append, startsWith_delimiter decodes]
        simpa using Ne.symm different
      rw [spelled, List.flatMap_cons, List.append_assoc]
      change readBody style draft ⟨before, line, spelledChar c ++ (spelled text ++ quote :: rest),
        false⟩ = _
      rw [readBody]
      simp only [goesOn, Bool.false_eq_true, if_false]
      split
      · rename_i none
        cases found.symm.trans none
      · rename_i piece same
        obtain rfl := Option.some.inj (found.symm.trans same)
        simp only [Piece.addTo, Piece.span, passed]
        rw [inductionHypothesis, addText_addText]
        rfl

/-- The opening quote of a literal is not written three times, whatever is spelled behind it. -/
theorem take_two_spelled (closing : quote ∈ ambiguous ∧ quote ≠ '\\') (text : List Char)
    {rest : List Char} (ends : rest.head? ≠ some quote) :
    ((spelled text ++ quote :: rest).take 2 == [quote, quote]) = false := by
  cases text with
  | nil => cases rest <;> simp_all [spelled]
  | cons c text =>
      obtain ⟨first, more, shape, different, _⟩ := exists_spelledChar closing c
      simp [spelled, shape, different]

theorem opening?_letters {letters : List Char} (few : letters.length ≤ 3)
    (alphabetic : ∀ c ∈ letters, isAsciiLetter c = true) (known : isQuote quote = true)
    (unhashed : language ≠ .rust ∨ letters = []) {before : Option Char}
    (free : before.any language.isIdentifierPart = false) (rest : List Char) :
    opening? language before (letters ++ quote :: rest) =
      (Style.ofOpening? language (String.ofList (letters.map lowerAscii)) 0 quote
        (rest.take 2 == [quote, quote])).map fun style => ⟨letters.length, style⟩ := by
  have noLetter : isAsciiLetter quote = false := by
    simp only [isQuote, Bool.or_eq_true, beq_iff_eq] at known
    rcases known with (rfl | rfl) | rfl <;> rfl
  have ends : ∀ c ∈ (quote :: rest).head?, isAsciiLetter c = false := by
    rintro c ⟨⟩
    exact noLetter
  have taken : ((letters ++ quote :: rest).takeWhile isAsciiLetter).take 3 = letters := by
    rw [(span_append alphabetic ends).1, List.take_of_length_le few]
  have noHashes : (if (language == .rust && (String.ofList (letters.map lowerAscii) == "r" ||
      String.ofList (letters.map lowerAscii) == "br")) = true then
      ((quote :: rest).takeWhile (· == '#')).length else 0) = 0 := by
    rcases unhashed with other | rfl
    · simp [other]
    · simp
  simp only [opening?, free, Bool.false_and, Bool.false_eq_true, if_false, taken, List.drop_left,
    noHashes, List.drop_zero]
  simp only [isQuote] at known
  simp only [known, if_true]

/-- A literal opens in a style in which its text can be read. -/
theorem opening?_source (fits : spelling.Fits language) {before : Option Char}
    (free : before.any language.isIdentifierPart = false) {rest : List Char}
    (ends : rest.head? ≠ some spelling.quote) :
    ∃ style, opening? language before (spelling.source ++ rest) =
        some ⟨spelling.letters.length, style⟩ ∧ style.Decodes spelling.quote := by
  obtain ⟨letters, quote, text⟩ := spelling
  have shape : Spelling.source ⟨letters, quote, text⟩ ++ rest =
      letters ++ quote :: (spelled text ++ quote :: rest) := by
    simp [Spelling.source]
  rw [shape]
  simp only at ends ⊢
  rcases fits with ⟨host, noLetters, quoted⟩ | ⟨python, lead, quoted⟩ | ⟨script, noLetters, quoted⟩
  · obtain rfl : letters = [] := noLetters
    obtain rfl : quote = '"' := quoted
    have once := take_two_spelled (by decide : '"' ∈ ambiguous ∧ '"' ≠ '\\') text ends
    rw [opening?_letters (by decide) (List.forall_mem_nil _) rfl (.inr rfl) free, once]
    cases language with
    | sql => exact absurd rfl host
    | _ => exact ⟨_, rfl, by decide, rfl, rfl, rfl, rfl⟩
  · obtain rfl : quote = '"' := quoted
    subst python
    have once := take_two_spelled (by decide : '"' ∈ ambiguous ∧ '"' ≠ '\\') text ends
    obtain rfl | rfl : letters = ['f'] ∨ letters = ['F'] := by simpa using lead
    all_goals
      rw [opening?_letters (by decide) (List.forall_mem_singleton.mpr rfl) rfl (.inl (by decide)) free,
        once]
      exact ⟨_, rfl, by decide, rfl, rfl, rfl, rfl⟩
  · obtain rfl : letters = [] := noLetters
    obtain rfl : quote = '\x60' := quoted
    subst script
    rw [opening?_letters (by decide) (List.forall_mem_nil _) rfl (.inr rfl) free]
    exact ⟨_, rfl, by decide, rfl, rfl, rfl, rfl⟩

/-- A literal that fits a language stands on one line until its text begins. -/
theorem Spelling.Fits.oneLine (fits : spelling.Fits language) :
    '\n' ∉ spelling.letters ++ [spelling.quote] := by
  obtain ⟨letters, quote, text⟩ := spelling
  simp only [List.mem_append, List.mem_singleton, not_or]
  rcases fits with ⟨_, noLetters, quoted⟩ | ⟨_, lead, quoted⟩ | ⟨_, noLetters, quoted⟩
  · obtain rfl : letters = [] := noLetters
    obtain rfl : quote = '"' := quoted
    decide
  · obtain rfl : quote = '"' := quoted
    obtain rfl | rfl : letters = ['f'] ∨ letters = ['F'] := by simpa using lead
    all_goals decide
  · obtain rfl : letters = [] := noLetters
    obtain rfl : quote = '\x60' := quoted
    decide

/-- The text of a literal is read, and the reader stands behind its quote. -/
theorem readString_source (fits : spelling.Fits language) (decodes : style.Decodes spelling.quote)
    (draft : Draft) (before : Option Char) (line : Nat) (rest : List Char) :
    readString ⟨spelling.letters.length, style⟩ draft
        ⟨before, line, spelling.source ++ rest, false⟩ =
      (draft.addText spelling.text, ⟨some spelling.quote, line, rest, false⟩) := by
  have shape : spelling.source ++ rest =
      (spelling.letters ++ [spelling.quote]) ++
        (spelled spelling.text ++ spelling.quote :: rest) := by
    simp [Spelling.source]
  have opened : spelling.letters.length + style.openingSpan =
      (spelling.letters ++ [spelling.quote]).length := by
    simp [Style.openingSpan, Style.quotes, decodes.triple, decodes.hashes]
  rw [readString, shape]
  simp only [opened]
  rw [Cursor.advance_append fits.oneLine, readBody_spelled decodes]

/-- No blank and no comment starts where a literal starts. -/
theorem blankSpan_source (fits : spelling.Fits language) (rest : List Char) :
    blankSpan language (spelling.source ++ rest) = 0 ∧
      commentSpan language (spelling.source ++ rest) = 0 := by
  have first : ∃ c more, spelling.source ++ rest = c :: more ∧ c ∈ ['"', 'f', 'F', '\x60'] := by
    obtain ⟨letters, quote, text⟩ := spelling
    rcases fits with ⟨_, noLetters, quoted⟩ | ⟨_, lead, quoted⟩ | ⟨_, noLetters, quoted⟩
    · obtain rfl : letters = [] := noLetters
      exact ⟨quote, _, rfl, by simp [show quote = '"' from quoted]⟩
    · obtain rfl | rfl : letters = ['f'] ∨ letters = ['F'] := by simpa using lead
      · exact ⟨'f', _, rfl, by decide⟩
      · exact ⟨'F', _, rfl, by decide⟩
    · obtain rfl : letters = [] := noLetters
      exact ⟨quote, _, rfl, by simp [show quote = '\x60' from quoted]⟩
  obtain ⟨c, more, shape, known⟩ := first
  rw [shape]
  simp only [List.mem_cons, List.not_mem_nil, or_false] at known
  rcases known with rfl | rfl | rfl | rfl <;> simp [blankSpan, commentSpan, isBlank]

namespace Cursor

/-- A single space is passed over. -/
theorem skipBlanks_space {rest : List Char} (stops : blankSpan language rest = 0)
    (before : Option Char) (line : Nat) :
    skipBlanks language ⟨before, line, ' ' :: rest, false⟩ = ⟨some ' ', line, rest, false⟩ := by
  have stays : skipBlanks language ⟨some ' ', line, rest, false⟩ = ⟨some ' ', line, rest, false⟩ := by
    rw [skipBlanks]
    split
    · rfl
    · rename_i spanned
      rw [stops] at spanned
      cases spanned
  rw [skipBlanks]
  split
  · rename_i spanned
    simp [blankSpan, isBlank] at spanned
  · rename_i count spanned
    have one : count = 0 := by simpa [blankSpan, isBlank] using spanned.symm
    subst one
    exact stays

theorem skipBlanks_end (before : Option Char) (line : Nat) :
    skipBlanks language ⟨before, line, [], false⟩ = ⟨before, line, [], false⟩ := by
  rw [skipBlanks]
  split
  · rfl
  · rename_i spanned
    cases spanned

end Cursor

/-- Further literals of a sum, each behind a plus sign. -/
def Spelling.further (spellings : List Spelling) : List Char :=
  spellings.flatMap fun spelling => " + ".toList ++ spelling.source

/-- The next literal of a sum is joined. -/
theorem joint_further (fits : spelling.Fits language) (before : Option Char) (line : Nat)
    {rest : List Char} (ends : rest.head? ≠ some spelling.quote) :
    ∃ style, joint language ⟨before, line, " + ".toList ++ (spelling.source ++ rest), false⟩ =
        .ok (.string ⟨spelling.letters.length, style⟩
          ⟨some ' ', line, spelling.source ++ rest, false⟩) ∧ style.Decodes spelling.quote := by
  have space : (some ' ').any language.isIdentifierPart = false := by
    cases language <;> decide
  obtain ⟨style, opens, decodes⟩ := opening?_source fits space ends
  refine ⟨style, ?_, decodes⟩
  have plus : blankSpan language ('+' :: ' ' :: (spelling.source ++ rest)) = 0 := by
    simp [blankSpan, commentSpan, isBlank]
  have before? := Cursor.skipBlanks_space plus before line
  have after := Cursor.skipBlanks_space (blankSpan_source fits rest).1 (some '+') line
  have stepped : Cursor.next ⟨some ' ', line, '+' :: ' ' :: (spelling.source ++ rest), false⟩ =
      ⟨some '+', line, ' ' :: (spelling.source ++ rest), false⟩ := by
    simp [Cursor.next]
  have isPlus : startsWithPlus ('+' :: ' ' :: (spelling.source ++ rest)) = true := rfl
  change joint language ⟨before, line, ' ' :: '+' :: ' ' :: (spelling.source ++ rest), false⟩ = _
  rw [joint]
  simp only [before?, isPlus, if_true, stepped, after]
  rw [joinedAt]
  simp only [Bool.false_eq_true, if_false, opens]

/-- Nothing is joined at the end of a text. -/
theorem joint_end (before : Option Char) (line : Nat) :
    joint language ⟨before, line, [], false⟩ = .ok .nothing := by
  rw [joint]
  simp only [Cursor.skipBlanks_end, startsWithPlus, Bool.false_eq_true, if_false]
  split
  · simp [joinedAt, opening?_nil]
  · rfl

/-- Behind a literal of a sum stands a space, if anything. -/
theorem Spelling.Fits.further_head? (fits : spelling.Fits language) (spellings : List Spelling) :
    (Spelling.further spellings).head? ≠ some spelling.quote := by
  have other : spelling.quote ≠ ' ' := by
    rcases fits with ⟨_, _, quoted⟩ | ⟨_, _, quoted⟩ | ⟨_, _, quoted⟩ <;> simp [quoted]
  cases spellings with
  | nil => exact nofun
  | cons next spellings => exact fun same => other (Option.some.inj same).symm

/-- A literal that is joined is read, and then what is joined to it. -/
theorem readJoined_of_string {cursor place : Cursor} {opening : Opening}
    (joined : joint language cursor = .ok (.string opening place)) (draft : Draft) :
    readJoined language draft cursor =
      readJoined language (readString opening draft place).1 (readString opening draft place).2 := by
  rw [readJoined]
  split <;> rename_i told <;> cases joined.symm.trans told
  rfl

/-- Where nothing is joined, the reader stays. -/
theorem readJoined_of_nothing {cursor : Cursor} (joined : joint language cursor = .ok .nothing)
    (draft : Draft) : readJoined language draft cursor = .ok (draft, cursor) := by
  rw [readJoined]
  split <;> rename_i told <;> cases joined.symm.trans told
  rfl

/-- All further literals of a sum are read, and nothing is left. -/
theorem readJoined_further {spellings : List Spelling}
    (fits : ∀ spelling ∈ spellings, spelling.Fits language) (draft : Draft) (before : Option Char)
    (line : Nat) :
    ∃ last, readJoined language draft ⟨before, line, Spelling.further spellings, false⟩ =
      .ok (draft.addText (spellings.flatMap Spelling.text), ⟨last, line, [], false⟩) := by
  induction spellings generalizing draft before with
  | nil =>
      have stays : draft.addText [] = draft := by simp [Draft.addText]
      refine ⟨before, (readJoined_of_nothing (joint_end before line) draft).trans ?_⟩
      rw [List.flatMap_nil, stays]
  | cons spelling spellings inductionHypothesis =>
      rw [List.forall_mem_cons] at fits
      obtain ⟨style, joined, decodes⟩ := joint_further fits.1 before line
        (fits.1.further_head? spellings)
      obtain ⟨last, rest⟩ := inductionHypothesis fits.2 (draft.addText spelling.text)
        (some spelling.quote)
      have shape : Spelling.further (spelling :: spellings) =
          " + ".toList ++ (spelling.source ++ Spelling.further spellings) := by
        simp [Spelling.further]
      refine ⟨last, ?_⟩
      rw [shape, readJoined_of_string joined, readString_source fits.1 decodes, rest,
        addText_addText, List.flatMap_cons]

/-- No arguments stand behind the last literal of a text. -/
theorem trailingArguments_end (before : Option Char) (line : Nat) :
    trailingArguments language ⟨before, line, [], false⟩ = .ok .empty := by
  rw [trailingArguments]
  simp only [Cursor.skipBlanks_end]
  rw [if_neg (by simp), if_neg (by simp)]
  rfl

end Literals

/-- A sum of literals in a source text. -/
theorem sum_cons (first : Spelling) (others : List Spelling) :
    Spelling.sum (first :: others) = first.source ++ Spelling.further others := by
  rw [Spelling.sum, Spelling.further]
  induction others generalizing first with
  | nil => simp [joinWith]
  | cons next others inductionHypothesis =>
      rw [List.map_cons, List.map_cons, joinWith, ← List.map_cons, inductionHypothesis,
        List.flatMap_cons]
      · simp
      · exact nofun

/-- Texts that are spelled as literals and joined with plus signs are read back as one literal, whose
text is all of them in order; it holds no expressions and has no arguments. -/
theorem literalsOf_sum {language : Language} (first : Spelling) (others : List Spelling)
    (fits : ∀ spelling ∈ first :: others, spelling.Fits language) :
    literalsOf language (Spelling.sum (first :: others)) =
      .ok [⟨(first :: others).flatMap Spelling.text, 1, [], .empty⟩] := by
  rw [List.forall_mem_cons] at fits
  have host : (language == .sql) = false := by
    rcases fits.1 with ⟨host, _⟩ | ⟨rfl, _⟩ | ⟨rfl, _⟩
    · simpa using host
    · rfl
    · rfl
  obtain ⟨style, opens, decodes⟩ := opening?_source fits.1
    (rfl : (none : Option Char).any language.isIdentifierPart = false)
    (fits.1.further_head? others)
  obtain ⟨last, joined⟩ := readJoined_further fits.2 (Draft.empty.addText first.text)
    (some first.quote) 1
  have read : readLiteral language ⟨first.letters.length, style⟩
      ⟨none, 1, first.source ++ Spelling.further others, false⟩ =
      .ok (⟨(first :: others).flatMap Spelling.text, 1, [], .empty⟩, ⟨last, 1, [], false⟩) := by
    rw [readLiteral, readString_source fits.1 decodes]
    simp only [joined, trailingArguments_end, addText_addText]
    simp [Draft.addText, Draft.empty]
  have comment := (blankSpan_source fits.1 (Spelling.further others)).2
  have nonempty : first.source ++ Spelling.further others ≠ [] := by
    simp [Spelling.source]
  rw [literalsOf, host, if_neg Bool.false_ne_true, sum_cons, Cursor.start, readLiterals]
  rw [dif_neg nonempty]
  simp only
  split
  · rename_i span told
    rw [comment] at told
    cases told
  · split
    · rename_i none
      cases opens.symm.trans none
    · rename_i opening found
      cases opens.symm.trans found
      split
      · rename_i fault told
        cases read.symm.trans told
      · rename_i literal after told
        cases read.symm.trans told
        simp [readLiterals]

/-- A quoted name in braces at the end of a line, and a number sign, are read back in Python. -/
theorem literalsOf_sum_name :
    let first : Spelling := ⟨['F'], '"', "SELECT \"\x7bid\x7d\"\n".toList⟩
    let second : Spelling := ⟨[], '"', ['#']⟩
    (∀ spelling ∈ [first, second], spelling.Fits .python) ∧
      Spelling.sum [first, second] =
        "F\"SELECT \\\"\\\x7bid\\\x7d\\\"\\n\" + \"\\#\"".toList ∧
      literalsOf .python (Spelling.sum [first, second]) =
        .ok [⟨"SELECT \"\x7bid\x7d\"\n#".toList, 1, [], .empty⟩] := by
  intro first second
  have fits : ∀ spelling ∈ [first, second], spelling.Fits .python := by decide
  exact ⟨fits, by decide, literalsOf_sum first [second] fits⟩

end SchemaDrift.Host
