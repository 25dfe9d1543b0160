import SchemaDrift.Proofs.Host.Decoding

/-
This file holds what the reader of a source text passes over before it comes to a literal. Of all that
it has passed over, only the last character matters, and of that only whether it is part of an
identifier: a character in apostrophes is passed over as a whole, unless it is an apostrophe itself, and
a word takes the double quote that stands directly behind it along.
-/

namespace SchemaDrift.Host

open Text

section Steps

variable {language : Language} (cursor : Cursor)

/-- A comment is passed over. -/
theorem readLiterals_of_comment {count : Nat}
    (comment : commentSpan language cursor.rest = count + 1) :
    readLiterals language cursor = readLiterals language (cursor.advance (count + 1)) := by
  have nonempty : cursor.rest ≠ [] := by
    intro empty
    rw [empty] at comment
    cases comment
  rw [readLiterals, dif_neg nonempty]
  simp only
  split
  · rename_i told
    cases comment.symm.trans told
    rfl
  · rename_i told
    cases comment.symm.trans told

/-- Where no comment and no literal starts, the reader goes on behind what it passes over. -/
theorem readLiterals_of_plain (more : cursor.rest ≠ [])
    (comment : commentSpan language cursor.rest = 0)
    (closed : opening? language cursor.before cursor.rest = none) :
    readLiterals language cursor =
      readLiterals language (cursor.advance (plainSpan language cursor.rest)) := by
  rw [readLiterals, dif_neg more]
  simp only
  split
  · rename_i told
    cases comment.symm.trans told
  · split
    · rfl
    · rename_i found
      cases closed.symm.trans found

/-- Where a literal opens, it is read, and then all that is behind it. -/
theorem readLiterals_of_opening {opening : Opening} (more : cursor.rest ≠ [])
    (comment : commentSpan language cursor.rest = 0)
    (opens : opening? language cursor.before cursor.rest = some opening) :
    readLiterals language cursor = (do
      let (literal, after) ← readLiteral language opening cursor
      let literals ← readLiterals language after
      return literal :: literals) := by
  rw [readLiterals, dif_neg more]
  simp only
  split
  · rename_i told
    cases comment.symm.trans told
  · split
    · rename_i none
      cases opens.symm.trans none
    · rename_i other found
      cases opens.symm.trans found
      split
      · rename_i fault told
        rw [told]
        rfl
      · rename_i literal after told
        rw [told]
        simp only [bind, Except.bind, pure, Except.pure]
        split <;> rename_i rest <;> rw [rest]

/-- Two places on one line at which literals open are read alike when the first parts of the literals
are. -/
theorem readLiterals_congr {first second : Cursor} {opening other : Opening}
    (more : first.rest ≠ []) (comment : commentSpan language first.rest = 0)
    (opens : opening? language first.before first.rest = some opening)
    (otherMore : second.rest ≠ []) (otherComment : commentSpan language second.rest = 0)
    (otherOpens : opening? language second.before second.rest = some other)
    (line : first.line = second.line)
    (same : readString opening .empty first = readString other .empty second) :
    readLiterals language first = readLiterals language second := by
  have read : readLiteral language opening first = readLiteral language other second := by
    rw [readLiteral, readLiteral, same, line]
  rw [readLiterals_of_opening first more comment opens,
    readLiterals_of_opening second otherMore otherComment otherOpens, read]

end Steps

/-- What was in front of a place no longer matters behind further characters. -/
theorem Cursor.advance_before {count : Nat} (positive : 0 < count) {rest : List Char}
    (more : rest ≠ []) (first second : Option Char) (line : Nat) (beyond : Bool) :
    advance count ⟨first, line, rest, beyond⟩ = advance count ⟨second, line, rest, beyond⟩ := by
  obtain ⟨c, rest, rfl⟩ := List.exists_cons_of_ne_nil more
  cases count with
  | zero => cases positive
  | succ count => rfl

section Boundary

variable {language : Language} {first second : Option Char}

/-- Whether a literal opens depends on the character in front only by its being part of an
identifier. -/
theorem opening?_before
    (same : first.any language.isIdentifierPart = second.any language.isIdentifierPart)
    (text : List Char) : opening? language first text = opening? language second text := by
  simp only [opening?, same]

/-- What is read depends on the character in front only by its being part of an identifier. -/
theorem readLiterals_before
    (same : first.any language.isIdentifierPart = second.any language.isIdentifierPart) (line : Nat)
    (rest : List Char) (beyond : Bool) :
    readLiterals language ⟨first, line, rest, beyond⟩ =
      readLiterals language ⟨second, line, rest, beyond⟩ := by
  by_cases more : rest = []
  · subst more
    simp [readLiterals]
  cases comment : commentSpan language rest with
  | succ count =>
      rw [readLiterals_of_comment ⟨first, line, rest, beyond⟩ comment,
        readLiterals_of_comment ⟨second, line, rest, beyond⟩ comment,
        Cursor.advance_before (Nat.succ_pos count) more first second]
  | zero =>
      have alike := opening?_before same rest
      cases opens : opening? language second rest with
      | none =>
          rw [readLiterals_of_plain ⟨first, line, rest, beyond⟩ more comment (alike.trans opens),
            readLiterals_of_plain ⟨second, line, rest, beyond⟩ more comment opens]
          simp only
          rw [Cursor.advance_before (plainSpan_pos language rest) more first second]
      | some opening =>
          have same : readString opening .empty ⟨first, line, rest, beyond⟩ =
              readString opening .empty ⟨second, line, rest, beyond⟩ := by
            have positive : 0 < opening.letters + opening.style.openingSpan :=
              Nat.add_pos_right _ opening.style.openingSpan_pos
            rw [readString, readString, Cursor.advance_before positive more first second]
          exact readLiterals_congr more comment (alike.trans opens) more comment opens rfl same

/-- A literal without letters in front of it opens with its quote. -/
theorem opening?_bare {quote : Char} (known : isQuote quote = true) (rest : List Char) :
    opening? language none (quote :: rest) =
      (Style.ofOpening? language "" 0 quote (rest.take 2 == [quote, quote])).map
        fun style => ⟨0, style⟩ := by
  have opened : opening? language none ([] ++ quote :: rest) = _ :=
    opening?_letters (by decide) (List.forall_mem_nil _) known (.inr rfl) rfl rest
  exact opened

/-- The literals of a source text of a program are read from its start. -/
theorem literalsOf_of_host (host : language ≠ .sql) (source : List Char) :
    literalsOf language source = readLiterals language (.start source) :=
  if_neg (by simpa using host)

/-- Behind a character that is no part of an identifier, the reader reads as from the start. -/
theorem readLiterals_behind (host : language ≠ .sql) {c : Char}
    (apart : language.isIdentifierPart c = false) (rest : List Char) :
    readLiterals language ⟨some c, 1, rest, false⟩ = literalsOf language rest := by
  rw [literalsOf_of_host host]
  exact readLiterals_before (by simpa using apart) 1 rest false

/-- What the reader passes over on the first line is nothing but the character in front of the
rest. -/
theorem literalsOf_append (host : language ≠ .sql) {run : List Char} (oneLine : '\n' ∉ run)
    {rest : List Char} (more : run ++ rest ≠ []) (comment : commentSpan language (run ++ rest) = 0)
    (closed : opening? language none (run ++ rest) = none)
    (span : plainSpan language (run ++ rest) = run.length) :
    literalsOf language (run ++ rest) = readLiterals language ⟨run.getLast?, 1, rest, false⟩ := by
  rw [literalsOf_of_host host, readLiterals_of_plain _ more comment closed]
  simp only [Cursor.start, span]
  rw [Cursor.advance_append oneLine, Option.or_none]

end Boundary

section Apostrophes

variable {language : Language}

/-- A character as it stands in apostrophes: itself, or behind a backslash. -/
inductive CharacterLiteral : List Char → Prop where
  | plain {c : Char} (noQuote : c ≠ '\'') (noBackslash : c ≠ '\\') (noFeed : c ≠ '\n') :
      CharacterLiteral ['\'', c, '\'']
  | escaped {c : Char} (noFeed : c ≠ '\n') : CharacterLiteral ['\'', '\\', c, '\'']

def quotedApostrophe : List Char := ['\'', '\\', '\'', '\'']

/-- In a language in which an apostrophe encloses a single character, it opens no literal. What it is
taken to enclose is passed over, and the reader goes on as from the start. -/
theorem literalsOf_apostrophe (single : language.apostropheIsCharacter = true) {run : List Char}
    (oneLine : '\n' ∉ run) (closes : ('\'' :: run).getLast? = some '\'') {rest : List Char}
    (span : characterSpan ('\'' :: (run ++ rest)) = run.length + 1) :
    literalsOf language ('\'' :: (run ++ rest)) = literalsOf language rest := by
  have host : language ≠ .sql := by
    rintro rfl
    cases single
  have apart : language.isIdentifierPart '\'' = false := by
    cases language <;> rfl
  have closed : opening? language none ('\'' :: (run ++ rest)) = none := by
    rw [opening?_bare rfl]
    cases language <;> first | rfl | cases single
  have comment : commentSpan language ('\'' :: (run ++ rest)) = 0 := by
    simp [commentSpan]
  have passed : plainSpan language ('\'' :: (run ++ rest)) = ('\'' :: run).length := by
    rw [plainSpan, single, List.length_cons, ← span]
    rfl
  have lead : '\n' ∉ '\'' :: run := by
    rw [List.mem_cons, not_or]
    exact ⟨by decide, oneLine⟩
  rw [← List.cons_append, literalsOf_append host lead (List.cons_ne_nil _ _) comment closed passed,
    closes, readLiterals_behind host apart]

/-- A character in apostrophes is passed over, so that the literals are those of what follows it. The
apostrophe in apostrophes ends too early: its closing one is read as if it opened, which changes
nothing unless a backslash follows it or a further apostrophe closes it. -/
theorem literalsOf_character (single : language.apostropheIsCharacter = true) {literal : List Char}
    (character : CharacterLiteral literal) (rest : List Char) :
    (literal ≠ quotedApostrophe → literalsOf language (literal ++ rest) = literalsOf language rest) ∧
      (literal = quotedApostrophe →
        literalsOf language (literal ++ rest) = literalsOf language ('\'' :: rest) ∧
          (rest.head? ≠ some '\\' → rest[1]? ≠ some '\'' →
            literalsOf language (literal ++ rest) = literalsOf language rest)) := by
  constructor
  · intro other
    cases character with
    | @plain c noQuote noBackslash noFeed =>
        have passed : literalsOf language ('\'' :: ([c, '\''] ++ rest)) = literalsOf language rest :=
          literalsOf_apostrophe single (by simpa using Ne.symm noFeed) rfl
            (by simp [characterSpan, noBackslash])
        exact passed
    | @escaped c noFeed =>
        have noQuote : c ≠ '\'' := by
          rintro rfl
          exact other rfl
        have passed : literalsOf language ('\'' :: (['\\', c, '\''] ++ rest)) =
            literalsOf language rest :=
          literalsOf_apostrophe single (by simpa using Ne.symm noFeed) rfl
            (by simp [characterSpan, noQuote, noFeed])
        exact passed
  · rintro rfl
    have early : literalsOf language ('\'' :: (['\\', '\''] ++ '\'' :: rest)) =
        literalsOf language ('\'' :: rest) :=
      literalsOf_apostrophe single (by decide) rfl (by simp [characterSpan])
    refine ⟨early, fun noBackslash noQuote => early.trans ?_⟩
    have alone : literalsOf language ('\'' :: ([] ++ rest)) = literalsOf language rest := by
      rw [List.head?_eq_getElem?] at noBackslash
      exact literalsOf_apostrophe single List.not_mem_nil rfl
        (by simp [characterSpan, noBackslash, noQuote])
    exact alone

/-- A double quote in apostrophes opens nothing, and the literal behind it is found. -/
theorem literalsOf_character_quote :
    Language.rust.apostropheIsCharacter = true ∧ CharacterLiteral ['\'', '"', '\''] ∧
      literalsOf .rust "'\"', \"id\"".toList = literalsOf .rust ", \"id\"".toList := by
  have character : CharacterLiteral ['\'', '"', '\''] :=
    .plain (by decide) (by decide) (by decide)
  exact ⟨rfl, character, (literalsOf_character rfl character ", \"id\"".toList).1 (by decide)⟩

/-- Behind an apostrophe in apostrophes, the apostrophe of the next character is passed over. -/
theorem literalsOf_character_unlike :
    ¬∀ (language : Language) (literal rest : List Char), language.apostropheIsCharacter = true →
      CharacterLiteral literal →
        (∃ c more, rest = c :: more ∧ isNamePart c = false ∧ c ≠ '\'') →
          literalsOf language (literal ++ rest) = literalsOf language rest := by
  intro transparent
  have same := transparent .rust quotedApostrophe ",'\"'; \"id\"".toList rfl
    (.escaped (by decide)) ⟨',', "'\"'; \"id\"".toList, by decide, by decide, by decide⟩
  exact absurd same (by decide +kernel)

end Apostrophes

end SchemaDrift.Host
