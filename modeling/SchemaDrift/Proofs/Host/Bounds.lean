import SchemaDrift.Host.Literal
import SchemaDrift.Proofs.Text.Chars

namespace SchemaDrift.Host

/-- A text that does not end with a backslash. -/
def Finished (text : List Char) : Prop := text.getLast? ≠ some '\\'

instance (text : List Char) : Decidable (Finished text) := inferInstanceAs (Decidable (_ ≠ _))

theorem Finished.drop {text : List Char} (finished : Finished text) (count : Nat) :
    Finished (text.drop count) := by
  unfold Finished
  rw [List.getLast?_drop]
  split
  · exact nofun
  · exact finished

/-- The text behind the first character of a finished one is finished. -/
theorem Finished.tail {c : Char} {rest : List Char} (finished : Finished (c :: rest)) :
    Finished rest :=
  finished.drop 1

section Spans

/-- A block comment ends within the text. -/
theorem blockCommentSpan_le (text : List Char) : blockCommentSpan text ≤ text.length := by
  fun_induction blockCommentSpan text with
  | case1 => exact Nat.le_refl _
  | case2 => simp
  | case3 c rest _ inductionHypothesis =>
      rw [List.length_cons]
      omega

/-- A prefix of characters of one kind is no longer than the text. -/
theorem length_takeWhile_le (keep : Char → Bool) (text : List Char) :
    (text.takeWhile keep).length ≤ text.length :=
  (List.takeWhile_sublist keep).length_le

/-- A comment ends within the text. -/
theorem commentSpan_le (language : Language) (text : List Char) :
    commentSpan language text ≤ text.length := by
  unfold commentSpan
  split
  · exact Nat.le_refl _
  · rename_i c rest
    have line := length_takeWhile_le (· != '\n') rest
    have block := blockCommentSpan_le (rest.drop 1)
    rw [List.length_drop] at block
    rw [List.length_cons]
    split
    · omega
    · split
      · rename_i opened
        have star : rest ≠ [] := by
          intro empty
          simp [empty] at opened
        have := List.length_pos_iff.mpr star
        omega
      · omega

/-- A blank, a broken line or a comment ends within the text. -/
theorem blankSpan_le (language : Language) (text : List Char) :
    blankSpan language text ≤ text.length := by
  unfold blankSpan
  split
  · exact Nat.le_refl _
  · rename_i c rest
    have comment := commentSpan_le language (c :: rest)
    split
    · rw [List.length_cons]
      omega
    · split
      · rename_i broken
        have next : rest ≠ [] := by
          intro empty
          simp [empty] at broken
        have := List.length_pos_iff.mpr next
        rw [List.length_cons]
        omega
      · exact comment

/-- An operand of a sum ends within the text. -/
theorem operandSpan_le (depth : Nat) (text : List Char) : operandSpan depth text ≤ text.length := by
  induction text generalizing depth with
  | nil => exact Nat.le_refl _
  | cons c rest inductionHypothesis =>
      have same := inductionHypothesis depth
      have deeper := inductionHypothesis (depth + 1)
      unfold operandSpan
      rw [List.length_cons]
      split
      · omega
      · split
        · split
          · omega
          · rename_i outer
            have := inductionHypothesis outer
            omega
        · split <;> omega

/-- The members named after a variable end within the text. -/
theorem memberSpan_le (text : List Char) : memberSpan text ≤ text.length := by
  fun_induction memberSpan text with
  | case1 c rest _ inductionHypothesis =>
      simp only [List.length_cons] at inductionHypothesis ⊢
      omega
  | case2 => exact Nat.zero_le _
  | case3 c rest _ _ inductionHypothesis =>
      rw [List.length_cons]
      omega
  | case4 => exact Nat.zero_le _
  | case5 => exact Nat.le_refl _

/-- A balanced part of a finished text ends within it. -/
theorem readBalanced_span_le (opening closing : Char) (depth : Nat) (quote : Option Char)
    {text : List Char} (finished : Finished text) :
    (readBalanced opening closing depth quote text).span ≤ text.length := by
  fun_induction readBalanced opening closing depth quote text with
  | case1 => exact Nat.le_refl _
  | case3 depth c q _ escape =>
      -- The text would end with the backslash whose character is missing.
      rw [beq_iff_eq] at escape
      rw [escape] at finished
      exact absurd rfl finished
  | case4 depth c q _ _ hidden rest inductionHypothesis =>
      have := inductionHypothesis finished.tail.tail
      simp only [Balanced.cons, List.length_cons]
      omega
  | case8 => simp
  | case2 _ _ _ _ _ inductionHypothesis
  | case5 _ _ _ _ _ _ inductionHypothesis
  | case6 _ _ _ _ inductionHypothesis
  | case7 _ _ _ _ _ inductionHypothesis
  | case9 _ _ _ _ _ _ inductionHypothesis
  | case10 _ _ _ _ _ _ inductionHypothesis =>
      have := inductionHypothesis finished.tail
      simp only [Balanced.cons, List.length_cons]
      omega

/-- An expression between braces ends within a finished text. -/
theorem braced_span_le (lead : Nat) {rest : List Char} (finished : Finished rest)
    (shown : List Char → List Char) : (braced lead rest shown).span ≤ lead + rest.length := by
  have := readBalanced_span_le '\x7b' '\x7d' 0 none finished
  simp only [braced, Piece.span]
  omega

/-- An expression inside a literal ends within a finished text. -/
theorem interpolation?_span_le {kind : Interpolation} {text : List Char} {piece : Piece}
    (finished : Finished text) (found : interpolation? kind text = some piece) :
    piece.span ≤ text.length := by
  unfold interpolation? at found
  split at found
  · exact Option.some.inj found ▸ by simp [Piece.span]
  · exact Option.some.inj found ▸ by simp [Piece.span]
  · have bound := braced_span_le 1 finished.tail shownExpression
    rw [Option.some.inj found] at bound
    rw [List.length_cons]
    omega
  · have bound := braced_span_le 2 finished.tail.tail id
    rw [Option.some.inj found] at bound
    simp only [List.length_cons]
    omega
  · have bound := braced_span_le 2 finished.tail.tail id
    rw [Option.some.inj found] at bound
    simp only [List.length_cons]
    omega
  · have bound := braced_span_le 1 finished.tail id
    rw [Option.some.inj found] at bound
    simp only [List.length_cons] at bound ⊢
    omega
  · rename_i c rest
    split at found
    · have bound := memberSpan_le (c :: rest)
      rw [← Option.some.inj found]
      simp only [Piece.span, List.length_cons] at bound ⊢
      omega
    · cases found
  · cases found

/-- A part of a literal ends within a finished text. -/
theorem piece?_span_le {style : Style} {text : List Char} {piece : Piece}
    (finished : Finished text) (found : piece? style text = some piece) :
    piece.span ≤ text.length := by
  unfold piece? at found
  split at found
  · cases found
  · split at found
    · cases found
    · split at found
      · split at found <;> exact Option.some.inj found ▸ by simp [Piece.span]
      · rename_i c rest _ _
        cases inner : interpolation? style.interpolation (c :: rest) with
        | none =>
            rw [inner, Option.getD_none] at found
            exact Option.some.inj found ▸ by simp [Piece.span]
        | some other =>
            rw [inner, Option.getD_some] at found
            exact Option.some.inj found ▸ interpolation?_span_le finished inner

/-- A literal opens with the number signs and the quotes that are there. -/
theorem ofOpening?_openingSpan_le {language : Language} {letters : String} {hashes : Nat}
    {quote : Char} {tripled : Bool} {style : Style}
    (found : Style.ofOpening? language letters hashes quote tripled = some style) :
    style.openingSpan ≤ hashes + if tripled then 3 else 1 := by
  have counted : (style.triple = true → tripled = true) ∧ style.hashes ≤ hashes := by
    unfold Style.ofOpening? at found
    cases language <;> simp only at found <;> repeat' split at found
    all_goals cases found
    all_goals simp [Style.plain]
  unfold Style.openingSpan Style.quotes
  cases triple : style.triple with
  | true =>
      rw [counted.1 triple]
      simp only [if_true]
      omega
  | false =>
      simp only [Bool.false_eq_true, if_false]
      split <;> omega

/-- A literal opens within the text. -/
theorem opening?_span_le {language : Language} {before : Option Char} {text : List Char}
    {opening : Opening} (found : opening? language before text = some opening) :
    opening.letters + opening.style.openingSpan ≤ text.length := by
  unfold opening? at found
  simp only at found
  split at found
  · cases found
  · split at found
    · cases found
    · rename_i quote rest shape
      split at found
      · obtain ⟨style, made, same⟩ := Option.map_eq_some_iff.mp found
        have bound := ofOpening?_openingSpan_le made
        have quotes : (if (rest.take 2 == [quote, quote]) = true then 3 else 1) ≤ 1 + rest.length := by
          split
          · rename_i tripled
            have lengths := congrArg List.length (eq_of_beq tripled)
            rw [List.length_take] at lengths
            simp only [List.length_cons, List.length_nil] at lengths
            omega
          · omega
        have length := congrArg List.length shape
        rw [List.length_drop, List.length_drop, List.length_cons] at length
        rw [← same]
        simp only
        omega
      · cases found

end Spans

namespace Cursor

/-- A place from which no more is passed over than is left is beyond the end only if it was. -/
theorem advance_beyond {count : Nat} {cursor : Cursor} (within : count ≤ cursor.rest.length) :
    (cursor.advance count).beyond = cursor.beyond := by
  induction count generalizing cursor with
  | zero => rfl
  | succ count inductionHypothesis =>
      cases shape : cursor.rest with
      | nil => simp [shape] at within
      | cons c rest =>
          have stepped : cursor.next.beyond = cursor.beyond := by
            unfold next
            rw [shape]
          have left : count ≤ cursor.next.rest.length := by
            rw [next_rest, List.length_drop]
            omega
          rw [advance, inductionHypothesis left, stepped]

/-- A place at which something is left is not beyond the end. -/
def Grounded (cursor : Cursor) : Prop := cursor.beyond = true → cursor.rest = []

/-- A place stays grounded whatever is passed over. -/
theorem Grounded.advance {cursor : Cursor} (grounded : cursor.Grounded) (count : Nat) :
    (cursor.advance count).Grounded := by
  intro beyond
  by_cases within : count ≤ cursor.rest.length
  · rw [advance_beyond within] at beyond
    rw [advance_rest, grounded beyond, List.drop_nil]
  · rw [advance_rest, List.drop_eq_nil_of_le]
    omega

/-- Blanks and comments are passed over within the text. -/
theorem skipBlanks_beyond (language : Language) (cursor : Cursor) :
    (cursor.skipBlanks language).beyond = cursor.beyond := by
  fun_induction Cursor.skipBlanks language cursor with
  | case1 => rfl
  | case2 cursor count spanned inductionHypothesis =>
      rw [inductionHypothesis, advance_beyond]
      have bound := blankSpan_le language cursor.rest
      rw [spanned] at bound
      exact bound

/-- Blanks and comments are passed over from the start of what is left. -/
theorem exists_skipBlanks_rest (language : Language) (cursor : Cursor) :
    ∃ count, (cursor.skipBlanks language).rest = cursor.rest.drop count := by
  fun_induction Cursor.skipBlanks language cursor with
  | case1 => exact ⟨0, rfl⟩
  | case2 cursor count spanned inductionHypothesis =>
      obtain ⟨more, same⟩ := inductionHypothesis
      refine ⟨count + 1 + more, ?_⟩
      rw [same, advance_rest, List.drop_drop]

/-- A place that the reader can go on from: it is grounded, and in a language that joins neighbouring
literals it is within a finished text. -/
structure Sound (language : Language) (cursor : Cursor) : Prop where
  grounded : cursor.Grounded
  within : language.joinsNeighbours = true → cursor.beyond = false ∧ Finished cursor.rest

namespace Sound

variable {language : Language} {cursor : Cursor}

/-- The reader can go on after what ends within the text; where literals are not joined, after
anything. -/
theorem advance (sound : cursor.Sound language) {count : Nat}
    (within : language.joinsNeighbours = true → count ≤ cursor.rest.length) :
    (cursor.advance count).Sound language where
  grounded := sound.grounded.advance count
  within joins := by
    obtain ⟨before, finished⟩ := sound.within joins
    rw [advance_beyond (within joins), advance_rest]
    exact ⟨before, finished.drop count⟩

/-- The reader can go on after blanks and comments. -/
theorem skipBlanks (sound : cursor.Sound language) : (cursor.skipBlanks language).Sound language := by
  obtain ⟨count, left⟩ := exists_skipBlanks_rest language cursor
  constructor
  · intro beyond
    rw [skipBlanks_beyond] at beyond
    rw [left, sound.grounded beyond, List.drop_nil]
  · intro joins
    obtain ⟨before, finished⟩ := sound.within joins
    rw [skipBlanks_beyond, left]
    exact ⟨before, finished.drop count⟩

/-- The reader can go on after one character that is there. -/
theorem next (sound : cursor.Sound language) (more : cursor.rest ≠ []) :
    cursor.next.Sound language := by
  have one : language.joinsNeighbours = true → 1 ≤ cursor.rest.length :=
    fun _ => List.length_pos_iff.mpr more
  exact sound.advance one

/-- The reader starts at a place that it can go on from. -/
theorem start {source : List Char} (finished : language.joinsNeighbours = true → Finished source) :
    (Cursor.start source).Sound language where
  grounded := nofun
  within joins := ⟨rfl, finished joins⟩

end Sound

end Cursor

variable {language : Language} {cursor : Cursor}

/-- The reader can go on after a literal that it opened. -/
theorem readBody_sound (style : Style) (draft : Draft) (sound : cursor.Sound language) :
    (readBody style draft cursor).2.Sound language := by
  fun_induction readBody style draft cursor with
  | case1 draft cursor ends =>
      apply sound.advance
      intro _
      obtain ⟨tail, shape⟩ := (Text.startsWith_iff _ _).mp ends
      have length := congrArg List.length shape
      simp only [Style.delimiter, List.length_append, List.length_replicate] at length
      rw [Style.openingSpan]
      omega
  | case2 => exact sound
  | case3 draft cursor _ piece found _ inductionHypothesis =>
      apply inductionHypothesis
      apply sound.advance
      intro joins
      exact piece?_span_le (sound.within joins).2 found

/-- The reader can go on after a literal. -/
theorem readString_sound {opening : Opening} (draft : Draft) (sound : cursor.Sound language)
    (found : opening? language cursor.before cursor.rest = some opening) :
    (readString opening draft cursor).2.Sound language := by
  apply readBody_sound
  apply sound.advance
  intro _
  exact opening?_span_le found

/-- What is joined at a place within the text can be told. -/
theorem exists_joinedAt (plus : Bool) {place : Cursor} (within : place.beyond = false) :
    ∃ joined, joinedAt language plus place = .ok joined := by
  unfold joinedAt
  rw [within, if_neg Bool.false_ne_true]
  split
  · exact ⟨_, rfl⟩
  · split <;> exact ⟨_, rfl⟩

/-- What is joined to a literal can be told wherever the reader can go on. -/
theorem exists_joint (sound : cursor.Sound language) : ∃ joined, joint language cursor = .ok joined := by
  have blanks := sound.skipBlanks
  unfold joint
  simp only
  split
  · rename_i plus
    have more : (cursor.skipBlanks language).rest ≠ [] := by
      intro empty
      rw [empty] at plus
      cases plus
    have within : (cursor.skipBlanks language).beyond = false := by
      rw [← Bool.not_eq_true]
      exact fun beyond => more (blanks.grounded beyond)
    have one : 1 ≤ (cursor.skipBlanks language).rest.length := List.length_pos_iff.mpr more
    apply exists_joinedAt
    rw [Cursor.skipBlanks_beyond, ← within]
    exact Cursor.advance_beyond one
  · split
    · rename_i joins
      exact exists_joinedAt false (blanks.within joins).1
    · exact ⟨_, rfl⟩

/-- The place behind what is joined to a literal, and how a literal joined there opens. -/
inductive Joint.Sound (language : Language) : Joint → Prop where
  | nothing : Joint.nothing.Sound language
  | string {opening : Opening} {place : Cursor} (sound : place.Sound language)
      (found : opening? language place.before place.rest = some opening) :
      (Joint.string opening place).Sound language
  | operand {expression : List Char} {place : Cursor} (sound : place.Sound language) :
      (Joint.operand expression place).Sound language

/-- The reader can go on after an expression joined to a literal. -/
theorem operandAt_sound (sound : cursor.Sound language) : (operandAt cursor).Sound language := by
  unfold operandAt
  simp only
  split
  · exact .nothing
  · exact .operand (sound.advance fun _ => operandSpan_le 0 cursor.rest)

/-- The reader can go on with what is joined at a place. -/
theorem joinedAt_sound {plus : Bool} {joined : Joint} (sound : cursor.Sound language)
    (told : joinedAt language plus cursor = .ok joined) : joined.Sound language := by
  unfold joinedAt at told
  split at told
  · cases told
  · split at told
    · rename_i found
      cases told
      exact .string sound found
    · split at told
      · cases told
        exact operandAt_sound sound
      · cases told
        exact .nothing

/-- The reader can go on with what is joined to a literal. -/
theorem joint_sound {joined : Joint} (sound : cursor.Sound language)
    (told : joint language cursor = .ok joined) : joined.Sound language := by
  unfold joint at told
  simp only at told
  split at told
  · rename_i plus
    have more : (cursor.skipBlanks language).rest ≠ [] := by
      intro empty
      rw [empty] at plus
      cases plus
    exact joinedAt_sound (sound.skipBlanks.next more).skipBlanks told
  · split at told
    · exact joinedAt_sound sound.skipBlanks told
    · cases told
      exact .nothing

/-- All that is joined to a literal can be read, and the reader can go on after it. -/
theorem exists_readJoined (draft : Draft) (sound : cursor.Sound language) :
    ∃ answer, readJoined language draft cursor = .ok answer ∧ answer.2.Sound language := by
  fun_induction readJoined language draft cursor with
  | case1 draft cursor fault failed =>
      obtain ⟨joined, told⟩ := exists_joint sound
      cases failed.symm.trans told
  | case2 draft cursor => exact ⟨_, rfl, sound⟩
  | case3 draft cursor opening place told _ _ inductionHypothesis =>
      obtain - | ⟨placed, found⟩ | - := joint_sound sound told
      exact inductionHypothesis (readString_sound draft placed found)
  | case4 draft cursor expression place told _ inductionHypothesis =>
      obtain - | - | placed := joint_sound sound told
      exact inductionHypothesis placed

/-- The operand of a formatting operator can be read from a finished text. -/
theorem exists_formatOperand {text : List Char} (finished : Finished text) :
    ∃ operand, formatOperand text = .ok operand := by
  have group : ∀ {c : Char} {rest : List Char} (opening closing : Char),
      Finished (c :: rest) → ∃ operand,
        (if (readBalanced opening closing 0 none rest).span > rest.length then
          Except.error ReadFault.beyondEnd
        else .ok (opening :: rest.take (readBalanced opening closing 0 none rest).span)) =
          .ok operand := by
    intro c rest opening closing ends
    exact ⟨_, if_neg (Nat.not_lt.mpr (readBalanced_span_le opening closing 0 none ends.tail))⟩
  unfold formatOperand
  simp only
  split
  · exact group _ _ finished
  · exact group _ _ finished
  · exact group _ _ finished
  · exact ⟨_, rfl⟩

/-- The arguments after a literal can be read wherever the reader can go on. -/
theorem exists_trailingArguments (sound : cursor.Sound language) :
    ∃ arguments, trailingArguments language cursor = .ok arguments := by
  unfold trailingArguments
  simp only
  split
  · rename_i formats
    rw [Bool.and_eq_true, Bool.and_eq_true, beq_iff_eq, beq_iff_eq] at formats
    obtain ⟨⟨isPython, percent⟩, _⟩ := formats
    have more : (cursor.skipBlanks language).rest ≠ [] := by
      intro empty
      rw [empty] at percent
      cases percent
    have joins : language.joinsNeighbours = true := by
      rw [isPython]
      rfl
    have after := (sound.skipBlanks.next more).skipBlanks
    obtain ⟨operand, read⟩ := exists_formatOperand (after.within joins).2
    rw [read]
    exact ⟨_, rfl⟩
  · split <;> exact ⟨_, rfl⟩

/-- A literal can be read where it opens, and the reader can go on after it. -/
theorem exists_readLiteral {opening : Opening} (sound : cursor.Sound language)
    (found : opening? language cursor.before cursor.rest = some opening) :
    ∃ answer, readLiteral language opening cursor = .ok answer ∧ answer.2.Sound language := by
  obtain ⟨⟨draft, after⟩, joined, placed⟩ := exists_readJoined
    (readString opening .empty cursor).1 (readString_sound .empty sound found)
  obtain ⟨arguments, read⟩ := exists_trailingArguments placed
  refine ⟨(⟨draft.text, cursor.line, draft.interpolations, arguments⟩, after), ?_, placed⟩
  unfold readLiteral
  simp only [joined, read]

/-- What is passed over where no literal starts ends within the text, unless an apostrophe may
enclose a character. -/
theorem plainSpan_le (single : language.apostropheIsCharacter = false) {text : List Char}
    (more : text ≠ []) : plainSpan language text ≤ text.length := by
  unfold plainSpan
  split
  · exact absurd rfl more
  · rename_i c rest
    have part := length_takeWhile_le language.isIdentifierPart rest
    rw [single, Bool.and_false, if_neg Bool.false_ne_true, List.length_cons]
    split <;> omega

/-- In no language an apostrophe encloses a character and neighbouring literals are joined. -/
theorem Language.apostropheIsCharacter_of_joins (joins : language.joinsNeighbours = true) :
    language.apostropheIsCharacter = false := by
  cases language <;> first | rfl | cases joins

/-- All literals can be read from a place that the reader can go on from. -/
theorem exists_readLiterals (sound : cursor.Sound language) :
    ∃ literals, readLiterals language cursor = .ok literals := by
  fun_induction readLiterals language cursor with
  | case1 => exact ⟨[], rfl⟩
  | case2 cursor _ _ span comment inductionHypothesis =>
      apply inductionHypothesis
      apply sound.advance
      intro _
      have bound := commentSpan_le language cursor.rest
      rw [comment] at bound
      exact bound
  | case3 cursor more _ _ _ inductionHypothesis =>
      apply inductionHypothesis
      apply sound.advance
      intro joins
      exact plainSpan_le (Language.apostropheIsCharacter_of_joins joins) more
  | case4 cursor _ _ _ opening found fault failed =>
      obtain ⟨answer, read, _⟩ := exists_readLiteral sound found
      cases failed.symm.trans read
  | case5 cursor _ _ _ opening found literal after read _ fault failed inductionHypothesis =>
      obtain ⟨answer, same, placed⟩ := exists_readLiteral sound found
      cases read.symm.trans same
      obtain ⟨literals, rest⟩ := inductionHypothesis placed
      cases failed.symm.trans rest
  | case6 => exact ⟨_, rfl⟩

/-- The literals of a source text can be read to its end, unless the text ends with a backslash in a
language that joins neighbouring literals. -/
theorem exists_literalsOf (language : Language) (source : List Char)
    (finished : language.joinsNeighbours = true → Finished source) :
    ∃ literals, literalsOf language source = .ok literals := by
  unfold literalsOf
  split
  · exact ⟨[], rfl⟩
  · exact exists_readLiterals (.start finished)

/-- A literal that is cut off inside an expression can be read when no backslash is left alone. -/
theorem exists_literalsOf_cutOff :
    Finished "f\"\x7bname + '\\n".toList ∧
      ∃ literals, literalsOf .python "f\"\x7bname + '\\n".toList = .ok literals := by
  have finished : Finished "f\"\x7bname + '\\n".toList := by decide
  exact ⟨finished, exists_literalsOf .python _ fun _ => finished⟩

/-- After a backslash at the end of a text, in the quotes of an expression, the reader looks at the
text beyond its end. -/
theorem literalsOf_beyondEnd : literalsOf .python "f\"\x7b'\\".toList = .error .beyondEnd := by
  decide +kernel

end SchemaDrift.Host
