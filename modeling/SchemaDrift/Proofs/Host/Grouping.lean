import SchemaDrift.Host.Arguments
import SchemaDrift.Proofs.Text.Words

namespace SchemaDrift.Host

open Text

/-- The brackets with those that close them. -/
def bracketPairs : List (Char × Char) := [('(', ')'), ('[', ']'), ('\x7b', '\x7d')]

/-- What may stand between two quotes: a backslash hides the character behind it. -/
inductive Quoted (quote : Char) : List Char → Prop where
  | nil : Quoted quote []
  | plain {c : Char} {rest : List Char} (noQuote : c ≠ quote) (noBackslash : c ≠ '\\')
      (more : Quoted quote rest) : Quoted quote (c :: rest)
  | hidden {c : Char} {rest : List Char} (more : Quoted quote rest) : Quoted quote ('\\' :: c :: rest)

/-- A text that closes its quotes and nests its brackets outside quotes. Unless it is a `series`, all
its commas stand in brackets or quotes. -/
inductive Nested : Bool → List Char → Prop where
  | nil {series : Bool} : Nested series []
  | plain {series : Bool} {c : Char} {rest : List Char} (noQuote : isQuote c = false)
      (noBracket : isOpening c = false ∧ isClosing c = false) (allowed : c = ',' → series = true)
      (more : Nested series rest) : Nested series (c :: rest)
  | quoted {series : Bool} {quote : Char} {inner rest : List Char} (known : isQuote quote = true)
      (text : Quoted quote inner) (more : Nested series rest) :
      Nested series (quote :: (inner ++ quote :: rest))
  | group {series : Bool} {opening closing : Char} {inner rest : List Char}
      (pair : (opening, closing) ∈ bracketPairs) (text : Nested true inner)
      (more : Nested series rest) : Nested series (opening :: (inner ++ closing :: rest))

/-- No part in front of a text closes more brackets than it opens, those in quotes counted too. -/
def Covered (text : List Char) : Prop :=
  ∀ front, front <+: text → front.countP isClosing ≤ front.countP isOpening

/-- The characters of two brackets that belong together. -/
theorem brackets_of_mem {opening closing : Char} (pair : (opening, closing) ∈ bracketPairs) :
    (isQuote opening = false ∧ isOpening opening = true) ∧
      isQuote closing = false ∧ isOpening closing = false ∧ isClosing closing = true := by
  simp only [bracketPairs, List.mem_cons, Prod.mk.injEq, List.not_mem_nil, or_false] at pair
  obtain ⟨rfl, rfl⟩ | ⟨rfl, rfl⟩ | ⟨rfl, rfl⟩ := pair <;> decide

namespace Nested

variable {series : Bool} {text : List Char}

/-- A text in front of a series makes a series. -/
theorem append (nested : Nested series text) {more : List Char} (further : Nested true more) :
    Nested true (text ++ more) := by
  induction nested with
  | nil => exact further
  | plain noQuote noBracket _ _ inductionHypothesis =>
      exact .plain noQuote noBracket (fun _ => rfl) inductionHypothesis
  | quoted known text _ inductionHypothesis =>
      rw [List.cons_append, List.append_assoc, List.cons_append]
      exact .quoted known text inductionHypothesis
  | group pair text _ _ inductionHypothesis =>
      rw [List.cons_append, List.append_assoc, List.cons_append]
      exact .group pair text inductionHypothesis

/-- Texts with commas between them make a series. -/
theorem joinWith {texts : List (List Char)} (each : ∀ text ∈ texts, Nested series text) :
    Nested true (Text.joinWith ", ".toList texts) := by
  induction texts with
  | nil => exact .nil
  | cons text texts inductionHypothesis =>
      obtain ⟨first, others⟩ := List.forall_mem_cons.mp each
      have rest := inductionHypothesis others
      cases texts with
      | nil =>
          rw [Text.joinWith, ← List.append_nil text]
          exact first.append .nil
      | cons next texts =>
          have comma : Nested true (", ".toList ++ Text.joinWith ", ".toList (next :: texts)) :=
            .plain rfl ⟨rfl, rfl⟩ (fun _ => rfl) (.plain rfl ⟨rfl, rfl⟩ (fun _ => rfl) rest)
          rw [Text.joinWith, List.append_assoc]
          · exact first.append comma
          · exact List.cons_ne_nil next texts

end Nested

section Splitting

/-- What stands in quotes belongs to one part, with the quote behind it. -/
theorem splitNested_quoted {quote : Char} (known : isQuote quote = true) {inner : List Char}
    (quoted : Quoted quote inner) (depth : Nat) (rest : List Char) :
    splitNested ',' depth (some quote) false (inner ++ quote :: rest) =
      (inner ++ [quote]).foldr consFirst (splitNested ',' depth none false rest) := by
  induction quoted with
  | nil =>
      have noBackslash : quote ≠ '\\' := by
        rintro rfl
        cases known
      simp [splitNested, noBackslash]
  | plain noQuote noBackslash _ inductionHypothesis =>
      simp [splitNested, noQuote, noBackslash, inductionHypothesis]
  | hidden _ inductionHypothesis =>
      simp [splitNested, inductionHypothesis]

/-- A nested text belongs to one part, unless its commas stand outside all brackets. -/
theorem splitNested_nested {series : Bool} {text : List Char} (nested : Nested series text)
    (depth : Nat) (inside : series = true → 0 < depth) (rest : List Char) :
    splitNested ',' depth none false (text ++ rest) =
      text.foldr consFirst (splitNested ',' depth none false rest) := by
  induction nested generalizing depth rest with
  | nil => rfl
  | @plain series c text noQuote noBracket allowed _ inductionHypothesis =>
      have noCut : (c == ',' && depth == 0) = false := by
        rw [Bool.and_eq_false_iff, beq_eq_false_iff_ne, beq_eq_false_iff_ne]
        by_cases comma : c = ','
        · exact .inr (Nat.pos_iff_ne_zero.mp (inside (allowed comma)))
        · exact .inl comma
      simp only [List.cons_append, splitNested, noQuote, noBracket, noCut, Bool.false_eq_true,
        if_false, inductionHypothesis depth inside, List.foldr_cons]
  | @quoted series quote inner text known quoted _ inductionHypothesis =>
      simp only [List.cons_append, List.append_assoc, splitNested, known, if_true,
        splitNested_quoted known quoted, inductionHypothesis depth inside, List.foldr_cons,
        List.foldr_append, List.foldr_nil]
  | @group series opening closing inner text pair _ _ innerHypothesis inductionHypothesis =>
      obtain ⟨⟨noQuote, opens⟩, otherQuote, otherOpening, closes⟩ := brackets_of_mem pair
      have within := innerHypothesis (depth + 1) (fun _ => Nat.succ_pos depth)
      simp only [List.cons_append, List.append_assoc, splitNested, noQuote, opens, if_true,
        Bool.false_eq_true, if_false, within, otherQuote, otherOpening, closes, Nat.add_sub_cancel,
        inductionHypothesis depth inside, List.foldr_cons, List.foldr_append]

/-- Characters in front of parts belong to the first of them. -/
theorem foldr_consFirst (front first : List Char) (parts : List (List Char)) :
    front.foldr consFirst (first :: parts) = (front ++ first) :: parts := by
  induction front with
  | nil => rfl
  | cons c front inductionHypothesis =>
      rw [List.foldr_cons, inductionHypothesis]
      rfl

/-- A nested text without commas outside its brackets and quotes is one part. -/
theorem splitTopLevel_nested {text : List Char} (nested : Nested false text) :
    splitTopLevel ',' text = [text] := by
  have whole := splitNested_nested nested 0 nofun []
  rw [List.append_nil] at whole
  rw [splitTopLevel, whole, splitNested, foldr_consFirst, List.append_nil]

/-- Two or more texts are joined from the first on. -/
theorem joinWith_cons (first next : List Char) (others : List (List Char)) :
    joinWith ", ".toList (first :: next :: others) =
      first ++ (',' :: ' ' :: joinWith ", ".toList (next :: others)) := by
  rw [joinWith, List.append_assoc]
  · rfl
  · exact List.cons_ne_nil next others

/-- Expressions with commas between them are told apart; all but the first keep the space in front. -/
theorem splitTopLevel_joinWith {first : List Char} {others : List (List Char)}
    (each : ∀ expression ∈ first :: others, Nested false expression) :
    splitTopLevel ',' (joinWith ", ".toList (first :: others)) = first :: others.map (' ' :: ·) := by
  induction others generalizing first with
  | nil => exact splitTopLevel_nested (each first List.mem_cons_self)
  | cons next others inductionHypothesis =>
      obtain ⟨nested, more⟩ := List.forall_mem_cons.mp each
      have comma : splitNested ',' 0 none false
          (',' :: ' ' :: joinWith ", ".toList (next :: others)) =
            [] :: consFirst ' ' (splitTopLevel ',' (joinWith ", ".toList (next :: others))) := rfl
      rw [joinWith_cons, splitTopLevel, splitNested_nested nested 0 nofun, comma,
        inductionHypothesis more, foldr_consFirst, List.append_nil]
      rfl

end Splitting

/-- What holds of all parts in front of a text holds of those that start with its first character,
and the other way round if it holds of the empty one. -/
theorem forall_prefix_cons_iff {bound : List Char → Prop} (none : bound []) {c : Char}
    {text : List Char} :
    (∀ front, front <+: c :: text → bound front) ↔ ∀ front, front <+: text → bound (c :: front) := by
  constructor
  · intro every front start
    exact every (c :: front) (List.cons_prefix_cons.mpr ⟨rfl, start⟩)
  · intro every front start
    rcases List.prefix_cons_iff.mp start with rfl | ⟨front, rfl, within⟩
    · exact none
    · exact every front within

/-- Brackets close only brackets of the text exactly where no part in front closes more than are
open. -/
theorem closesOnlyOwn_iff (depth : Nat) (text : List Char) :
    closesOnlyOwn depth text = true ↔
      ∀ front, front <+: text → front.countP isClosing ≤ depth + front.countP isOpening := by
  induction text generalizing depth with
  | nil => simp [closesOnlyOwn]
  | cons c text inductionHypothesis =>
      rw [forall_prefix_cons_iff (by simp)]
      unfold closesOnlyOwn
      simp only [List.countP_cons]
      cases opens : isOpening c with
      | true =>
          have noClosing : isClosing c = false := by
            simp only [isOpening, Bool.or_eq_true, beq_iff_eq] at opens
            obtain (rfl | rfl) | rfl := opens <;> rfl
          rw [if_pos rfl, inductionHypothesis]
          refine forall₂_congr fun front _ => ?_
          simp only [noClosing, Bool.false_eq_true, if_false, if_true]
          omega
      | false =>
          rw [if_neg Bool.false_ne_true]
          cases closes : isClosing c with
          | false =>
              rw [if_neg Bool.false_ne_true, inductionHypothesis]
              rfl
          | true =>
              rw [if_pos rfl]
              cases depth with
              | zero =>
                  refine iff_of_false Bool.false_ne_true fun every => ?_
                  exact absurd (every [] List.nil_prefix) (by decide)
              | succ outer =>
                  simp only [inductionHypothesis]
                  refine forall₂_congr fun front _ => ?_
                  simp only [Bool.false_eq_true, if_false, if_true]
                  omega

/-- Brackets close only brackets of a text alone exactly where it is covered. -/
theorem closesOnlyOwn_iff_covered (text : List Char) :
    closesOnlyOwn 0 text = true ↔ Covered text := by
  rw [closesOnlyOwn_iff, Covered]
  simp only [Nat.zero_add]

instance (text : List Char) : Decidable (Covered text) :=
  decidable_of_iff _ (closesOnlyOwn_iff_covered text)

namespace CallArguments

/-- The elements of a list are its expressions, without the blanks around them. -/
theorem elements_joinWith {expressions : List (List Char)} (filled : expressions ≠ [])
    (each : ∀ expression ∈ expressions, Nested false expression ∧ trim expression ≠ []) :
    elements (joinWith ", ".toList expressions) =
      expressions.map fun expression => String.ofList (trim expression) := by
  obtain ⟨first, others, rfl⟩ := List.exists_cons_of_ne_nil filled
  have parts := splitTopLevel_joinWith fun expression present => (each expression present).1
  have trimmed : (first :: others.map (' ' :: ·)).map trim = (first :: others).map trim := by
    rw [List.map_cons, List.map_cons, List.map_map]
    rfl
  have kept : ((first :: others).map trim).filter (fun part => !part.isEmpty) =
      (first :: others).map trim := by
    rw [List.filter_eq_self]
    intro part present
    obtain ⟨expression, within, rfl⟩ := List.mem_map.mp present
    simpa using (each expression within).2
  rw [elements, parts, trimmed, kept, List.map_map]
  rfl

variable {opening closing : Char} {inner : List Char}

/-- What two brackets enclose is told from all brackets between them. -/
theorem enclosed?_self :
    enclosed? opening closing (opening :: (inner ++ [closing])) =
      if closesOnlyOwn 0 inner then some inner else none := by
  have lead : dropLead? [opening] (opening :: (inner ++ [closing])) = some (inner ++ [closing]) :=
    (dropLead?_eq_some_iff _ _ _).mpr rfl
  have tail : dropTail? [closing] (inner ++ [closing]) = some inner :=
    (dropTail?_eq_some_iff _ _ _).mpr rfl
  simp only [enclosed?, lead, tail, Option.bind_eq_bind, Option.bind_some]

/-- A text that starts with another character is not enclosed. -/
theorem enclosed?_of_ne {c : Char} (other : c ≠ opening) (rest : List Char) :
    enclosed? opening closing (c :: rest) = none := by
  have lead : dropLead? [opening] (c :: rest) = none := by
    rw [dropLead?, beq_false_of_ne (Ne.symm other)]
    rfl
  simp only [enclosed?, lead, Option.bind_eq_bind, Option.bind_none]

/-- What starts with a bracket is no argument with a name. -/
theorem keyword?_of_opening (opens : isOpening opening = true) (rest : List Char) :
    keyword? (opening :: rest) = none := by
  have plain : isBlank opening = false ∧ isNamePart opening = false ∧ opening ≠ '=' := by
    simp only [isOpening, Bool.or_eq_true, beq_iff_eq] at opens
    obtain (rfl | rfl) | rfl := opens <;> decide
  obtain ⟨solid, noName, noEquals⟩ := plain
  cases split : splitOnce '=' rest with
  | none => simp [keyword?, splitOnce, noEquals, split]
  | some sides =>
      obtain ⟨key, tail, trimmed, shape, filled, -, -⟩ :=
        exists_trim solid (List.forall_mem_nil (isBlank · = true)) sides.1
      have unnamed : ¬∀ c ∈ key, isNamePart c = true := by
        cases key with
        | nil => exact absurd rfl filled
        | cons c key =>
            obtain ⟨rfl, -⟩ := List.cons.inj shape
            simp [noName]
      rw [List.nil_append] at trimmed
      simp [keyword?, splitOnce, noEquals, split, trimmed, unnamed]

/-- A tuple or a list brings its elements if its brackets are found to enclose it, and itself
otherwise. -/
theorem addArgument_group (pair : (opening, closing) ∈ [('(', ')'), ('[', ']')])
    (arguments : CallArguments) :
    arguments.addArgument (opening :: (inner ++ [closing])) =
      arguments.addPositional (if closesOnlyOwn 0 inner then elements inner
        else [String.ofList (opening :: (inner ++ [closing]))]) := by
  have known : (opening = '(' ∧ closing = ')') ∨ opening = '[' ∧ closing = ']' := by simpa using pair
  have trimmed : trim (opening :: (inner ++ [closing])) = opening :: (inner ++ [closing]) := by
    refine trim_eq_self (fun c first => ?_) (fun c last => ?_)
    · cases first
      obtain ⟨rfl, -⟩ | ⟨rfl, -⟩ := known <;> decide
    · rw [← List.cons_append, List.getLast?_concat] at last
      cases last
      obtain ⟨-, rfl⟩ | ⟨-, rfl⟩ := known <;> decide
  have noMapping : enclosed? '\x7b' '\x7d' (opening :: (inner ++ [closing])) = none := by
    apply enclosed?_of_ne
    obtain ⟨rfl, -⟩ | ⟨rfl, -⟩ := known <;> decide
  have noKeyword : keyword? (opening :: (inner ++ [closing])) = none := by
    apply keyword?_of_opening
    obtain ⟨rfl, -⟩ | ⟨rfl, -⟩ := known <;> rfl
  have enclosed : (enclosed? '(' ')' (opening :: (inner ++ [closing]))).or
      (enclosed? '[' ']' (opening :: (inner ++ [closing]))) =
        if closesOnlyOwn 0 inner then some inner else none := by
    obtain ⟨rfl, rfl⟩ | ⟨rfl, rfl⟩ := known
    · rw [enclosed?_self, enclosed?_of_ne (by decide), Option.or_none]
    · rw [enclosed?_of_ne (by decide), enclosed?_self, Option.none_or]
  unfold addArgument
  simp only [trimmed, enclosed, List.isEmpty_cons, Bool.false_eq_true, if_false]
  split
  · rename_i whole found
    split at found
    · cases found
      rw [if_pos ‹_›]
    · cases found
  · rename_i none
    split at none
    · cases none
    · rw [noMapping, noKeyword, if_neg ‹_›]

/-- A tuple or a list alone brings its elements if its brackets are found to enclose it, and itself
otherwise. -/
theorem ofText_brackets (pair : (opening, closing) ∈ [('(', ')'), ('[', ']')])
    (nested : Nested true inner) :
    ofText (opening :: (inner ++ [closing])) =
      ⟨if closesOnlyOwn 0 inner then elements inner
        else [String.ofList (opening :: (inner ++ [closing]))], []⟩ := by
  have known : (opening, closing) ∈ bracketPairs := by
    simp only [List.mem_cons, List.not_mem_nil, or_false] at pair
    obtain pair | pair := pair <;> rw [pair] <;> decide
  have one : splitTopLevel ',' (opening :: (inner ++ [closing])) =
      [opening :: (inner ++ [closing])] := splitTopLevel_nested (.group known nested .nil)
  rw [ofText, one, List.foldl_cons, List.foldl_nil, addArgument_group pair]
  rfl

/-- Expressions in brackets are longer than the only one of them without its blanks. -/
theorem whole_ne_trimmed {expressions : List (List Char)} (filled : expressions ≠ []) :
    [String.ofList (opening :: (joinWith ", ".toList expressions ++ [closing]))] ≠
      expressions.map fun expression => String.ofList (trim expression) := by
  intro same
  match expressions with
  | [] => exact filled rfl
  | [expression] =>
      have whole := String.ofList_inj.mp (List.singleton_inj.mp same)
      have longer := congrArg List.length whole
      have shorter := length_trim_le expression
      simp only [joinWith, List.length_cons, List.length_append] at longer
      omega
  | _ :: _ :: _ => cases (List.cons.inj same).2

/-- A tuple or a list of expressions brings just these expressions, without the blanks around them,
if and only if no part in front of what stands in its brackets closes more brackets than it opens,
those in quotes counted too. Otherwise it is one expression itself. -/
theorem ofText_group (pair : (opening, closing) ∈ [('(', ')'), ('[', ']')])
    {expressions : List (List Char)} (filled : expressions ≠ [])
    (each : ∀ expression ∈ expressions, Nested false expression ∧ trim expression ≠ []) :
    let text := joinWith ", ".toList expressions
    let whole := opening :: (text ++ [closing])
    (ofText whole = ⟨expressions.map fun expression => String.ofList (trim expression), []⟩ ↔
        Covered text) ∧
      (¬Covered text → ofText whole = ⟨[String.ofList whole], []⟩) := by
  intro text whole
  have read : ofText whole = ⟨if closesOnlyOwn 0 text then elements text
      else [String.ofList whole], []⟩ :=
    ofText_brackets pair (.joinWith fun expression present => (each expression present).1)
  have covered := closesOnlyOwn_iff_covered text
  have elements := elements_joinWith filled each
  constructor
  · constructor
    · intro same
      rw [← covered]
      by_contra uncovered
      rw [read, if_neg uncovered] at same
      exact whole_ne_trimmed filled (CallArguments.mk.inj same).1
    · intro holds
      rw [read, if_pos (covered.mpr holds), elements]
  · intro fails
    rw [read, if_neg fun closes => fails (covered.mp closes)]

/-- A call brings its own brackets and commas, and a bracket in quotes that only opens does no
harm. -/
theorem ofText_group_calls :
    let call := ['f', '(', 'a', ',', '\'', ',', '\'', ')']
    let sum := ['"', '(', '"', '+', 'b', ' ']
    (∀ expression ∈ [call, sum], Nested false expression ∧ trim expression ≠ []) ∧
      Covered (joinWith ", ".toList [call, sum]) ∧
        ofText "[f(a,','), \"(\"+b ]".toList = ⟨["f(a,',')", "\"(\"+b"], []⟩ := by
  intro call sum
  have comma : Quoted '\'' [','] := .plain (by decide) (by decide) .nil
  have bracket : Quoted '"' ['('] := .plain (by decide) (by decide) .nil
  have listed : Nested true ['a', ',', '\'', ',', '\''] :=
    .plain rfl ⟨rfl, rfl⟩ (by decide)
      (.plain rfl ⟨rfl, rfl⟩ (by decide) (.quoted (by decide) comma .nil))
  have nestedCall : Nested false call :=
    .plain rfl ⟨rfl, rfl⟩ (by decide)
      (.group (show ('(', ')') ∈ bracketPairs by decide) listed .nil)
  have added : Nested false ['+', 'b', ' '] :=
    .plain rfl ⟨rfl, rfl⟩ (by decide)
      (.plain rfl ⟨rfl, rfl⟩ (by decide) (.plain rfl ⟨rfl, rfl⟩ (by decide) .nil))
  have nestedSum : Nested false sum := .quoted (by decide) bracket added
  have each : ∀ expression ∈ [call, sum], Nested false expression ∧ trim expression ≠ [] := by
    rw [List.forall_mem_cons, List.forall_mem_singleton]
    exact ⟨⟨nestedCall, by decide⟩, nestedSum, by decide⟩
  have covered : Covered (joinWith ", ".toList [call, sum]) := by decide
  refine ⟨each, covered, ?_⟩
  have shape : "[f(a,','), \"(\"+b ]".toList =
      '[' :: (joinWith ", ".toList [call, sum] ++ [']']) := by decide
  rw [shape, (ofText_group (by decide) (List.cons_ne_nil _ _) each).1.mpr covered]
  decide

/-- A tuple of two expressions comes back as one when a bracket in quotes closes too much. -/
theorem ofText_group_split :
    ¬∀ (opening closing : Char) (expressions : List (List Char)),
      (opening, closing) ∈ [('(', ')'), ('[', ']')] → expressions ≠ [] →
        (∀ expression ∈ expressions, Nested false expression ∧ trim expression ≠ []) →
          ofText (opening :: (joinWith ", ".toList expressions ++ [closing])) =
            ⟨expressions.map fun expression => String.ofList (trim expression), []⟩ := by
  intro brings
  have bracket : Quoted '"' [')'] := .plain (by decide) (by decide) .nil
  have first : Nested false ['"', ')', '"'] := .quoted (by decide) bracket .nil
  have second : Nested false ['a'] := .plain rfl ⟨rfl, rfl⟩ (by decide) .nil
  have each : ∀ expression ∈ [['"', ')', '"'], ['a']],
      Nested false expression ∧ trim expression ≠ [] := by
    rw [List.forall_mem_cons, List.forall_mem_singleton]
    exact ⟨⟨first, by decide⟩, second, by decide⟩
  have brought := brings '(' ')' _ (by decide) (List.cons_ne_nil _ _) each
  exact absurd brought (by decide)

end CallArguments

end SchemaDrift.Host
