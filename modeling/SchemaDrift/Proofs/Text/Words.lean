import SchemaDrift.Proofs.Text.Chars

namespace SchemaDrift.Text

/-- The words behind a character, and the word that it starts or goes on with. -/
def wordStep (c : Char) (state : List (List Char) × List Char) : List (List Char) × List Char :=
  if isBlank c then (if state.2.isEmpty then state.1 else state.2 :: state.1, [])
  else (state.1, c :: state.2)

/-- The words with the one that is not ended. -/
def closeWord (state : List (List Char) × List Char) : List (List Char) :=
  if state.2.isEmpty then state.1 else state.2 :: state.1

variable {left right : List Char}

/-- The words of a text are read from its end. -/
theorem words_eq (cs : List Char) : words cs = closeWord (cs.foldr wordStep ([], [])) := rfl

/-- Words that stand further behind are the last. -/
theorem foldr_wordStep (cs : List Char) (others : List (List Char)) :
    cs.foldr wordStep (others, []) =
      ((cs.foldr wordStep ([], [])).1 ++ others, (cs.foldr wordStep ([], [])).2) := by
  induction cs with
  | nil => rfl
  | cons c cs inductionHypothesis =>
      rw [List.foldr_cons, inductionHypothesis, List.foldr_cons]
      cases blank : isBlank c <;>
        cases none : (cs.foldr wordStep ([], [])).2.isEmpty <;> simp [wordStep, blank, none]

theorem words_append_cons {c : Char} (blank : isBlank c = true) (left right : List Char) :
    words (left ++ c :: right) = words left ++ words right := by
  have ended : (c :: right).foldr wordStep ([], []) = (words right, []) := by
    rw [List.foldr_cons, wordStep, if_pos blank]
    rfl
  rw [words_eq, List.foldr_append, ended, foldr_wordStep, words_eq left]
  cases none : (left.foldr wordStep ([], [])).2.isEmpty <;> simp [closeWord, none]

/-- A blank at the start of a text belongs to no word. -/
theorem words_cons_of_blank {c : Char} (blank : isBlank c = true) (cs : List Char) :
    words (c :: cs) = words cs := words_append_cons blank [] cs

theorem words_append_of_head (starts : ∀ c ∈ right.head?, isBlank c = true) :
    words (left ++ right) = words left ++ words right := by
  cases right with
  | nil => rw [List.append_nil, show words [] = [] from rfl, List.append_nil]
  | cons c right =>
      have blank := starts c rfl
      rw [words_append_cons blank, words_cons_of_blank blank]

/-- What stands behind a blank has words of its own. -/
theorem words_append_of_getLast (ends : ∀ c ∈ left.getLast?, isBlank c = true) :
    words (left ++ right) = words left ++ words right := by
  cases last : left.getLast? with
  | none => rw [List.getLast?_eq_none_iff.mp last]; rfl
  | some c =>
      obtain ⟨front, rfl⟩ := List.getLast?_eq_some_iff.mp last
      have blank := ends c last
      have before : words (front ++ [c]) = words front := by
        rw [words_append_cons blank]
        exact List.append_nil _
      rw [List.append_assoc, List.singleton_append, words_append_cons blank, before]

theorem words_of_solid {word : List Char} (filled : word ≠ []) (solid : ∀ c ∈ word, isBlank c = false) :
    words word = [word] := by
  have whole : word.foldr wordStep ([], []) = ([], word) := by
    clear filled
    induction word with
    | nil => rfl
    | cons c word inductionHypothesis =>
        obtain ⟨first, others⟩ := List.forall_mem_cons.mp solid
        rw [List.foldr_cons, inductionHypothesis others, wordStep, first]
        rfl
  rw [words_eq, whole, closeWord, if_neg (by simpa using filled)]

/-- A text has no words exactly where it has nothing but blanks. -/
theorem words_eq_nil_iff (cs : List Char) : words cs = [] ↔ ∀ c ∈ cs, isBlank c = true := by
  induction cs with
  | nil => simp [words_eq, closeWord]
  | cons c cs inductionHypothesis =>
      rw [List.forall_mem_cons]
      cases blank : isBlank c with
      | true => rw [words_cons_of_blank blank, inductionHypothesis, eq_self_iff_true, true_and]
      | false => simp [words_eq, closeWord, wordStep, blank]

/-- A text is split at a part that stands behind characters the part does not start with. -/
theorem splitOncePart_append {c : Char} (absent : c ∉ left) (separator right : List Char) :
    splitOncePart (c :: separator) (left ++ (c :: separator) ++ right) = some (left, right) := by
  induction left with
  | nil =>
      have found : dropLead? (c :: separator) (c :: separator ++ right) = some right :=
        (dropLead?_eq_some_iff _ _ _).mpr rfl
      rw [List.nil_append, List.cons_append, splitOncePart, ← List.cons_append, found]
  | cons d left inductionHypothesis =>
      rw [List.mem_cons, not_or] at absent
      have none : dropLead? (c :: separator) (d :: (left ++ (c :: separator) ++ right)) = none := by
        rw [dropLead?, beq_false_of_ne absent.1]
        rfl
      rw [List.cons_append, List.cons_append, splitOncePart, none]
      simp only [inductionHypothesis absent.2, Option.map_some]

/-- A text is not split at a part that stands nowhere in it. -/
theorem splitOncePart_eq_none {separator text : List Char} (absent : ¬separator <:+: text) :
    splitOncePart separator text = none := by
  induction text with
  | nil =>
      cases separator with
      | nil => exact absurd (List.nil_infix) absent
      | cons => rfl
  | cons c text inductionHypothesis =>
      have none : dropLead? separator (c :: text) = none := by
        refine Option.eq_none_iff_forall_ne_some.mpr fun rest found => absent ?_
        exact ⟨[], rest, ((dropLead?_eq_some_iff _ _ _).mp found).symm⟩
      have later := inductionHypothesis fun within => absent (within.trans (List.suffix_cons c text).isInfix)
      simp only [splitOncePart, none, later, Option.map_none]

/-- What is joined in two parts has a separator between them. -/
theorem joinWith_append {separator : List Char} {parts others : List (List Char)} (first : parts ≠ [])
    (more : others ≠ []) : joinWith separator (parts ++ others) =
      joinWith separator parts ++ separator ++ joinWith separator others := by
  induction parts with
  | nil => exact absurd rfl first
  | cons part parts inductionHypothesis =>
      cases parts with
      | nil =>
          obtain ⟨other, others, rfl⟩ := List.exists_cons_of_ne_nil more
          rfl
      | cons next parts =>
          have rest := inductionHypothesis (List.cons_ne_nil next parts)
          have before : ∀ tail, joinWith separator (part :: next :: tail) =
              part ++ separator ++ joinWith separator (next :: tail) := fun _ => rfl
          rw [List.cons_append] at rest
          rw [List.cons_append, List.cons_append, before, before, rest]
          simp only [List.append_assoc]

/-- Further texts between others make what is joined longer. -/
theorem length_joinWith_lt {separator : List Char} (separated : separator ≠ [])
    {before between : List (List Char)} (first : before ≠ []) (more : between ≠ [])
    (behind : List (List Char)) :
    (joinWith separator (before ++ behind)).length <
      (joinWith separator (before ++ between ++ behind)).length := by
  have wide := List.length_pos_iff.mpr separated
  cases behind with
  | nil =>
      rw [List.append_nil, List.append_nil, joinWith_append first more]
      simp only [List.length_append]
      omega
  | cons part behind =>
      have filled := List.cons_ne_nil part behind
      rw [joinWith_append first filled, List.append_assoc before,
        joinWith_append first (List.append_ne_nil_of_left_ne_nil more _), joinWith_append more filled]
      simp only [List.length_append]
      omega

end SchemaDrift.Text
