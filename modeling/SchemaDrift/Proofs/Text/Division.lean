import SchemaDrift.Text.Chars

namespace SchemaDrift.Text

/-- What is looked for in a text that is read from left to right: the characters of each part, which
parts start a text where something is known and something follows, and what is known behind a part and
behind a character that starts none. -/
structure Markup (Known Part : Type) where
  source : Part → List Char
  starts : Known → Part → List Char → Prop
  behind : Known → Part → Known
  after : Known → Char → Known

/-- A fragment of a text: a part, or a character that starts none. -/
inductive Fragment (Part : Type) where
  | part (part : Part)
  | character (c : Char)
  deriving DecidableEq

namespace Markup

variable {Known Part : Type} {markup : Markup Known Part} {known : Known} {c : Char}
  {text rest : List Char} {fragments : List (Fragment Part)}

def sourceOf (markup : Markup Known Part) : Fragment Part → List Char
  | .part part => markup.source part
  | .character c => [c]

def Bare (markup : Markup Known Part) (known : Known) (text : List Char) : Prop :=
  ∀ part rest, markup.starts known part rest → markup.source part ++ rest ≠ text

/-- A text is divided into fragments, read from left to right. -/
inductive Divides (markup : Markup Known Part) :
    Known → List Char → List (Fragment Part) → Prop where
  | done {known : Known} : Divides markup known [] []
  | part {known : Known} {part : Part} {rest : List Char} {fragments : List (Fragment Part)}
      (starts : markup.starts known part rest)
      (others : Divides markup (markup.behind known part) rest fragments) :
      Divides markup known (markup.source part ++ rest) (.part part :: fragments)
  | character {known : Known} {c : Char} {rest : List Char} {fragments : List (Fragment Part)}
      (bare : markup.Bare known (c :: rest))
      (others : Divides markup (markup.after known c) rest fragments) :
      Divides markup known (c :: rest) (.character c :: fragments)

/-- Every part has characters, and no two parts start one text. -/
structure Sharp (markup : Markup Known Part) : Prop where
  solid : ∀ {known part rest}, markup.starts known part rest → markup.source part ≠ []
  single : ∀ {known first second rest left}, markup.starts known first rest →
    markup.starts known second left → markup.source first ++ rest = markup.source second ++ left →
      first = second

theorem Divides.of_eq {part : Part} (same : markup.source part ++ rest = text)
    (starts : markup.starts known part rest)
    (others : markup.Divides (markup.behind known part) rest fragments) :
    markup.Divides known text (.part part :: fragments) :=
  same ▸ .part starts others

/-- A run of characters that start no part, whatever is known and whatever follows. -/
theorem Divides.run {run : List Char} (plain : ∀ c ∈ run, ∀ known rest, markup.Bare known (c :: rest))
    (divides : markup.Divides (run.foldl markup.after known) rest fragments) :
    markup.Divides known (run ++ rest) (run.map .character ++ fragments) := by
  induction run generalizing known with
  | nil => exact divides
  | cons c run inductionHypothesis =>
      rw [List.forall_mem_cons] at plain
      exact .character (plain.1 known _) (inductionHypothesis plain.2 divides)

/-- The fragments of a text hold all of its characters in order. -/
theorem Divides.flatMap_sourceOf (divides : markup.Divides known text fragments) :
    fragments.flatMap markup.sourceOf = text := by
  induction divides with
  | done => rfl
  | part _ _ inductionHypothesis => rw [List.flatMap_cons, inductionHypothesis]; rfl
  | character _ _ inductionHypothesis => rw [List.flatMap_cons, inductionHypothesis]; rfl

theorem Sharp.exists_divides (sharp : markup.Sharp) (known : Known) (text : List Char) :
    ∃ fragments, markup.Divides known text fragments := by
  -- The parts may be of any length, so the induction is on the length of what is left.
  induction length : text.length using Nat.strongRecOn generalizing known text with
  | ind length shorter =>
      subst length
      by_cases started : ∃ part rest, markup.starts known part rest ∧ markup.source part ++ rest = text
      · obtain ⟨part, rest, starts, rfl⟩ := started
        have less : rest.length < (markup.source part ++ rest).length := by
          have positive := List.length_pos_iff.mpr (sharp.solid starts)
          rw [List.length_append]
          omega
        obtain ⟨fragments, others⟩ := shorter rest.length less (markup.behind known part) rest rfl
        exact ⟨_, .part starts others⟩
      · cases text with
        | nil => exact ⟨[], .done⟩
        | cons c rest =>
            obtain ⟨fragments, others⟩ := shorter rest.length (Nat.lt_succ_self _)
              (markup.after known c) rest rfl
            exact ⟨_, .character (fun part rest starts same => started ⟨part, rest, starts, same⟩)
              others⟩

/-- A text is divided in one way only. -/
theorem Sharp.divides_unique (sharp : markup.Sharp) {others : List (Fragment Part)}
    (first : markup.Divides known text fragments) (second : markup.Divides known text others) :
    fragments = others := by
  induction first generalizing others with
  | done =>
      generalize empty : ([] : List Char) = text at second
      cases second with
      | done => rfl
      | part starts _ =>
          exact absurd (List.append_eq_nil_iff.mp empty.symm).1 (sharp.solid starts)
      | character => cases empty
  | @part known part rest fragments starts _ inductionHypothesis =>
      generalize split : markup.source part ++ rest = text at second
      cases second with
      | done => exact absurd (List.append_eq_nil_iff.mp split).1 (sharp.solid starts)
      | part again others =>
          obtain rfl := sharp.single starts again split
          obtain rfl := List.append_cancel_left split
          rw [inductionHypothesis others]
      | character bare _ => exact absurd split (bare part rest starts)
  | @character known c rest fragments bare _ inductionHypothesis =>
      generalize split : c :: rest = text at second
      cases second with
      | done => cases split
      | part starts _ => exact absurd split.symm (bare _ _ starts)
      | character _ others =>
          obtain ⟨rfl, rfl⟩ := List.cons.inj split
          rw [inductionHypothesis others]

/-- Every text has one division. -/
theorem Sharp.existsUnique_divides (sharp : markup.Sharp) (known : Known) (text : List Char) :
    ∃ fragments, ∀ others, markup.Divides known text others ↔ others = fragments := by
  obtain ⟨fragments, divides⟩ := sharp.exists_divides known text
  refine ⟨fragments, fun others => ⟨fun other => sharp.divides_unique other divides, ?_⟩⟩
  rintro rfl
  exact divides

end Markup

end SchemaDrift.Text
