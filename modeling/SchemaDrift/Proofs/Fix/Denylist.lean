import SchemaDrift.Fix.Validation

namespace SchemaDrift.Validation

/-- The letters of a word start the text, in either case, and the word ends where they end. -/
def StartsWithWord (word : String) (text : List Char) : Prop :=
  ∃ letters rest, text = letters ++ rest ∧
    letters.map Text.lowerChar = word.toList.map ([·]) ∧
    rest.head?.any Text.isWordPart = false

/-- A word stands in the text as a whole, in either case. -/
def HoldsWord (word : String) (text : List Char) : Prop :=
  ∃ before rest, text = before ++ rest ∧
    before.getLast?.any Text.isWordPart = false ∧ StartsWithWord word rest

/-- What is left after a word is what follows its letters. -/
theorem dropWord?_eq_some_iff (word text rest : List Char) :
    dropWord? word text = some rest ↔
      ∃ letters, text = letters ++ rest ∧ letters.map Text.lowerChar = word.map ([·]) := by
  induction word generalizing text with
  | nil =>
      constructor
      · intro same
        cases same
        exact ⟨[], rfl, rfl⟩
      · rintro ⟨letters, rfl, same⟩
        rw [List.map_eq_nil_iff.mp same]
        rfl
  | cons letter word inductionHypothesis =>
      cases text with
      | nil => simp [dropWord?]
      | cons c text =>
          simp only [dropWord?, beq_iff_eq]
          by_cases same : Text.lowerChar c = [letter]
          · simp only [same, if_true, inductionHypothesis]
            constructor
            · rintro ⟨letters, rfl, equal⟩
              exact ⟨c :: letters, rfl, by simp [same, equal]⟩
            · rintro ⟨letters, split, equal⟩
              cases letters with
              | nil => cases equal
              | cons first letters =>
                  cases split
                  exact ⟨letters, rfl, (List.cons.inj equal).2⟩
          · simp only [same, if_false]
            constructor
            · intro impossible
              cases impossible
            · rintro ⟨letters, split, equal⟩
              cases letters with
              | nil => cases equal
              | cons first letters =>
                  cases split
                  exact absurd (List.cons.inj equal).1 same

/-- The test for a word at one place tells whether it starts there and ends where its letters end. -/
theorem startsWord_iff (word : String) (text : List Char) :
    (match dropWord? word.toList text with
      | some rest => !(rest.head?.any Text.isWordPart)
      | none => false) = true ↔ StartsWithWord word text := by
  cases dropped : dropWord? word.toList text with
  | none =>
      simp only [Bool.false_eq_true, false_iff]
      rintro ⟨letters, rest, split, same, _⟩
      have found := (dropWord?_eq_some_iff word.toList text rest).mpr ⟨letters, split, same⟩
      cases dropped.symm.trans found
  | some rest =>
      simp only [Bool.not_eq_true']
      constructor
      · intro ends
        rcases (dropWord?_eq_some_iff word.toList text rest).mp dropped with ⟨letters, split, same⟩
        exact ⟨letters, rest, split, same, ends⟩
      · rintro ⟨letters, other, split, same, ends⟩
        have found := (dropWord?_eq_some_iff word.toList text other).mpr ⟨letters, split, same⟩
        cases dropped.symm.trans found
        exact ends

/-- The search at one place finds nothing when no denied word starts there. -/
theorem deniedAt?_eq_none_iff (text : List Char) :
    deniedAt? text = none ↔ ∀ word ∈ deniedWords, ¬ StartsWithWord word text := by
  simp only [deniedAt?, List.find?_eq_none]
  exact forall₂_congr fun word _ => not_congr (startsWord_iff word text)

/-- What the search at one place finds is a denied word that starts there. -/
theorem starts_of_deniedAt? {text : List Char} {word : String} (found : deniedAt? text = some word) :
    word ∈ deniedWords ∧ StartsWithWord word text := by
  rw [deniedAt?] at found
  have starts := List.find?_some found
  exact ⟨List.mem_of_find?_eq_some found, (startsWord_iff word text).mp starts⟩

/-- No denied word starts an empty text. -/
theorem not_startsWithWord_nil {word : String} (denied : word ∈ deniedWords) :
    ¬ StartsWithWord word [] := by
  rintro ⟨letters, rest, split, same, _⟩
  rw [(List.append_eq_nil_iff.mp split.symm).1, List.map_nil, eq_comm, List.map_eq_nil_iff] at same
  revert same
  revert word
  decide

/-- The search finds nothing when no denied word stands in the text as a whole. The character before
the text counts as its first neighbour. -/
theorem findDenied_eq_none_iff (text : List Char) (withinWord : Bool) :
    findDenied withinWord text = none ↔
      ∀ word ∈ deniedWords, ∀ before rest, text = before ++ rest →
        (before.getLast?.map Text.isWordPart).getD withinWord = false →
          ¬ StartsWithWord word rest := by
  induction text generalizing withinWord with
  | nil =>
      simp only [findDenied, true_iff]
      intro word denied before rest split _
      rw [(List.append_eq_nil_iff.mp split.symm).2]
      exact not_startsWithWord_nil denied
  | cons c text inductionHypothesis =>
      have later : (∀ word ∈ deniedWords, ∀ before rest, c :: text = before ++ rest →
          (before.getLast?.map Text.isWordPart).getD withinWord = false →
            ¬ StartsWithWord word rest) ↔
          (withinWord = false → deniedAt? (c :: text) = none) ∧
            findDenied (Text.isWordPart c) text = none := by
        rw [inductionHypothesis, deniedAt?_eq_none_iff]
        constructor
        · intro absent
          refine ⟨fun outside word denied => absent word denied [] _ rfl outside, ?_⟩
          intro word denied before rest split ends
          refine absent word denied (c :: before) rest (by rw [split, List.cons_append]) ?_
          cases before <;> simpa [List.getLast?_cons] using ends
        · rintro ⟨here, after⟩ word denied before rest split ends
          cases before with
          | nil =>
              rw [List.nil_append] at split
              exact split ▸ here ends word denied
          | cons first before =>
              cases split
              refine after word denied before rest rfl ?_
              cases before <;> simpa [List.getLast?_cons] using ends
      rw [later, findDenied]
      cases withinWord with
      | true => simp
      | false => cases deniedAt? (c :: text) <;> simp

/-- A text passes the denylist exactly when it holds none of the denied words as a whole. -/
theorem deniedWord?_eq_none_iff (text : String) :
    deniedWord? text = none ↔ ∀ word ∈ deniedWords, ¬ HoldsWord word text.toList := by
  rw [deniedWord?, findDenied_eq_none_iff]
  refine forall₂_congr fun word _ => ?_
  constructor
  · rintro absent ⟨before, rest, split, ends, starts⟩
    refine absent before rest split ?_ starts
    cases last : before.getLast? <;> simp_all
  · intro absent before rest split ends starts
    refine absent ⟨before, rest, split, ?_, starts⟩
    cases last : before.getLast? <;> simp_all

end SchemaDrift.Validation
