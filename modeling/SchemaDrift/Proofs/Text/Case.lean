import SchemaDrift.Proofs.Text.Chars

namespace SchemaDrift.Text

/-- A blank outside of ASCII has no other lower-case form. -/
theorem lowerRuns_of_blank {code : Nat} (blank : inRanges blankRanges code = true) :
    code ≠ 0x130 ∧ code ≠ 0x3A3 ∧ lowerRuns.findSome? (·.image? code) = none := by
  have short : ∀ range ∈ blankRanges, range.2 < range.1 + 11 := by decide
  have checked : ∀ range ∈ blankRanges, ∀ step < 11, range.1 + step ≤ range.2 →
      range.1 + step ≠ 0x130 ∧ range.1 + step ≠ 0x3A3 ∧
        lowerRuns.findSome? (·.image? (range.1 + step)) = none := by decide +kernel
  obtain ⟨range, listed, within⟩ := List.any_eq_true.mp blank
  rw [Bool.and_eq_true, decide_eq_true_eq, decide_eq_true_eq] at within
  obtain ⟨step, rfl⟩ := Nat.exists_eq_add_of_le within.1
  have few := short range listed
  exact checked range listed step (by omega) within.2

/-- A blank is the same in lower case, and is no sigma. -/
theorem lowerChar_of_blank {c : Char} (blank : isBlank c = true) :
    lowerChar c = [c] ∧ c.toNat ≠ 0x3A3 := by
  by_cases ascii : c.toNat < 0x80
  · have same := forall_ascii (fun c => isBlank c = true → lowerAscii c = c) (by decide) ascii blank
    rw [lowerChar, if_pos ascii, same]
    exact ⟨rfl, by omega⟩
  · rw [isBlank, if_neg ascii] at blank
    obtain ⟨undotted, other, none⟩ := lowerRuns_of_blank blank
    rw [lowerChar, if_neg ascii, if_neg (by simpa using undotted), none]
    exact ⟨rfl, other⟩

/-- A blank stays where it is in a text that is lowered. -/
theorem lowerAfter_cons_of_blank {c : Char} (blank : isBlank c = true) (before rest : List Char) :
    lowerAfter before (c :: rest) = c :: lowerAfter (c :: before) rest := by
  obtain ⟨same, other⟩ := lowerChar_of_blank blank
  rw [lowerAfter]
  simp only [same, beq_iff_eq, if_neg other]
  rfl

/-- A blank at the start of a text is at the start of its lower-case form. -/
theorem head?_lower_of_blank {c : Char} (blank : isBlank c = true) (rest : List Char) :
    (lower (c :: rest)).head? = some c := by
  rw [lower]
  split
  · rename_i ascii
    have small : c.toNat < 128 := by simpa using List.all_eq_true.mp ascii c List.mem_cons_self
    have same := forall_ascii (fun c => isBlank c = true → lowerAscii c = c) (by decide) small blank
    rw [List.map_cons, same]
    rfl
  · rw [lowerAfter_cons_of_blank blank]
    rfl

/-- A blank at the end of a text is at the end of its lower-case form. -/
theorem getLast?_lower_of_blank {c : Char} (blank : isBlank c = true) (front : List Char) :
    (lower (front ++ [c])).getLast? = some c := by
  rw [lower]
  split
  · rename_i ascii
    have small : c.toNat < 128 := by simpa using List.all_eq_true.mp ascii c (by simp)
    have same := forall_ascii (fun c => isBlank c = true → lowerAscii c = c) (by decide) small blank
    simp [same]
  · -- What is passed over matters for a sigma only, and the blank is none.
    have last : ∀ front before, ∃ lowered, lowerAfter before (front ++ [c]) = lowered ++ [c] := by
      intro front
      induction front with
      | nil => exact fun before => ⟨[], lowerAfter_cons_of_blank blank before []⟩
      | cons d front inductionHypothesis =>
          intro before
          obtain ⟨lowered, rest⟩ := inductionHypothesis (d :: before)
          rw [List.cons_append, lowerAfter, rest]
          exact ⟨_, (List.append_assoc _ _ _).symm⟩
    obtain ⟨lowered, whole⟩ := last front []
    rw [whole, List.getLast?_concat]

/-- A text is trimmed where its lower-case form is. -/
theorem trim_of_lower {text : List Char} (trimmed : trim (lower text) = lower text) :
    trim text = text := by
  obtain ⟨front, back⟩ := ends_of_trim trimmed
  refine trim_eq_self (fun c first => ?_) fun c last => ?_
  · by_contra blank
    rw [Bool.not_eq_false] at blank
    obtain ⟨rest, rfl⟩ := List.head?_eq_some_iff.mp first
    exact Bool.false_ne_true ((front c (head?_lower_of_blank blank rest)).symm.trans blank)
  · by_contra blank
    rw [Bool.not_eq_false] at blank
    obtain ⟨before, rfl⟩ := List.getLast?_eq_some_iff.mp last
    exact Bool.false_ne_true ((back c (getLast?_lower_of_blank blank before)).symm.trans blank)

end SchemaDrift.Text
