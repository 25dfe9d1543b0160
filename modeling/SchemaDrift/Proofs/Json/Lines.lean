import SchemaDrift.Proofs.Json.Reading

namespace SchemaDrift.Json

/-- A line break is never written as itself inside a string. -/
theorem newline_notMem_escapeChar (c : Char) : '\n' ∉ escapeChar c := by
  have hexadecimal : ∀ n < 16, Text.hexChar n ≠ '\n' := by decide
  have escaped := escaped_escapeChar c
  generalize escapeChar c = written at escaped ⊢
  cases escaped with
  | letter listed =>
      have letters : ∀ escape ∈ letterEscapes, '\n' ∉ ['\\', escape.2] := by decide
      exact letters _ listed
  | number control =>
      have high := hexadecimal (c.toNat / 16) (by omega)
      have low := hexadecimal (c.toNat % 16) (by omega)
      simp [high.symm, low.symm]
  | plain unlisted printed =>
      intro among
      exact unlisted (List.mem_singleton.mp among ▸ by decide)

/-- A text is written on one line. -/
theorem newline_notMem_quote (text : String) : '\n' ∉ quote text := by
  simp [quote, newline_notMem_escapeChar]

/-- A whole number is written on one line. -/
theorem newline_notMem_integerText (n : Int) : '\n' ∉ integerText n := by
  have digits (m : Nat) : '\n' ∉ Nat.toDigits 10 m := fun among =>
    absurd (Text.isAsciiDigit_of_mem_toDigits among) (by decide)
  cases n with
  | ofNat m => exact digits m
  | negSucc m => simp [integerText, digits]

/-- The compact text of a value is written on one line. -/
theorem newline_notMem_compact {value : Json} (whole : value.Whole) : '\n' ∉ compact value := by
  induction value using induction with
  | null => decide
  | bool value => cases value <;> decide
  | integer value => exact newline_notMem_integerText value
  | real text => cases whole
  | string value => exact newline_notMem_quote value
  | array items each =>
      rw [whole_array_iff] at whole
      have inner : '\n' ∉ compact.compactItems items := by
        induction items with
        | nil => exact List.not_mem_nil
        | cons item items inductionHypothesis =>
            rw [List.forall_mem_cons] at each whole
            have first := each.1 whole.1
            have rest := inductionHypothesis each.2 whole.2
            cases items with
            | nil => exact first
            | cons next items => simp [compact.compactItems, first, rest]
      simp [compact, inner]
  | object members each =>
      rw [whole_object_iff] at whole
      have inner : '\n' ∉ compact.compactMembers members := by
        induction members with
        | nil => exact List.not_mem_nil
        | cons member members inductionHypothesis =>
            obtain ⟨key, value⟩ := member
            rw [List.forall_mem_cons] at each whole
            have first := each.1 whole.1
            have rest := inductionHypothesis each.2 whole.2
            cases members with
            | nil => simp [compact.compactMembers, newline_notMem_quote, first]
            | cons next members =>
                simp [compact.compactMembers, newline_notMem_quote, first, rest]
      simp [compact, inner]

end SchemaDrift.Json
