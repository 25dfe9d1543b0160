import SchemaDrift.Proofs.Ddl.Parsed
import SchemaDrift.Proofs.Text.Case

namespace SchemaDrift.LogicalType

/-- A text in parentheses is lowered in its parentheses. -/
theorem Lowers.enclosed {text lowered : List Char} (lowers : Lowers text lowered) :
    Lowers ('(' :: text ++ [')']) ('(' :: (lowered ++ [')'])) :=
  (Lowers.of_decide ['('] ['('] (by decide)).append
    (lowers.append (.of_decide [')'] [')'] (by decide)))

/-- The text of a type in a statement is its spelling in upper case, with a space behind a comma. -/
theorem lowers_ddlChars (type : LogicalType) : Lowers type.ddlChars (type.spelledWith [' ']) := by
  have numeric : Lowers "NUMERIC".toList "numeric".toList := .of_decide _ _ (by decide)
  have comma : Lowers [',', ' '] [',', ' '] := .of_decide _ _ (by decide)
  induction type with
  | array element inductionHypothesis =>
      exact inductionHypothesis.append (.of_decide ['[', ']'] ['[', ']'] (by decide))
  | decimal precision scale =>
      rcases precision with _ | p
      · exact lowers_sqlChars (decimal none scale)
      · rcases scale with _ | s
        · exact numeric.append (Lowers.digits p.toNat).enclosed
        · have numbers := (Lowers.digits p.toNat).append (comma.append (.digits s.toNat))
          exact numeric.append numbers.enclosed
  | varchar length =>
      have name : Lowers "VARCHAR".toList "varchar".toList := .of_decide _ _ (by decide)
      rcases length with _ | n
      · exact lowers_sqlChars (varchar none)
      · exact name.append (Lowers.digits n.toNat).enclosed
  | bool => exact lowers_sqlChars bool
  | int => exact lowers_sqlChars int
  | float => exact lowers_sqlChars float
  | string => exact lowers_sqlChars string
  | date => exact lowers_sqlChars date
  | timestamp => exact lowers_sqlChars timestamp
  | json => exact lowers_sqlChars json
  | uuid => exact lowers_sqlChars uuid
  | unknown => exact lowers_sqlChars unknown

/-- A text with the lower-case form of the text of a type is read as the canonical form of the type,
with blanks around it or without. -/
theorem ofSpelling_surrounded {type : LogicalType} {before text behind : List Char}
    (leading : ∀ c ∈ before, Text.isBlank c = true) (trailing : ∀ c ∈ behind, Text.isBlank c = true)
    (same : Text.lower text = Text.lower type.ddlChars) :
    ofSpelling (String.ofList (before ++ text ++ behind)) = type.canonical := by
  have lowered : Text.lower text = type.spelledWith [' '] :=
    same.trans type.lowers_ddlChars.lower_eq
  have trimmed : Text.trim text = text := by
    refine Text.trim_of_lower ?_
    rw [lowered, trim_spelledWith]
  rw [ofSpelling, String.toList_ofList, Text.trim_surrounded leading trailing, trimmed, lowered]
  exact ofLowered_spelledWith (by simp) type (depth_le_length [' '] type)

/-- The text of a type in a statement is read as the canonical form of the type, arrays of any depth
included. So is every text that differs from it in case and in the blanks around it. -/
theorem ofSpelling_toDdl (type : LogicalType) :
    ofSpelling type.toDdl = type.canonical ∧
      ∀ {before text behind : List Char}, (∀ c ∈ before, Text.isBlank c = true) →
        (∀ c ∈ behind, Text.isBlank c = true) → Text.lower text = Text.lower type.ddlChars →
        ofSpelling (String.ofList (before ++ text ++ behind)) = type.canonical := by
  refine ⟨?_, ofSpelling_surrounded⟩
  have blank : ∀ c ∈ ([] : List Char), Text.isBlank c = true := by simp
  have whole := ofSpelling_surrounded blank blank (Eq.refl (Text.lower type.ddlChars))
  rwa [List.nil_append, List.append_nil] at whole

/-- A list of numbers with ten digits is read from a text with blanks around it. -/
theorem ofSpelling_toDdl_padded :
    ofSpelling (String.ofList ("  ".toList ++ "Numeric(10)[]".toList ++ "\t\n".toList)) =
      array (decimal (some 10) (some 0)) :=
  (ofSpelling_toDdl (array (decimal (some 10) none))).2 (List.all_eq_true.mp (by decide))
    (List.all_eq_true.mp (by decide)) (by decide)

end SchemaDrift.LogicalType
