import SchemaDrift.Proofs.Fix.Agreement
import SchemaDrift.Proofs.Usage.Listing

namespace SchemaDrift

namespace InferredColumn

variable {column : InferredColumn} {minEvidence : Nat}

/-- A column is declared with a type that is not known, and nothing is proposed for it. -/
def Unreadable (column : InferredColumn) (minEvidence : Nat) : Prop :=
  column.proposedType minEvidence = none ∧ column.declared = some .unknown

/-- A new column is to have an unknown type if it was declared with one and nothing is proposed, since
no unknown type is proposed. -/
theorem declaredType_eq_unknown_iff :
    column.declaredType minEvidence = some .unknown ↔ column.Unreadable minEvidence := by
  rw [declaredType, Option.or_eq_some_iff, Unreadable]
  refine or_iff_right fun proposed => ?_
  exact ((column.proposedType_eq_some_iff minEvidence _).mp proposed).2.1 rfl

end InferredColumn

namespace Synthesis

/-- The type of a new column is the wanted one or else text, also in place of an unknown type. -/
theorem columnType_eq (wanted : Option LogicalType) :
    columnType wanted = if wanted = some .unknown then .string else wanted.getD .string := by
  cases wanted with
  | none => rfl
  | some type => simp [columnType]

/-- The type that is shown for a new column is the one that it has, if it is not to have an unknown
one. -/
theorem display_columnType_iff (wanted : Option LogicalType) :
    (wanted.getD .string).display = (columnType wanted).display ↔ wanted ≠ some .unknown := by
  rw [columnType_eq]
  by_cases unknown : wanted = some .unknown
  · subst unknown
    decide
  · simp [unknown]

end Synthesis

/-- The issue of a missing column is made for a column of the table. -/
theorem Detection.Difference.exists_missingColumn {rules : DetectionRules} {now : Moment}
    {table : InferredTable} {shown : Option LiveTable} {issue : Issue}
    (difference : Difference rules now table shown issue) (kind : issue.kind = .missingColumn) :
    ∃ column ∈ table.columns.values, issue = Detection.missingColumn rules now table column := by
  cases difference with
  | missingTable => cases kind
  | missingColumn used absent => exact ⟨_, used, rfl⟩
  | typeMismatch used present made =>
      rw [(typeMismatch?_some made).1] at kind
      cases kind
  | missingIndex => cases kind

/-- The type that the issue of a missing column shows is the one that its fix gives the column, unless
the column is declared with a type that is not known and nothing is proposed for it. The issue then
shows that the type is not known, and the fix makes the column text. -/
theorem expectation_applied {rules : DetectionRules} {inferred : InferredSchema}
    {snapshot : Snapshot} {now : Moment} {issue : Issue} {statement : DdlStatement}
    (listed : issue ∈ detectIssues rules inferred snapshot now)
    (kind : issue.kind = .missingColumn) (made : DdlStatement.ofIssue issue = .ok statement) :
    ∃ table ∈ Keyed.values inferred, ∃ column ∈ table.columns.values,
      ∃ owner name : Identifier, ∃ type : LogicalType,
        owner.name = table.name ∧ name.name = column.name ∧
          statement = .addColumn owner (.plain name type) ∧
          (issue.expected = some type.display ↔ ¬column.Unreadable rules.required) ∧
          (column.Unreadable rules.required →
            issue.expected = some LogicalType.unknown.display ∧ type = .string) := by
  obtain ⟨table, present, _, difference⟩ := mem_detectIssues_iff.mp listed
  obtain ⟨column, used, rfl⟩ := difference.exists_missingColumn kind
  let wanted := column.declaredType rules.required
  have unknown : wanted = some .unknown ↔ column.Unreadable rules.required :=
    column.declaredType_eq_unknown_iff
  cases (DdlStatement.ofIssue_iff_corrects _ _).mp made with
  | newTable kind => cases kind
  | newType kind => cases kind
  | newIndex kind => cases kind
  | @newColumn owner name _ named part =>
      refine ⟨table, present, column, used, owner, name, Synthesis.columnType wanted, named,
        (Option.some.inj part).symm, rfl, ?shown, fun unreadable => ?text⟩
      case shown =>
        rw [← unknown, ← ne_eq, ← Synthesis.display_columnType_iff]
        exact Option.some_inj
      case text =>
        have lost : column.declaredType rules.required = some .unknown := unknown.mpr unreadable
        refine ⟨?_, ?_⟩
        · show some ((column.declaredType rules.required).getD .string).display = _
          rw [lost]
          rfl
        · show Synthesis.columnType (column.declaredType rules.required) = _
          rw [lost]
          rfl

namespace Places

/-- What a statement that makes a table of places says about the database. -/
def inferred : InferredSchema :=
  let text := "CREATE TABLE places (id INTEGER, height INTEGER, spot POINT)"
  .ofStatements ((Sql.Statement.ofText text).filterMap fun statement =>
    (StatementUsage.ofStatement? statement).map fun usage => ⟨text, ⟨"places.sql", 1, none⟩, usage⟩)

/-- The table of places has its key alone. -/
def snapshot : Snapshot :=
  .ofTables "public" [⟨"places", [.ofDeclaration "id" "integer"], [], []⟩]

/-- One place is enough, and no table is ignored. -/
def rules : DetectionRules := ⟨1, fun _ => false⟩

/-- The issue of the height shows the type that its fix gives the column. -/
theorem expectation_applied_height :
    ∃ issue ∈ detectIssues rules inferred snapshot default, issue.kind = .missingColumn ∧
      ∃ statement, DdlStatement.ofIssue issue = .ok statement ∧
        ∃ owner name type, statement = .addColumn owner (.plain name type) ∧
          name.name = "height" ∧ issue.expected = some type.display := by
  have listed : ∃ issue ∈ detectIssues rules inferred snapshot default,
      issue.kind = .missingColumn ∧ issue.expected = some "INTEGER" ∧
        DdlStatement.ofIssue issue =
          .ok (.addColumn ⟨"places", by decide⟩ (.plain ⟨"height", by decide⟩ .int)) := by
    decide +kernel
  obtain ⟨issue, listed, kind, expected, made⟩ := listed
  obtain ⟨table, present, column, used, owner, name, type, _, _, same, shown, text⟩ :=
    expectation_applied listed kind made
  obtain ⟨rfl, plain⟩ := DdlStatement.addColumn.inj same
  obtain ⟨rfl, rfl, _⟩ := ColumnDefinition.mk.inj plain
  have readable : ¬column.Unreadable rules.required := fun unreadable => by
    cases (text unreadable).2
  exact ⟨issue, listed, kind, _, made, _, _, _, rfl, rfl, shown.mpr readable⟩

/-- The issue of the spot shows that its type is not known, and its fix makes the column text. -/
theorem expectation_misstated :
    ∃ issue ∈ detectIssues rules inferred snapshot default, issue.kind = .missingColumn ∧
      issue.expected = some "UNKNOWN" ∧ LogicalType.string.display = "TEXT" ∧
        DdlStatement.ofIssue issue =
          .ok (.addColumn ⟨"places", by decide⟩ (.plain ⟨"spot", by decide⟩ .string)) := by
  decide +kernel

end Places

end SchemaDrift
