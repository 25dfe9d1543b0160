import SchemaDrift.Proofs.Catalog.Additions
import SchemaDrift.Proofs.Fix.Plan
import SchemaDrift.Proofs.Inference.Schema
import SchemaDrift.Proofs.Issue.Detection

namespace SchemaDrift

namespace Issue

/-- The statement that is executed for an issue without an operator. -/
def remedy? (minEvidence : Nat) (issue : Issue) : Option DdlStatement :=
  match Plan.ofIssue minEvidence issue .automatic default with
  | .ready validated => some validated.fix.statement
  | _ => none

/-- A remedy is the statement of a screened issue that adds only and holds no denied word. -/
theorem remedy?_eq_some_iff (minEvidence : Nat) (issue : Issue) (statement : DdlStatement) :
    issue.remedy? minEvidence = some statement ↔
      Validation.screen minEvidence issue = .ok () ∧ DdlStatement.ofIssue issue = .ok statement ∧
        Validation.deniedWord? statement.toDdl = none ∧ statement.isDestructive = false ∧
        issue.risk = .additive := by
  have ready := Plan.ofIssue_ready_iff minEvidence issue .automatic default
  have safe : ∀ other : DdlStatement, (Validation.isAdditive (Fix.ofStatement issue other default) =
      true ∨ Approval.automatic = .manual) ↔ other.isDestructive = false ∧ issue.risk = .additive := by
    intro other
    rw [← Validation.isAdditive_ofStatement issue other default]
    simp
  rw [remedy?]
  constructor
  · intro planned
    cases plan : Plan.ofIssue minEvidence issue .automatic default with
    | ready validated =>
        rcases (ready validated).mp plan with ⟨screened, other, made, allowed, rfl, approved⟩
        rw [plan] at planned
        cases planned
        exact ⟨screened, made, allowed, (safe _).mp approved⟩
    | needsApproval fix =>
        rw [plan] at planned
        cases planned
    | rejected error =>
        rw [plan] at planned
        cases planned
  · rintro ⟨screened, made, allowed, additive⟩
    rw [(ready _).mpr ⟨screened, statement, made, allowed, rfl, (safe _).mpr additive⟩]
    rfl

/-- A remedy is the statement of the fix that is planned at any time. -/
theorem ready_of_remedy? {minEvidence : Nat} {issue : Issue} {statement : DdlStatement}
    (remedy : issue.remedy? minEvidence = some statement) (now : Moment) :
    Plan.ofIssue minEvidence issue .automatic now =
      .ready ⟨Fix.ofStatement issue statement now, true⟩ := by
  rcases (remedy?_eq_some_iff _ _ _).mp remedy with ⟨screened, made, allowed, additive⟩
  have safe := (Validation.isAdditive_ofStatement issue statement now).mpr additive
  exact (Plan.ofIssue_ready_iff _ _ _ _ _).mpr
    ⟨screened, statement, made, allowed, by rw [safe], .inl rfl⟩

/-- A fix that is ready without an operator is the remedy. -/
theorem remedy?_of_ready {minEvidence : Nat} {issue : Issue} {now : Moment}
    {validated : ValidatedFix}
    (ready : Plan.ofIssue minEvidence issue .automatic now = .ready validated) :
    ∃ statement, issue.remedy? minEvidence = some statement ∧
      validated = ⟨Fix.ofStatement issue statement now, true⟩ := by
  rcases (Plan.ofIssue_ready_iff _ _ _ _ _).mp ready with
    ⟨screened, statement, made, allowed, rfl, approved⟩
  have safe : Validation.isAdditive (Fix.ofStatement issue statement now) = true :=
    approved.resolve_right Approval.noConfusion
  refine ⟨statement, (remedy?_eq_some_iff _ _ _).mpr ⟨screened, made, allowed, ?_⟩, by rw [safe]⟩
  exact (Validation.isAdditive_ofStatement issue statement now).mp safe

/-- Two issues are alike when they say the same of the same table and column, at whatever times. -/
structure Alike (first second : Issue) : Prop where
  kind : first.kind = second.kind
  table : first.table = second.table
  column : first.column = second.column
  risk : first.risk = second.risk
  count : first.evidence.count = second.evidence.count
  expectedType : first.expectedType = second.expectedType
  actualType : first.actualType = second.actualType
  expectedColumns : first.expectedColumns = second.expectedColumns

/-- Issues that are alike have the same remedy. -/
theorem Alike.remedy?_eq {first second : Issue} (alike : first.Alike second) (minEvidence : Nat) :
    first.remedy? minEvidence = second.remedy? minEvidence := by
  have statement : DdlStatement.ofIssue first = DdlStatement.ofIssue second := by
    unfold DdlStatement.ofIssue Synthesis.columnOf Synthesis.expectedType Issue.target
    rw [alike.kind, alike.table, alike.column, alike.expectedType, alike.actualType,
      alike.expectedColumns]
  have screen : Validation.screen minEvidence first = Validation.screen minEvidence second := by
    unfold Validation.screen
    rw [alike.kind, alike.table, alike.column, alike.count, alike.expectedColumns]
  refine Option.ext fun remedy => ?_
  rw [remedy?_eq_some_iff, remedy?_eq_some_iff, statement, screen, alike.risk]

theorem corrects_of_remedy? {minEvidence : Nat} {issue : Issue} {statement : DdlStatement}
    (remedy : issue.remedy? minEvidence = some statement) : DdlStatement.Corrects issue statement :=
  (DdlStatement.ofIssue_iff_corrects _ _).mp ((remedy?_eq_some_iff _ _ _).mp remedy).2.1

/-- The remedy of a missing table makes it, with the columns that are expected. -/
theorem createTable_of_remedy? {minEvidence : Nat} {issue : Issue} {statement : DdlStatement}
    (kind : issue.kind = .missingTable) (remedy : issue.remedy? minEvidence = some statement) :
    ∃ table definitions, table.name = issue.table ∧
      Synthesis.tableColumns issue.expectedColumns = .ok definitions ∧
        statement = .createTable table definitions := by
  cases corrects_of_remedy? remedy with
  | newTable _ named made => exact ⟨_, _, named, made, rfl⟩
  | newColumn other => cases kind.symm.trans other
  | newType other => cases kind.symm.trans other
  | newIndex other => cases kind.symm.trans other

theorem addColumn_of_remedy? {minEvidence : Nat} {issue : Issue} {statement : DdlStatement}
    (kind : issue.kind = .missingColumn) (remedy : issue.remedy? minEvidence = some statement) :
    ∃ table column, table.name = issue.table ∧ issue.column = some column.name ∧ statement =
      .addColumn table (.plain column (Synthesis.columnType issue.expectedType)) := by
  cases corrects_of_remedy? remedy with
  | newTable other => cases kind.symm.trans other
  | newColumn _ named part => exact ⟨_, _, named, part, rfl⟩
  | newType other => cases kind.symm.trans other
  | newIndex other => cases kind.symm.trans other

/-- The remedy of a missing index makes it, under the one name that it can have. -/
theorem createIndex_of_remedy? {minEvidence : Nat} {issue : Issue} {statement : DdlStatement}
    (kind : issue.kind = .missingIndex) (remedy : issue.remedy? minEvidence = some statement) :
    ∃ name table column, table.name = issue.table ∧ issue.column = some column.name ∧
      indexName table column = .ok name ∧ statement = .createIndex name table [column] := by
  cases corrects_of_remedy? remedy with
  | newTable other => cases kind.symm.trans other
  | newColumn other => cases kind.symm.trans other
  | newType other => cases kind.symm.trans other
  | newIndex _ named part made => exact ⟨_, _, _, named, part, made, rfl⟩

/-- A remedy adds a table, a column or an index. -/
theorem addition_of_remedy? {minEvidence : Nat} {issue : Issue} {statement : DdlStatement}
    (remedy : issue.remedy? minEvidence = some statement) : statement.Addition := by
  rcases (remedy?_eq_some_iff _ _ _).mp remedy with ⟨_, _, _, additive, _⟩
  cases corrects_of_remedy? remedy with
  | newTable => exact .table _ _
  | newColumn => exact .column _ _
  | newType => cases additive
  | newIndex => exact .index _ _ _

end Issue

/-- A schema may show an issue when it is a difference of a watched table from some table. -/
def InferredSchema.MayShow (rules : DetectionRules) (inferred : InferredSchema) (issue : Issue) :
    Prop :=
  ∃ table ∈ Keyed.values inferred, rules.watches table.name = true ∧
    ∃ now live, Detection.Difference rules now table live issue

/-- A catalog shows an issue when it is a difference of a watched table from the catalog's. -/
def Catalog.Shows (rules : DetectionRules) (inferred : InferredSchema) (catalog : Catalog)
    (issue : Issue) : Prop :=
  ∃ table ∈ Keyed.values inferred, rules.watches table.name = true ∧
    ∃ now, Detection.Difference rules now table (catalog.table? table.name) issue

/-- The statements that a catalog wants: the remedies of what is missing in it. -/
inductive Catalog.Wants (rules : DetectionRules) (inferred : InferredSchema) (catalog : Catalog) :
    DdlStatement → Prop where
  | newTable {table : InferredTable} {statement : DdlStatement}
      (present : table ∈ Keyed.values inferred) (watched : rules.watches table.name = true)
      (missing : ¬ catalog.HasTable table.name)
      (remedy : (Detection.missingTable rules default table).remedy? rules.minEvidence =
        some statement) : Wants rules inferred catalog statement
  | newColumn {table : InferredTable} {column : InferredColumn} {statement : DdlStatement}
      (present : table ∈ Keyed.values inferred) (watched : rules.watches table.name = true)
      (used : column ∈ table.columns.values) (known : catalog.HasTable table.name)
      (absent : ¬ catalog.HasColumn table.name column.name)
      (remedy : (Detection.missingColumn rules default table column).remedy? rules.minEvidence =
        some statement) : Wants rules inferred catalog statement
  | newIndex {table : InferredTable} {column : InferredColumn} {statement : DdlStatement}
      (present : table ∈ Keyed.values inferred) (watched : rules.watches table.name = true)
      (used : column ∈ table.columns.values)
      (there : catalog.HasColumn table.name column.name)
      (enough : rules.required ≤ column.filterCount)
      (without : ¬ catalog.Leads table.name column.name)
      (remedy : (Detection.missingIndex default table column).remedy? rules.minEvidence =
        some statement) : Wants rules inferred catalog statement

namespace InferredSchema.MayShow

variable {rules : DetectionRules} {inferred : InferredSchema} {first second : Issue}

/-- The risk and the identity of an issue follow from its kind, its table and its column. -/
theorem facts (shown : inferred.MayShow rules first) :
    first.risk = first.kind.risk ∧ first.id = Issue.idOf first.kind first.table first.column ∧
      first.status = .pending ∧ first.resolvedAt = none := by
  rcases shown with ⟨table, _, _, now, live, difference⟩
  cases difference with
  | missingTable => exact ⟨rfl, rfl, rfl, rfl⟩
  | missingColumn => exact ⟨rfl, rfl, rfl, rfl⟩
  | typeMismatch used present made =>
      rw [Detection.typeMismatch?, Option.bind_eq_bind, Option.bind_eq_some_iff] at made
      rcases made with ⟨proposed, _, rest⟩
      split at rest
      · cases rest
      · cases rest
        exact ⟨rfl, rfl, rfl, rfl⟩
  | missingIndex => exact ⟨rfl, rfl, rfl, rfl⟩

/-- The same difference has the same remedy whenever it is shown. -/
theorem remedy?_eq (consistent : inferred.Consistent) (left : inferred.MayShow rules first)
    (right : inferred.MayShow rules second) (kind : first.kind = second.kind)
    (table : first.table = second.table) (column : first.column = second.column)
    (minEvidence : Nat) : first.remedy? minEvidence = second.remedy? minEvidence := by
  have none_of_mismatch : ∀ {issue : Issue}, issue.risk = .destructive →
      issue.remedy? minEvidence = none := by
    intro issue risk
    rw [Option.eq_none_iff_forall_ne_some]
    intro statement remedy
    have additive := ((Issue.remedy?_eq_some_iff _ _ _).mp remedy).2.2.2.2
    rw [risk] at additive
    cases additive
  have leftFacts := left.facts
  have rightFacts := right.facts
  rcases left with ⟨owner, present, _, now, live, difference⟩
  rcases right with ⟨other, known, _, later, shown, another⟩
  rw [difference.table_eq, another.table_eq] at table
  have same := consistent.eq_of_name_eq present known table
  subst same
  have whole := consistent.of_mem present
  cases difference with
  | missingTable =>
      cases another with
      | missingTable => exact Issue.Alike.remedy?_eq ⟨rfl, rfl, rfl, rfl, rfl, rfl, rfl, rfl⟩ _
      | missingColumn => cases kind
      | typeMismatch _ _ made => cases kind.trans (Detection.typeMismatch?_some made).1
      | missingIndex => cases kind
  | missingColumn used absent =>
      cases another with
      | missingTable => cases kind
      | missingColumn others _ =>
          rw [whole.eq_of_name_eq used others (Option.some.inj column)]
          exact Issue.Alike.remedy?_eq ⟨rfl, rfl, rfl, rfl, rfl, rfl, rfl, rfl⟩ _
      | typeMismatch _ _ made => cases kind.trans (Detection.typeMismatch?_some made).1
      | missingIndex => cases kind
  | typeMismatch _ _ made =>
      have mismatch := (Detection.typeMismatch?_some made).1
      have risks := kind.symm.trans mismatch
      rw [none_of_mismatch (leftFacts.1.trans (by rw [mismatch]; rfl)),
        none_of_mismatch (rightFacts.1.trans (by rw [risks]; rfl))]
  | missingIndex used present enough without =>
      cases another with
      | missingTable => cases kind
      | missingColumn => cases kind
      | typeMismatch _ _ made => cases kind.trans (Detection.typeMismatch?_some made).1
      | missingIndex others _ _ _ =>
          rw [whole.eq_of_name_eq used others (Option.some.inj column)]
          exact Issue.Alike.remedy?_eq ⟨rfl, rfl, rfl, rfl, rfl, rfl, rfl, rfl⟩ _

end InferredSchema.MayShow

/-- What a catalog wants is the remedy of a difference that can be detected at any time. -/
theorem Catalog.Wants.exists_difference {rules : DetectionRules} {inferred : InferredSchema}
    {catalog : Catalog} {statement : DdlStatement}
    (wants : catalog.Wants rules inferred statement) (now : Moment) :
    ∃ table ∈ Keyed.values inferred, rules.watches table.name = true ∧
      ∃ issue, Detection.Difference rules now table (catalog.table? table.name) issue ∧
        issue.remedy? rules.minEvidence = some statement := by
  have alike : ∀ {first second : Issue}, first.Alike second →
      second.remedy? rules.minEvidence = some statement →
      first.remedy? rules.minEvidence = some statement :=
    fun same remedy => (same.remedy?_eq rules.minEvidence).trans remedy
  cases wants with
  | @newTable table _ present watched missing remedy =>
      rw [HasTable, Bool.not_eq_true, Option.isSome_eq_false_iff, Option.isNone_iff_eq_none]
        at missing
      refine ⟨table, present, watched, Detection.missingTable rules now table, ?_,
        alike ⟨rfl, rfl, rfl, rfl, rfl, rfl, rfl, rfl⟩ remedy⟩
      rw [missing]
      exact .missingTable
  | @newColumn table column _ present watched used known absent remedy =>
      rcases Option.isSome_iff_exists.mp known with ⟨live, found⟩
      refine ⟨table, present, watched, Detection.missingColumn rules now table column, ?_,
        alike ⟨rfl, rfl, rfl, rfl, rfl, rfl, rfl, rfl⟩ remedy⟩
      rw [found]
      refine .missingColumn used ?_
      rw [← Option.not_isSome_iff_eq_none]
      exact fun there => absent ⟨live, found, there⟩
  | @newIndex table column _ present watched used there enough without remedy =>
      rcases there with ⟨live, found, listed⟩
      rcases Option.isSome_iff_exists.mp listed with ⟨shown, listed⟩
      refine ⟨table, present, watched, Detection.missingIndex now table column, ?_,
        alike ⟨rfl, rfl, rfl, rfl, rfl, rfl, rfl, rfl⟩ remedy⟩
      rw [found]
      refine .missingIndex used listed enough ?_
      rw [← Bool.not_eq_true]
      exact fun leads => without ⟨live, found, leads⟩

theorem Catalog.wants_iff {rules : DetectionRules} {inferred : InferredSchema} {catalog : Catalog}
    {statement : DdlStatement} :
    catalog.Wants rules inferred statement ↔
      ∃ issue, catalog.Shows rules inferred issue ∧
        issue.remedy? rules.minEvidence = some statement := by
  constructor
  · intro wants
    rcases wants.exists_difference default with ⟨table, present, watched, issue, difference, remedy⟩
    exact ⟨issue, ⟨table, present, watched, default, difference⟩, remedy⟩
  · rintro ⟨issue, ⟨table, present, watched, now, difference⟩, remedy⟩
    have shown : inferred.MayShow rules issue := ⟨table, present, watched, now, _, difference⟩
    generalize known : catalog.table? table.name = live at difference
    cases difference with
    | missingTable =>
        refine .newTable present watched ?_ (.trans (Issue.Alike.remedy?_eq
          ⟨rfl, rfl, rfl, rfl, rfl, rfl, rfl, rfl⟩ _) remedy)
        rw [HasTable, known]
        exact Bool.false_ne_true
    | missingColumn used absent =>
        refine .newColumn present watched used ?_ ?_ (.trans (Issue.Alike.remedy?_eq
          ⟨rfl, rfl, rfl, rfl, rfl, rfl, rfl, rfl⟩ _) remedy)
        · rw [HasTable, known]
          rfl
        · rintro ⟨other, found, there⟩
          rw [known] at found
          cases found
          rw [absent] at there
          cases there
    | typeMismatch used present made =>
        have additive := ((Issue.remedy?_eq_some_iff _ _ _).mp remedy).2.2.2.2
        rw [shown.facts.1, (Detection.typeMismatch?_some made).1] at additive
        cases additive
    | missingIndex used found enough without =>
        refine .newIndex present watched used ⟨_, known, Option.isSome_iff_exists.mpr ⟨_, found⟩⟩
          enough ?_ (.trans (Issue.Alike.remedy?_eq
            ⟨rfl, rfl, rfl, rfl, rfl, rfl, rfl, rfl⟩ _) remedy)
        rintro ⟨other, same, leads⟩
        rw [known] at same
        cases same
        rw [without] at leads
        cases leads

end SchemaDrift
