import SchemaDrift.Issue.Detection
import SchemaDrift.Proofs.Keyed

namespace SchemaDrift

/-- A table is watched unless it belongs to the system or is ignored. -/
def DetectionRules.watches (rules : DetectionRules) (name : String) : Bool :=
  !(isSystemTable name || rules.ignores name)

namespace Detection

variable {rules : DetectionRules} {now : Moment} {table : InferredTable}

def missingIndex (now : Moment) (table : InferredTable) (column : InferredColumn) : Issue :=
  let evidence := Evidence.ofSites column.filterCount column.filterSites
    ("filtered by equality at " ++ toString column.filterCount ++ " site(s)")
  { Issue.detected .missingIndex table.name (some column.name) evidence now with
    expected := some "index"
    actual := some "none" }

/-- An index is missed for a column that is filtered often and leads none. -/
theorem missingIndex?_eq_some_iff (column : InferredColumn) (live : LiveTable) (issue : Issue) :
    missingIndex? rules now table column live = some issue ↔
      rules.required ≤ column.filterCount ∧ live.hasLeadingIndex column.name = false ∧
        missingIndex now table column = issue := by
  rw [missingIndex?]
  by_cases enough : column.filterCount < rules.required
  · simp [enough, Nat.not_le.mpr enough]
  · by_cases led : live.hasLeadingIndex column.name = true
    · simp [led]
    · rw [Bool.not_eq_true] at led
      simp [enough, led, missingIndex, Nat.not_lt.mp enough]

/-- The reasons for an issue of a table, given what the database has under its name. -/
inductive Difference (rules : DetectionRules) (now : Moment) (table : InferredTable) :
    Option LiveTable → Issue → Prop where
  | missingTable : Difference rules now table none (Detection.missingTable rules now table)
  | missingColumn {live : LiveTable} {column : InferredColumn}
      (used : column ∈ table.columns.values) (absent : live.column? column.name = none) :
      Difference rules now table (some live) (Detection.missingColumn rules now table column)
  | typeMismatch {live : LiveTable} {column : InferredColumn} {found : LiveColumn} {issue : Issue}
      (used : column ∈ table.columns.values) (present : live.column? column.name = some found)
      (made : typeMismatch? rules now table column found = some issue) :
      Difference rules now table (some live) issue
  | missingIndex {live : LiveTable} {column : InferredColumn} {found : LiveColumn}
      (used : column ∈ table.columns.values) (present : live.column? column.name = some found)
      (enough : rules.required ≤ column.filterCount)
      (without : live.hasLeadingIndex column.name = false) :
      Difference rules now table (some live) (Detection.missingIndex now table column)

theorem mem_tableIssues_iff (snapshot : Snapshot) (issue : Issue) :
    issue ∈ tableIssues rules now snapshot table ↔
      rules.watches table.name = true ∧
        Difference rules now table (snapshot.table? table.name) issue := by
  rw [tableIssues, DetectionRules.watches]
  by_cases skipped : isSystemTable table.name || rules.ignores table.name
  · simp [skipped]
  · simp only [skipped, Bool.false_eq_true, if_false, Bool.not_false, true_and]
    constructor
    · intro present
      cases known : snapshot.table? table.name with
      | none =>
          simp only [known, List.mem_singleton] at present
          exact present ▸ .missingTable
      | some live =>
          simp only [known] at present
          rcases List.mem_flatMap.mp present with ⟨column, used, listed⟩
          unfold columnIssues at listed
          cases found : live.column? column.name with
          | none =>
              simp only [found, List.mem_singleton] at listed
              exact listed ▸ .missingColumn used found
          | some liveColumn =>
              simp only [found, List.mem_append, Option.mem_toList] at listed
              rcases listed with mismatch | unindexed
              · exact .typeMismatch used found mismatch
              · rcases (missingIndex?_eq_some_iff _ _ _).mp unindexed with ⟨enough, without, rfl⟩
                exact .missingIndex used found enough without
    · intro difference
      generalize snapshot.table? table.name = live at difference ⊢
      cases difference with
      | missingTable => exact List.mem_singleton_self _
      | missingColumn used absent =>
          refine List.mem_flatMap.mpr ⟨_, used, ?_⟩
          simp [columnIssues, absent]
      | typeMismatch used present made =>
          refine List.mem_flatMap.mpr ⟨_, used, ?_⟩
          simp [columnIssues, present, made]
      | missingIndex used present enough without =>
          refine List.mem_flatMap.mpr ⟨_, used, ?_⟩
          simp [columnIssues, present, (missingIndex?_eq_some_iff _ _ _).mpr ⟨enough, without, rfl⟩]

/-- A mismatch is reported for a column whose proposed type the live one cannot be. -/
theorem typeMismatch?_some {column : InferredColumn} {found : LiveColumn} {issue : Issue}
    (made : typeMismatch? rules now table column found = some issue) :
    issue.kind = .typeMismatch ∧ issue.table = table.name ∧ issue.column = some column.name ∧
      issue.id = Issue.idOf .typeMismatch table.name (some column.name) ∧
      issue.risk = .destructive ∧
      ∃ proposed, column.proposedType rules.required = some proposed ∧
        isMismatch proposed found.type = true ∧ issue.expectedType = some proposed := by
  rw [typeMismatch?, Option.bind_eq_bind, Option.bind_eq_some_iff] at made
  rcases made with ⟨proposed, wanted, rest⟩
  split at rest
  · cases rest
  · rename_i mismatch
    cases rest
    rw [Bool.not_eq_true, Bool.not_eq_false'] at mismatch
    exact ⟨rfl, rfl, rfl, rfl, rfl, proposed, wanted, mismatch, rfl⟩

/-- An issue of a type is about a column whose live type is text, and keeps that type. -/
theorem Difference.exists_text {shown : Option LiveTable} {issue : Issue}
    (difference : Difference rules now table shown issue) (kind : issue.kind = .typeMismatch) :
    ∃ live name found, shown = some live ∧ issue.column = some name ∧
      live.column? name = some found ∧ issue.actualType = some found.type ∧
      found.type.isText = true := by
  cases difference with
  | missingTable => cases kind
  | missingColumn used absent => cases kind
  | missingIndex used present enough without => cases kind
  | @typeMismatch live column found issue used present made =>
      have named := (typeMismatch?_some made).2.2.1
      rw [typeMismatch?, Option.bind_eq_bind, Option.bind_eq_some_iff] at made
      obtain ⟨proposed, _, rest⟩ := made
      split at rest
      · cases rest
      · rename_i mismatch
        cases rest
        rw [Bool.not_eq_true, Bool.not_eq_false', isMismatch] at mismatch
        simp only [Bool.and_eq_true] at mismatch
        exact ⟨live, column.name, found, rfl, rfl, present, rfl, mismatch.1.1.1⟩

theorem Difference.table_eq {live : Option LiveTable} {issue : Issue}
    (difference : Difference rules now table live issue) : issue.table = table.name := by
  cases difference with
  | missingTable => rfl
  | missingColumn => rfl
  | typeMismatch used present made => exact (typeMismatch?_some made).2.1
  | missingIndex => rfl

end Detection

/-- What is detected are the differences of the watched tables that code speaks of. -/
theorem mem_detectIssues_iff {rules : DetectionRules} {inferred : InferredSchema}
    {snapshot : Snapshot} {now : Moment} {issue : Issue} :
    issue ∈ detectIssues rules inferred snapshot now ↔
      ∃ table ∈ Keyed.values inferred, rules.watches table.name = true ∧
        Detection.Difference rules now table (snapshot.table? table.name) issue := by
  rw [detectIssues, mem_sortStable, List.mem_flatMap]
  simp only [Detection.mem_tableIssues_iff]

/-- The issues of one table are detected alike in snapshots that show the table alike. -/
theorem mem_detectIssues_congr {rules : DetectionRules} {inferred : InferredSchema}
    {snapshot other : Snapshot} {now : Moment} {issue : Issue}
    (same : other.table? issue.table = snapshot.table? issue.table) :
    issue ∈ detectIssues rules inferred other now ↔
      issue ∈ detectIssues rules inferred snapshot now := by
  rw [mem_detectIssues_iff, mem_detectIssues_iff]
  constructor
  · rintro ⟨table, present, watched, difference⟩
    rw [difference.table_eq] at same
    exact ⟨table, present, watched, same ▸ difference⟩
  · rintro ⟨table, present, watched, difference⟩
    rw [difference.table_eq] at same
    exact ⟨table, present, watched, same.symm ▸ difference⟩

end SchemaDrift
