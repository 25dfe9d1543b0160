import Mathlib.Data.Finset.Card
import SchemaDrift.Proofs.Inference.Schema
import SchemaDrift.Proofs.Issue.Detection
import SchemaDrift.Proofs.LogicalType.Widening

namespace SchemaDrift

/-- What an issue is about: its kind, its table and its column. -/
def Issue.subject (issue : Issue) : IssueKind × String × Option String :=
  (issue.kind, issue.table, issue.column)

/-- Different kinds have different codes. -/
theorem IssueKind.code_inj {first second : IssueKind} :
    first.code = second.code ↔ first = second := by
  cases first <;> cases second <;> decide

namespace Detection

instance : Std.TransCmp compareNames where
  eq_swap {first second} := by
    cases first <;> cases second <;> first
      | rfl
      | exact (compareText_swap _ _).symm
  isLE_trans {first second third} left right := by
    cases first <;> cases second <;> cases third <;> first
      | rfl
      | contradiction
      | exact (inferInstance : Std.TransCmp compareText).isLE_trans left right

/-- Two names are equal in order only when they are the same. -/
theorem compareNames_eq_iff (first second : Option String) :
    compareNames first second = .eq ↔ first = second := by
  cases first <;> cases second <;> simp [compareNames, compareText_eq_iff]

instance : Std.TransCmp fun first second : Issue => compareNames first.column second.column where
  eq_swap := Std.OrientedCmp.eq_swap
  isLE_trans := Std.TransCmp.isLE_trans

/-- Issues are compared by table, kind and column, one after the other. -/
theorem orderIssues_eq : orderIssues = compareLex (compareLex
    (fun first second => compareText first.table second.table)
    (fun first second => compareText first.kind.code second.kind.code))
    (fun first second => compareNames first.column second.column) := rfl

instance : Std.TransCmp orderIssues := by
  rw [orderIssues_eq]
  infer_instance

/-- Two issues are equal in order only when they are about the same. -/
theorem orderIssues_eq_iff (first second : Issue) :
    orderIssues first second = .eq ↔ first.subject = second.subject := by
  simp only [orderIssues, Ordering.then_eq_eq, compareText_eq_iff, compareNames_eq_iff,
    IssueKind.code_inj, Issue.subject, Prod.mk.injEq]
  rw [and_assoc, and_left_comm]

variable {rules : DetectionRules} {now : Moment} {table : InferredTable}

/-- Text is taken for something else exactly when that is specific. -/
theorem isMismatch_iff (proposed live : LogicalType) :
    isMismatch proposed live = true ↔ live.isText = true ∧ proposed.isSpecific = true := by
  simp only [isMismatch, Bool.and_eq_true, Bool.not_eq_true']
  constructor
  · exact fun mismatch => mismatch.1.1
  · rintro ⟨text, specific⟩
    have known := ((LogicalType.isSpecific_iff proposed).mp specific).1
    have worded : live ≠ .unknown := by rintro rfl; cases text
    refine ⟨⟨⟨text, specific⟩, ?_⟩, ?_⟩
    · rw [LogicalType.isSpecific, beq_iff_eq] at specific
      rw [LogicalType.isMoreSpecificThan, specific]
      cases live <;> first
        | rfl
        | contradiction
    · rw [← Bool.not_eq_true, LogicalType.isCompatibleWith_iff known worded,
        (LogicalType.family_eq_text_iff live).mpr text, LogicalType.family_eq_text_iff]
      simp [((LogicalType.isSpecific_iff proposed).mp specific).2]

/-- A mismatch is reported where a specific type is proposed for a text column. -/
theorem exists_typeMismatch?_iff (column : InferredColumn) (found : LiveColumn) :
    (∃ issue, typeMismatch? rules now table column found = some issue) ↔
      found.type.isText = true ∧ ∃ proposed,
        column.proposedType rules.required = some proposed ∧ proposed.isSpecific = true := by
  constructor
  · rintro ⟨issue, made⟩
    obtain ⟨_, _, _, _, _, proposed, wanted, mismatch, _⟩ := typeMismatch?_some made
    obtain ⟨text, specific⟩ := (isMismatch_iff proposed found.type).mp mismatch
    exact ⟨text, proposed, wanted, specific⟩
  · rintro ⟨text, proposed, wanted, specific⟩
    have mismatch := (isMismatch_iff proposed found.type).mpr ⟨text, specific⟩
    simp [typeMismatch?, wanted, mismatch]

/-- The ways in which the database falls short of what code says about a table, by kind and column:
the table is missing, a column is, a text column should be something specific, or a column that is
filtered at enough different places leads no index. -/
inductive Drift (rules : DetectionRules) (table : InferredTable) :
    Option LiveTable → IssueKind → Option String → Prop where
  | missingTable : Drift rules table none .missingTable none
  | missingColumn {live : LiveTable} {column : InferredColumn}
      (used : column ∈ table.columns.values)
      (absent : ∀ found ∈ live.columns, found.name ≠ column.name) :
      Drift rules table (some live) .missingColumn (some column.name)
  | typeMismatch {live : LiveTable} {column : InferredColumn} {found : LiveColumn}
      {proposed : LogicalType} (used : column ∈ table.columns.values)
      (present : live.column? column.name = some found) (text : found.type.isText = true)
      (wanted : column.proposedType (max 1 rules.minEvidence) = some proposed)
      (specific : proposed.isSpecific = true) :
      Drift rules table (some live) .typeMismatch (some column.name)
  | missingIndex {live : LiveTable} {column : InferredColumn} {found : LiveColumn}
      (used : column ∈ table.columns.values) (present : live.column? column.name = some found)
      (enough : max 1 rules.minEvidence ≤ column.filterSites.toFinset.card)
      (without : ∀ index ∈ live.indexes, index.columns.head? ≠ some column.name) :
      Drift rules table (some live) .missingIndex (some column.name)

/-- No index is led by a column when none has it first. -/
theorem hasLeadingIndex_eq_false_iff (live : LiveTable) (column : String) :
    live.hasLeadingIndex column = false ↔
      ∀ index ∈ live.indexes, index.columns.head? ≠ some column := by
  simp [LiveTable.hasLeadingIndex]

/-- A table has no column of a name when none of its columns is called so. -/
theorem column?_eq_none_iff (live : LiveTable) (name : String) :
    live.column? name = none ↔ ∀ found ∈ live.columns, found.name ≠ name := by
  simp [LiveTable.column?]

theorem drift_iff (distinct : ∀ column ∈ table.columns.values, column.filterSites.Nodup)
    (live : Option LiveTable) (kind : IssueKind) (name : Option String) :
    Drift rules table live kind name ↔ ∃ issue, Difference rules now table live issue ∧
      issue.subject = (kind, table.name, name) := by
  constructor
  · intro drift
    cases drift with
    | missingTable => exact ⟨_, .missingTable, rfl⟩
    | missingColumn used absent =>
        exact ⟨_, .missingColumn used ((column?_eq_none_iff _ _).mpr absent), rfl⟩
    | @typeMismatch live column found proposed used present text wanted specific =>
        obtain ⟨issue, made⟩ :=
          (exists_typeMismatch?_iff column found).mpr ⟨text, proposed, wanted, specific⟩
        obtain ⟨kind, owner, named, _⟩ := typeMismatch?_some made
        exact ⟨issue, .typeMismatch used present made, by rw [Issue.subject, kind, owner, named]⟩
    | @missingIndex live column found used present enough without =>
        rw [List.toFinset_card_of_nodup (distinct column used)] at enough
        exact ⟨_, .missingIndex used present enough
          ((hasLeadingIndex_eq_false_iff _ _).mpr without), rfl⟩
  · rintro ⟨issue, difference, same⟩
    cases difference with
    | missingTable => cases same; exact .missingTable
    | missingColumn used absent =>
        cases same
        exact .missingColumn used ((column?_eq_none_iff _ _).mp absent)
    | @typeMismatch live column found _ used present made =>
        obtain ⟨formKind, owner, named, _⟩ := typeMismatch?_some made
        rw [Issue.subject, formKind, owner, named] at same
        cases same
        obtain ⟨text, proposed, wanted, specific⟩ :=
          (exists_typeMismatch?_iff column found).mp ⟨issue, made⟩
        exact .typeMismatch used present text wanted specific
    | @missingIndex live column found used present enough without =>
        cases same
        refine .missingIndex used present ?_ ((hasLeadingIndex_eq_false_iff _ _).mp without)
        rw [List.toFinset_card_of_nodup (distinct column used)]
        exact enough

/-- The issues of a column are about the column, and about different things. -/
theorem columnIssues_subjects (live : LiveTable) (column : InferredColumn) :
    (∀ issue ∈ columnIssues rules now table live column, issue.column = some column.name) ∧
      (columnIssues rules now table live column).Pairwise fun first second =>
        first.subject ≠ second.subject := by
  unfold columnIssues
  cases found : live.column? column.name with
  | none =>
      refine ⟨?_, List.pairwise_singleton _ _⟩
      intro issue only
      rw [List.mem_singleton.mp only]
      rfl
  | some liveColumn =>
      have mismatched : ∀ issue ∈ typeMismatch? rules now table column liveColumn,
          issue.kind = .typeMismatch ∧ issue.column = some column.name := fun issue made =>
        ⟨(typeMismatch?_some made).1, (typeMismatch?_some made).2.2.1⟩
      have unindexed : ∀ issue ∈ missingIndex? rules now table column live,
          issue.kind = .missingIndex ∧ issue.column = some column.name := by
        intro issue made
        obtain ⟨_, _, rfl⟩ := (missingIndex?_eq_some_iff _ _ _).mp made
        exact ⟨rfl, rfl⟩
      constructor
      · intro issue listed
        rw [List.mem_append, Option.mem_toList, Option.mem_toList] at listed
        obtain mismatch | index := listed
        · exact (mismatched issue mismatch).2
        · exact (unindexed issue index).2
      · refine List.pairwise_append.mpr ⟨?_, ?_, ?_⟩
        · cases typeMismatch? rules now table column liveColumn <;> simp
        · cases missingIndex? rules now table column live <;> simp
        · intro first mismatch second index same
          have kinds : first.kind = second.kind := congrArg Prod.fst same
          rw [(mismatched first (Option.mem_toList.mp mismatch)).1,
            (unindexed second (Option.mem_toList.mp index)).1] at kinds
          exact IssueKind.noConfusion kinds

/-- The issues of a table are about different things. -/
theorem tableIssues_subjects (consistent : table.Consistent) (snapshot : Snapshot) :
    (tableIssues rules now snapshot table).Pairwise fun first second =>
      first.subject ≠ second.subject := by
  unfold tableIssues
  split
  · exact .nil
  · split
    · exact List.pairwise_singleton _ _
    · rename_i live known
      refine List.pairwise_flatMap.mpr ⟨fun column _ => (columnIssues_subjects live column).2, ?_⟩
      have named := Keyed.pairwise_values consistent.ordered consistent.named
      refine named.imp ?_
      intro column other different first left second right same
      have columns : first.column = second.column := congrArg (·.2.2) same
      rw [(columnIssues_subjects live column).1 first left,
        (columnIssues_subjects live other).1 second right] at columns
      exact different (Option.some.inj columns)

end Detection

/-- What is detected is in the strict order of table, kind and column, and so no two issues are
about the same. -/
theorem pairwise_detectIssues (rules : DetectionRules) {inferred : InferredSchema}
    (consistent : inferred.Consistent) (snapshot : Snapshot) (now : Moment) :
    (detectIssues rules inferred snapshot now).Pairwise fun first second =>
      Detection.orderIssues first second = .lt := by
  have listed : ((Keyed.values inferred).flatMap
      (Detection.tableIssues rules now snapshot)).Pairwise fun first second =>
        first.subject ≠ second.subject := by
    refine List.pairwise_flatMap.mpr ⟨fun table present =>
      Detection.tableIssues_subjects (consistent.of_mem present) snapshot, ?_⟩
    have named := Keyed.pairwise_values consistent.ordered consistent.named
    refine named.imp ?_
    intro table other different first left second right same
    have tables : first.table = second.table := congrArg (·.2.1) same
    rw [((Detection.mem_tableIssues_iff snapshot first).mp left).2.table_eq,
      ((Detection.mem_tableIssues_iff snapshot second).mp right).2.table_eq] at tables
    exact different tables
  have distinct : (detectIssues rules inferred snapshot now).Pairwise fun first second =>
      first.subject ≠ second.subject :=
    (perm_sortStable Detection.orderIssues _).symm.pairwise listed Ne.symm
  have ordered : (detectIssues rules inferred snapshot now).Pairwise fun first second =>
      (Detection.orderIssues first second).isLE := pairwise_sortStable _
  refine (distinct.and ordered).imp ?_
  rintro first second ⟨different, below⟩
  obtain less | same := Ordering.isLE_iff_eq_lt_or_eq_eq.mp below
  · exact less
  · exact absurd ((Detection.orderIssues_eq_iff first second).mp same) different

/-- Detection is exact: its issues stand in the strict order of table, kind and column, no two are
about the same, and there is one about a kind, a table and a column exactly when the table is
watched and shows that drift. -/
theorem detectIssues_exact (rules : DetectionRules) {inferred : InferredSchema}
    (consistent : inferred.Consistent)
    (distinct : ∀ table ∈ Keyed.values inferred, ∀ column ∈ table.columns.values,
      column.filterSites.Nodup) (snapshot : Snapshot) (now : Moment) :
    ((detectIssues rules inferred snapshot now).Pairwise fun first second =>
        Detection.orderIssues first second = .lt) ∧
      ((detectIssues rules inferred snapshot now).map (·.subject)).Nodup ∧
      ∀ kind name column,
        (kind, name, column) ∈ (detectIssues rules inferred snapshot now).map (·.subject) ↔
          ∃ table ∈ Keyed.values inferred, table.name = name ∧ isSystemTable name = false ∧
            rules.ignores name = false ∧
            Detection.Drift rules table (snapshot.table? name) kind column := by
  have ordered := pairwise_detectIssues rules consistent snapshot now
  refine ⟨ordered, ?_, ?_⟩
  · refine List.pairwise_map.mpr (ordered.imp ?_)
    intro first second less same
    rw [(Detection.orderIssues_eq_iff first second).mpr same] at less
    exact Ordering.noConfusion less
  · intro kind name column
    rw [List.mem_map]
    constructor
    · rintro ⟨issue, listed, same⟩
      obtain ⟨table, present, watched, difference⟩ := mem_detectIssues_iff.mp listed
      have owner : table.name = name := difference.table_eq.symm.trans (congrArg (·.2.1) same)
      subst owner
      rw [DetectionRules.watches, Bool.not_eq_true', Bool.or_eq_false_iff] at watched
      exact ⟨table, present, rfl, watched.1, watched.2,
        (Detection.drift_iff (distinct table present) _ _ _).mpr ⟨issue, difference, same⟩⟩
    · rintro ⟨table, present, rfl, visible, kept, drift⟩
      obtain ⟨issue, difference, same⟩ :=
        (Detection.drift_iff (distinct table present) _ _ _).mp drift
      refine ⟨issue, mem_detectIssues_iff.mpr ⟨table, present, ?_, difference⟩, same⟩
      rw [DetectionRules.watches, visible, kept]
      rfl

/-- A column that is filtered once and has no index is detected where one place is enough. -/
theorem detectIssues_exact_users :
    (IssueKind.missingIndex, "users", some "id") ∈
      (detectIssues ⟨1, fun _ => false⟩
        (InferredSchema.empty.addUsage ⟨"app.py", 1, none⟩
          ⟨"users", "id", .filter, some .equality, []⟩)
        ⟨"public", [("users", ⟨"users", [⟨"id", .int, "integer", false, none⟩], [], []⟩)]⟩
        default).map (·.subject) := by
  have used : (InferredColumn.named "id").use ⟨"app.py", 1, none⟩
      ⟨"users", "id", .filter, some .equality, []⟩ ∈ ((InferredTable.named "users").addSite
        ⟨"app.py", 1, none⟩ |>.updateColumn "id" (InferredColumn.use ⟨"app.py", 1, none⟩
          ⟨"users", "id", .filter, some .equality, []⟩)).columns.values :=
    List.mem_singleton_self _
  have present : LiveTable.column? ⟨"users", [⟨"id", .int, "integer", false, none⟩], [], []⟩ "id" =
      some ⟨"id", .int, "integer", false, none⟩ := rfl
  refine ((detectIssues_exact ⟨1, fun _ => false⟩
    (InferredSchema.consistent_empty.addUsage _ _) (by decide) _ default).2.2 _ _ _).mpr ?_
  refine ⟨_, List.mem_singleton_self _, rfl, by decide, rfl, ?_⟩
  exact .missingIndex used present (by decide) (by decide)

end SchemaDrift
