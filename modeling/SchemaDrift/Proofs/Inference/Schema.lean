import SchemaDrift.Inference.Schema
import SchemaDrift.Proofs.Keyed

namespace SchemaDrift

/-- The columns of a table stand in order, each under its own name. -/
structure InferredTable.Consistent (table : InferredTable) : Prop where
  ordered : table.columns.Ordered
  named : ∀ {key column}, table.columns.get? key = some column → column.name = key

/-- The tables of a schema stand in order, each under its own name, and so do their columns. -/
structure InferredSchema.Consistent (schema : InferredSchema) : Prop where
  ordered : Keyed.Ordered schema
  named : ∀ {key table}, Keyed.get? key schema = some table → table.name = key
  tables : ∀ {key table}, Keyed.get? key schema = some table → table.Consistent

namespace InferredColumn

/-- A column that observes a type keeps its name and its places. -/
theorem observe_keeps (column : InferredColumn) (type : LogicalType) (site : Location) :
    (column.observe type site).name = column.name ∧
      (column.observe type site).usageSites = column.usageSites ∧
      (column.observe type site).filterSites = column.filterSites := by
  unfold observe recount addConflict
  split
  · exact ⟨rfl, rfl, rfl⟩
  · simp only
    split <;> exact ⟨rfl, rfl, rfl⟩

/-- A column that meets a value keeps its name and its places. -/
theorem meet_keeps (site : Location) (column : InferredColumn) (value : ValueContext) :
    (column.meet site value).name = column.name ∧
      (column.meet site value).usageSites = column.usageSites ∧
      (column.meet site value).filterSites = column.filterSites := by
  unfold meet
  split
  · exact observe_keeps (column.declare _) _ site
  · exact observe_keeps column _ site

/-- A column that meets values keeps its name and its places. -/
theorem foldl_meet_keeps (site : Location) (values : List ValueContext) (column : InferredColumn) :
    (values.foldl (meet site) column).name = column.name ∧
      (values.foldl (meet site) column).usageSites = column.usageSites ∧
      (values.foldl (meet site) column).filterSites = column.filterSites := by
  induction values generalizing column with
  | nil => exact ⟨rfl, rfl, rfl⟩
  | cons value values inductionHypothesis =>
      obtain ⟨name, usage, filter⟩ := meet_keeps site column value
      rw [← name, ← usage, ← filter]
      exact inductionHypothesis (column.meet site value)

/-- A column that is used keeps its name. -/
theorem use_name (site : Location) (usage : ColumnUsage) (column : InferredColumn) :
    (column.use site usage).name = column.name := by
  unfold use
  simp only
  rw [(foldl_meet_keeps site _ _).1]
  split <;> rfl

end InferredColumn

namespace InferredTable

/-- A table about which nothing is known is consistent. -/
theorem consistent_named (name : String) : (named name).Consistent where
  ordered := Keyed.ordered_nil
  named found := by cases found

/-- A table stays consistent when one more place refers to it. -/
theorem Consistent.addSite {table : InferredTable} (consistent : table.Consistent)
    (site : Location) : (table.addSite site).Consistent :=
  ⟨consistent.ordered, consistent.named⟩

/-- A table stays consistent when one of its columns changes and keeps its name. -/
theorem Consistent.updateColumn {table : InferredTable} (consistent : table.Consistent)
    (name : String) {change : InferredColumn → InferredColumn}
    (keeps : ∀ column, (change column).name = column.name) :
    (table.updateColumn name change).Consistent where
  ordered := Keyed.ordered_insert consistent.ordered _ _
  named {key column} found := by
    rw [InferredTable.updateColumn, Keyed.get?_insert] at found
    split at found
    · rename_i same
      cases found
      rw [keeps, ← same]
      cases known : table.columns.get? name with
      | none => rfl
      | some column => exact consistent.named known
    · exact consistent.named found

/-- Different columns of a consistent table have different names. -/
theorem Consistent.eq_of_name_eq {table : InferredTable} (consistent : table.Consistent)
    {first second : InferredColumn} (left : first ∈ table.columns.values)
    (right : second ∈ table.columns.values) (same : first.name = second.name) :
    first = second :=
  Keyed.eq_of_name_eq consistent.ordered consistent.named left right same

end InferredTable

namespace InferredSchema

/-- What holds when nothing is known, and still holds when a table is referred to and when a column
is used, holds of what statements say about the database. -/
theorem ofStatements_induction {property : InferredSchema → Prop} (nothing : property empty)
    (referred : ∀ schema name site, property schema →
      property (schema.updateTable name fun table => table.addSite site))
    (used : ∀ schema site usage, property schema → property (schema.addUsage site usage))
    (statements : List SourceStatement) : property (ofStatements statements) := by
  have read : ∀ (schema : InferredSchema) (statement : SourceStatement), property schema →
      property (schema.addStatement statement) := by
    intro schema statement before
    have named := List.foldlRecOn (motive := property) statement.usage.tables _ before
      fun schema before name _ => referred schema name statement.location before
    exact List.foldlRecOn (motive := property) statement.usage.usages _ named
      fun schema before usage _ => used schema statement.location usage before
  exact List.foldlRecOn (motive := property) statements _ nothing
    fun schema before statement _ => read schema statement before

/-- Nothing known is consistent. -/
theorem consistent_empty : Consistent empty where
  ordered := Keyed.ordered_nil
  named found := by cases found
  tables found := by cases found

/-- Different tables of a consistent schema have different names. -/
theorem Consistent.eq_of_name_eq {schema : InferredSchema} (consistent : schema.Consistent)
    {first second : InferredTable} (left : first ∈ Keyed.values schema)
    (right : second ∈ Keyed.values schema) (same : first.name = second.name) : first = second :=
  Keyed.eq_of_name_eq consistent.ordered consistent.named left right same

theorem Consistent.of_mem {schema : InferredSchema} (consistent : schema.Consistent)
    {table : InferredTable} (present : table ∈ Keyed.values schema) : table.Consistent := by
  rcases Keyed.exists_get?_of_mem_values consistent.ordered present with ⟨key, found⟩
  exact consistent.tables found

/-- A schema stays consistent when one of its tables changes, stays consistent and keeps its
name. -/
theorem Consistent.updateTable {schema : InferredSchema} (consistent : schema.Consistent)
    (name : String) {change : InferredTable → InferredTable}
    (keeps : ∀ table, (change table).name = table.name)
    (preserves : ∀ table : InferredTable, table.Consistent → (change table).Consistent) :
    (schema.updateTable name change).Consistent := by
  have found : ∀ {key table}, Keyed.get? key (schema.updateTable name change) = some table →
      table.name = key ∧ table.Consistent := by
    intro key table found
    rw [InferredSchema.updateTable, Keyed.get?_insert] at found
    split at found
    · rename_i same
      cases found
      rw [keeps, ← same]
      cases known : Keyed.get? name schema with
      | none => exact ⟨rfl, preserves _ (InferredTable.consistent_named name)⟩
      | some table => exact ⟨consistent.named known, preserves _ (consistent.tables known)⟩
    · exact ⟨consistent.named found, consistent.tables found⟩
  exact ⟨Keyed.ordered_insert consistent.ordered _ _, fun known => (found known).1,
    fun known => (found known).2⟩

/-- A schema stays consistent when a column is used. -/
theorem Consistent.addUsage {schema : InferredSchema} (consistent : schema.Consistent)
    (site : Location) (usage : ColumnUsage) : (schema.addUsage site usage).Consistent :=
  consistent.updateTable usage.table (fun _ => rfl) fun _ whole =>
    (whole.addSite site).updateColumn usage.column (InferredColumn.use_name site usage)

/-- What a list of statements says about the database is consistent. -/
theorem consistent_ofStatements (statements : List SourceStatement) :
    (ofStatements statements).Consistent := by
  refine ofStatements_induction consistent_empty ?_ ?_ statements
  · intro schema name site consistent
    exact consistent.updateTable name (fun _ => rfl) fun _ table => table.addSite site
  · intro schema site usage consistent
    exact consistent.addUsage site usage

end InferredSchema

end SchemaDrift
