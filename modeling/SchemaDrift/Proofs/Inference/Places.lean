import SchemaDrift.Proofs.Inference.Schema
import SchemaDrift.Proofs.Location

namespace SchemaDrift

namespace InferredColumn

/-- A column is used somewhere, and the places that filter it stand in order, each once. -/
structure Placed (column : InferredColumn) : Prop where
  used : column.usageSites ≠ []
  filtered : Location.Ordered column.filterSites

/-- A column that is used has a place for it. -/
theorem placed_use {column : InferredColumn} (filtered : Location.Ordered column.filterSites)
    (site : Location) (usage : ColumnUsage) : (column.use site usage).Placed := by
  have present : site ∈ Location.insertSorted site column.usageSites :=
    (Location.mem_insertSorted _ _ _).mpr (.inl rfl)
  unfold use
  simp only
  constructor
  · rw [(foldl_meet_keeps site _ _).2.1]
    split <;> exact List.ne_nil_of_mem present
  · rw [(foldl_meet_keeps site _ _).2.2]
    split
    · exact filtered.insertSorted site
    · exact filtered

end InferredColumn

/-- A table is referred to somewhere, and all its columns have their places. -/
structure InferredTable.Placed (table : InferredTable) : Prop where
  referred : table.sites ≠ []
  columns : ∀ {key column}, table.columns.get? key = some column → column.Placed

namespace InferredTable

/-- A table that is referred to at a place has a place for it. -/
theorem sites_addSite (table : InferredTable) (site : Location) :
    (table.addSite site).sites ≠ [] :=
  List.ne_nil_of_mem ((Location.mem_insertSorted _ _ _).mpr (.inl rfl))

/-- The columns of a table have their places still when one of them is used. -/
theorem Placed.updateColumn {table : InferredTable} (placed : table.Placed) (name : String)
    (site : Location) (usage : ColumnUsage) :
    (table.updateColumn name (InferredColumn.use site usage)).Placed where
  referred := placed.referred
  columns {key column} found := by
    rw [InferredTable.updateColumn, Keyed.get?_insert] at found
    split at found
    · cases found
      refine InferredColumn.placed_use ?_ site usage
      cases known : table.columns.get? name with
      | none => exact .nil
      | some column => exact (placed.columns known).filtered
    · exact placed.columns found

/-- A table that is referred to has its places, if its columns have. -/
theorem placed_addSite {table : InferredTable}
    (columns : ∀ {key column}, table.columns.get? key = some column → column.Placed)
    (site : Location) : (table.addSite site).Placed :=
  ⟨table.sites_addSite site, columns⟩

end InferredTable

namespace InferredSchema

def Placed (schema : InferredSchema) : Prop :=
  ∀ key table, Keyed.get? key schema = some table → table.Placed

/-- The tables of a schema have their places still when one of them is changed so that it has. -/
theorem Placed.updateTable {schema : InferredSchema} (placed : schema.Placed) (name : String)
    {change : InferredTable → InferredTable}
    (keeps : ∀ table : InferredTable,
      (∀ {key column}, table.columns.get? key = some column → column.Placed) →
        (change table).Placed) : (schema.updateTable name change).Placed := by
  intro key table found
  rw [InferredSchema.updateTable, Keyed.get?_insert] at found
  split at found
  · cases found
    refine keeps _ ?_
    cases known : Keyed.get? name schema with
    | none => exact fun found => by cases found
    | some table => exact (placed _ _ known).columns
  · exact placed _ _ found

/-- The tables of a schema have their places still when a column is used. -/
theorem Placed.addUsage {schema : InferredSchema} (placed : schema.Placed) (site : Location)
    (usage : ColumnUsage) : (schema.addUsage site usage).Placed :=
  placed.updateTable usage.table fun _ columns =>
    (InferredTable.placed_addSite columns site).updateColumn usage.column site usage

/-- What a list of statements says about the database has its places. -/
theorem placed_ofStatements (statements : List SourceStatement) :
    (ofStatements statements).Placed := by
  refine ofStatements_induction ?_ ?_ ?_ statements
  · exact fun _ _ found => by cases found
  · intro schema name site placed
    exact placed.updateTable name fun _ columns => InferredTable.placed_addSite columns site
  · intro schema site usage placed
    exact placed.addUsage site usage

/-- A table of which statements speak is referred to somewhere, and so are its columns. -/
theorem placed_of_mem {statements : List SourceStatement} {table : InferredTable}
    (present : table ∈ Keyed.values (ofStatements statements)) :
    table.sites ≠ [] ∧ ∀ column ∈ table.columns.values, column.Placed := by
  have consistent := consistent_ofStatements statements
  obtain ⟨key, found⟩ := Keyed.exists_get?_of_mem_values consistent.ordered present
  have placed := placed_ofStatements statements key table found
  refine ⟨placed.referred, ?_⟩
  intro column used
  obtain ⟨name, known⟩ := Keyed.exists_get?_of_mem_values (consistent.tables found).ordered used
  exact placed.columns known

end InferredSchema

end SchemaDrift
