import SchemaDrift.Proofs.Catalog.Capture
import SchemaDrift.Proofs.Ddl.Effect

namespace SchemaDrift

/-- A catalog that became another by having one table in place of what was there under its name. -/
structure Catalog.Rewrites (catalog changed : Catalog) (live : LiveTable) : Prop where
  placed : changed.WellPlaced
  schema : changed.schema = catalog.schema
  faults : changed.faults = catalog.faults
  available : changed.available = catalog.available
  latency : changed.latency = catalog.latency
  get? : ∀ key, changed.tables.get? key =
    if qualifiedName catalog.schema live.name = key then some live else catalog.tables.get? key

namespace Catalog

variable {catalog changed : Catalog}

/-- Under its name the catalog has the new table, and under every other one what it had. -/
theorem Rewrites.table? {live : LiveTable} (rewrites : catalog.Rewrites changed live)
    (name : String) :
    changed.table? name = if live.name = name then some live else catalog.table? name := by
  rw [Catalog.table?, rewrites.schema, rewrites.get?]
  simp only [qualifiedName_inj, Catalog.table?]

/-- A table may be put under its own name. -/
theorem WellPlaced.rewrites (placed : catalog.WellPlaced) (live : LiveTable)
    (log : List BatchRecord) :
    catalog.Rewrites { catalog with
      tables := catalog.tables.insert (qualifiedName catalog.schema live.name) live, log } live where
  placed :=
    { ordered := Keyed.ordered_insert placed.ordered _ _
      name_eq := by
        intro name table found
        rw [Catalog.table?, Keyed.get?_insert] at found
        split at found
        · rename_i same
          cases found
          exact qualifiedName_inj.mp same
        · exact placed.name_eq found }
  schema := rfl
  faults := rfl
  available := rfl
  latency := rfl
  get? key := Keyed.get?_insert _ _ _ _

/-- A catalog that is made of tables holds them in its own schema. -/
theorem wellPlaced_ofTables (schema : String) (latency : Span) (tables : List LiveTable) :
    (ofTables schema latency tables).WellPlaced := by
  have nothing : (empty schema latency).WellPlaced :=
    ⟨Keyed.ordered_nil, fun found => by cases found⟩
  exact List.foldlRecOn tables addTable nothing fun catalog placed live _ =>
    (placed.rewrites live catalog.log).placed

theorem execute_createTable (placed : catalog.WellPlaced) {table : Identifier}
    {columns : List ColumnDefinition} {limit : Span}
    (parses : (DdlStatement.createTable table columns).Parses)
    (missing : catalog.table? table.name = none)
    (executed : catalog.execute [(DdlStatement.createTable table columns).toDdl] limit =
      (changed, none)) :
    catalog.Rewrites changed (Definition.created table columns) := by
  rcases execute_effect parses executed with ⟨tables, ran, rfl⟩
  have absent : catalog.tables.has (qualifiedName catalog.schema table.name) = false := by
    rw [Keyed.has, ← Catalog.table?, missing]
    rfl
  rw [Definition.run_createTable, absent] at ran
  cases ran
  rw [← Definition.created_name table columns]
  exact placed.rewrites _ _

theorem execute_addColumn (placed : catalog.WellPlaced) {table : Identifier}
    {column : ColumnDefinition} {limit : Span}
    (parses : (DdlStatement.addColumn table column).Parses)
    (executed : catalog.execute [(DdlStatement.addColumn table column).toDdl] limit =
      (changed, none)) :
    ∃ live, catalog.table? table.name = some live ∧
      catalog.Rewrites changed (if (live.column? column.name.name).isSome then live
        else { live with columns := live.columns ++ [column.live] }) := by
  rcases execute_effect parses executed with ⟨tables, ran, rfl⟩
  rw [Definition.run_addColumn, ← Catalog.table?] at ran
  cases known : catalog.table? table.name with
  | none => simp [known] at ran
  | some live =>
      refine ⟨live, rfl, ?_⟩
      simp only [known, Except.ok.injEq] at ran
      have name : (if (live.column? column.name.name).isSome then live
          else { live with columns := live.columns ++ [column.live] }).name = table.name := by
        rw [← placed.name_eq known]
        split <;> rfl
      rw [← ran, ← name]
      exact placed.rewrites _ _

theorem execute_alterColumnType (placed : catalog.WellPlaced) {table column : Identifier}
    {type previous : LogicalType} {limit : Span}
    (parses : (DdlStatement.alterColumnType table column type previous).Parses)
    (executed : catalog.execute
      [(DdlStatement.alterColumnType table column type previous).toDdl] limit = (changed, none)) :
    ∃ live, catalog.table? table.name = some live ∧ (live.column? column.name).isSome ∧
      catalog.Rewrites changed
        { live with columns := Definition.setType column.name type.toSql live.columns } := by
  rcases execute_effect parses executed with ⟨tables, ran, rfl⟩
  rw [Definition.run_alterColumnType, ← Catalog.table?] at ran
  cases known : catalog.table? table.name with
  | none => simp [known] at ran
  | some live =>
      simp only [known] at ran
      split at ran
      · rename_i present
        refine ⟨live, rfl, present, ?_⟩
        cases ran
        rw [← placed.name_eq known]
        exact placed.rewrites
          { live with columns := Definition.setType column.name type.toSql live.columns } _
      · cases ran

end Catalog

namespace Introspection

variable {reading : Introspection} {catalog changed : Catalog} {live : LiveTable}

/-- A snapshot shows the table that was changed, and every other one as before. -/
theorem table?_of_rewrites (placed : catalog.WellPlaced) (same : reading.schema = catalog.schema)
    (rewrites : catalog.Rewrites changed live) {snapshot healed : Snapshot}
    (captured : reading.capture catalog = .ok snapshot)
    (recaptured : reading.capture changed = .ok healed) (name : String) :
    healed.table? name =
      if live.name = name ∧ isInternal name = false then some live else snapshot.table? name := by
  rw [table?_of_capture rewrites.placed (same.trans rewrites.schema.symm) recaptured,
    table?_of_capture placed same captured, rewrites.table?]
  cases isInternal name <;> simp

/-- A catalog with one table changed can be read when nothing is told to go wrong with the table. -/
theorem exists_capture_of_rewrites (same : reading.schema = catalog.schema)
    (rewrites : catalog.Rewrites changed live) {snapshot : Snapshot} (captured : reading.capture catalog = .ok snapshot)
    (untold : catalog.faults.get? (qualifiedName catalog.schema live.name) = none) :
    ∃ healed, reading.capture changed = .ok healed := by
  rcases (exists_capture_iff same).mp ⟨snapshot, captured⟩ with ⟨inTime, available, others⟩
  refine (exists_capture_iff (same.trans rewrites.schema.symm)).mpr ⟨?_, ?_, ?_⟩
  · rw [rewrites.latency]
    exact inTime
  · rw [rewrites.available]
    exact available
  · intro name visible known
    rw [rewrites.faults, rewrites.schema]
    rw [rewrites.table?] at known
    split at known
    · rename_i equal
      rw [← equal]
      exact untold
    · exact others name visible known

end Introspection

end SchemaDrift
