import SchemaDrift.Catalog.Execution
import SchemaDrift.Proofs.Ddl.Rendering
import SchemaDrift.Proofs.Keyed
import SchemaDrift.Proofs.Result

namespace SchemaDrift

/-- The column that a definition makes in a table. -/
def ColumnDefinition.live (column : ColumnDefinition) : LiveColumn where
  name := column.name.name
  type := if column.autoIncrement then .int else column.type.canonical
  declared :=
    if column.autoIncrement then "bigint" else String.ofList (column.type.spelledWith [])
  nullable := column.nullable && !column.primaryKey
  default := if column.autoIncrement then some "nextval()" else none

namespace Definition

/-- A name without a qualifier belongs to the schema. -/
theorem resolve_toSql (schema : String) (table : Identifier) :
    resolve schema [table.toSql] = (qualifiedName schema table.name, table.name) := by
  simp [resolve, Identifier.folded_toSql]

/-- A parsed definition makes its column. -/
theorem columnOf_toSql (column : ColumnDefinition) : columnOf column.toSql = column.live := by
  rcases column with ⟨name, type, nullable, primaryKey, autoIncrement⟩
  unfold columnOf ColumnDefinition.toSql ColumnDefinition.live
  have text := declaredType_toSql type
  have number : LogicalType.ofSpelling "bigint" = .int := by decide
  cases autoIncrement <;> cases primaryKey <;> cases nullable <;>
    simp [declaredType_bigserial, text.1, text.2, number, LiveColumn.ofDeclaration, applyOption,
      Identifier.folded_toSql]

/-- A parsed definition declares the key where the definition does. -/
theorem declaresKey_toSql (column : ColumnDefinition) :
    declaresKey column.toSql = column.primaryKey := by
  unfold declaresKey ColumnDefinition.toSql
  cases column.primaryKey <;> cases column.nullable <;> simp [isKeyOption]

def created (table : Identifier) (columns : List ColumnDefinition) : LiveTable :=
  withKey ⟨table.name, columns.map (·.live), [], []⟩
    ((columns.filter (·.primaryKey)).map (·.name.name))

/-- The table that a statement creates has the name of the statement. -/
theorem created_name (table : Identifier) (columns : List ColumnDefinition) :
    (created table columns).name = table.name := by
  unfold created withKey
  split <;> rfl

/-- The columns of a table that a statement creates have the types of their definitions. -/
theorem column?_created (table : Identifier) (columns : List ColumnDefinition) (name : String) :
    ((created table columns).column? name).map (·.type) =
      (columns.find? (·.name.name == name)).map (·.live.type) := by
  have plain : (columns.map (·.live)).find? (·.name == name) =
      (columns.find? (·.name.name == name)).map (·.live) := List.find?_map
  unfold created withKey LiveTable.column?
  split
  · rw [plain, Option.map_map]
    rfl
  · rename_i keyed
    have kept : ∀ (key : List String) (column : LiveColumn),
        (if key.contains column.name then { column with nullable := false } else column).name =
          column.name ∧
        (if key.contains column.name then { column with nullable := false } else column).type =
          column.type := by
      intro key column
      split <;> exact ⟨rfl, rfl⟩
    rw [List.find?_map, Option.map_map]
    simp only [Function.comp_def, kept]
    rw [plain, Option.map_map]
    rfl

/-- A column whose type is set is read as the type that was set. -/
theorem column?_setType {name : String} (written : String) {columns : List LiveColumn}
    (present : (columns.find? (·.name == name)).isSome) :
    ∃ column, (setType name written columns).find? (·.name == name) = some column ∧
      column.type = .ofSpelling (declaredType written).1 := by
  induction columns with
  | nil => cases present
  | cons column rest inductionHypothesis =>
      rw [setType]
      by_cases same : column.name = name
      · rw [if_pos same, List.find?_cons_of_pos (by simp [LiveColumn.ofDeclaration])]
        exact ⟨_, rfl, by simp only [LiveColumn.ofDeclaration]⟩
      · have unequal : (column.name == name) = false := beq_eq_false_iff_ne.mpr same
        simp only [List.find?_cons, unequal] at present
        simp only [if_neg same, List.find?_cons, unequal]
        exact inductionHypothesis present

/-- The columns of the key are those whose definitions declare it. -/
theorem keyColumns_toSql (columns : List ColumnDefinition) :
    keyColumns (columns.map (·.toSql)) [] =
      (columns.filter (·.primaryKey)).map (·.name.name) := by
  have names : ∀ column : ColumnDefinition, column.toSql.name.folded = column.name.name :=
    fun column => column.name.folded_toSql
  induction columns with
  | nil => rfl
  | cons column rest inductionHypothesis =>
      simp only [keyColumns, List.flatMap_nil, List.append_nil] at inductionHypothesis ⊢
      rw [List.map_cons, List.filter_cons, List.filter_cons, declaresKey_toSql]
      cases column.primaryKey <;> simp [inductionHypothesis, names]

/-- The creation of a table leaves one of its name alone, and makes it where there is none. -/
theorem run_createTable (schema : String) (tables : Keyed LiveTable) (table : Identifier)
    (columns : List ColumnDefinition) :
    run schema tables (DdlStatement.createTable table columns).toSql =
      .ok (if tables.has (qualifiedName schema table.name) then tables
        else tables.insert (qualifiedName schema table.name) (created table columns)) := by
  rw [DdlStatement.toSql, run, createTable, resolve_toSql, keyColumns_toSql]
  simp only [List.map_map, Function.comp_def, columnOf_toSql, if_true]
  split <;> rfl

/-- A column that is added leaves one of its name alone, and is the last one where there is none. -/
theorem run_addColumn (schema : String) (tables : Keyed LiveTable) (table : Identifier)
    (column : ColumnDefinition) :
    run schema tables (DdlStatement.addColumn table column).toSql =
      match tables.get? (qualifiedName schema table.name) with
      | none => .error (.relationMissing table.name)
      | some live => .ok (tables.insert (qualifiedName schema table.name)
          (if (live.column? column.name.name).isSome then live
            else { live with columns := live.columns ++ [column.live] })) := by
  rw [DdlStatement.toSql, run, alterTable, resolve_toSql]
  simp only
  cases tables.get? (qualifiedName schema table.name) with
  | none => rfl
  | some live =>
      have name : column.live.name = column.name.name := rfl
      by_cases present : (live.column? column.name.name).isSome <;>
        simp [changeTable, columnOf_toSql, name, present, bind, Except.bind, pure, Except.pure]

/-- A change of type takes place where the column is. -/
theorem run_alterColumnType (schema : String) (tables : Keyed LiveTable) (table column : Identifier)
    (type previous : LogicalType) :
    run schema tables (DdlStatement.alterColumnType table column type previous).toSql =
      match tables.get? (qualifiedName schema table.name) with
      | none => .error (.relationMissing table.name)
      | some live =>
        if (live.column? column.name).isSome then
          .ok (tables.insert (qualifiedName schema table.name)
            { live with columns := setType column.name type.toSql live.columns })
        else .error (.columnMissing column.name table.name) := by
  rw [DdlStatement.toSql, run, alterTable, resolve_toSql]
  simp only
  cases tables.get? (qualifiedName schema table.name) with
  | none => rfl
  | some live =>
      by_cases present : (live.column? column.name).isSome <;>
        simp [changeTable, Identifier.folded_toSql, present, bind, Except.bind, pure, Except.pure]

/-- A column of an index is found in the table under its name. -/
theorem indexedColumn_toSql (table : LiveTable) (column : Identifier) :
    indexedColumn table ⟨.column [column.toSql], ""⟩ =
      if (table.column? column.name).isSome then .ok column.name
      else .error (.indexedColumnMissing column.name) := by
  simp [indexedColumn, Identifier.folded_toSql]

/-- The creation of an index leaves one of its name alone, wherever it is, and makes it where there
is none. -/
theorem run_createIndex (schema : String) (tables : Keyed LiveTable) (name table column : Identifier) :
    run schema tables (DdlStatement.createIndex name table [column]).toSql =
      if hasIndex tables name.name then .ok tables
      else match tables.get? (qualifiedName schema table.name) with
      | none => .error (.relationMissing table.name)
      | some live =>
        if (live.column? column.name).isSome then
          .ok (tables.insert (qualifiedName schema table.name)
            { live with indexes := live.indexes ++ [⟨name.name, [column.name], false, false⟩] })
        else .error (.indexedColumnMissing column.name) := by
  rw [DdlStatement.toSql, run, createIndex, resolve_toSql]
  have index : indexNameOf (some [name.toSql]) table.name = name.name := name.folded_toSql
  simp only [index, if_true]
  by_cases taken : hasIndex tables name.name = true
  · simp [taken, pure, Except.pure]
  · simp only [taken, Bool.false_eq_true, if_false]
    cases tables.get? (qualifiedName schema table.name) with
    | none => rfl
    | some live =>
        by_cases present : (live.column? column.name).isSome <;>
          simp [indexedColumn_toSql, present, bind, Except.bind, pure, Except.pure]

end Definition

namespace Catalog

/-- No text that the catalog is told to fail on stands in a statement. -/
def Spares (catalog : Catalog) (text : String) : Prop :=
  ∀ pattern ∈ catalog.failing, Text.containsPart pattern.toList text.toList = false

/-- A parsed statement has its effect unless the catalog is told to fail on it. -/
theorem runText_ok_iff (catalog : Catalog) (tables : Keyed LiveTable) {statement : DdlStatement}
    (parses : statement.Parses) (changed : Keyed LiveTable) :
    catalog.runText tables statement.toDdl = .ok changed ↔
      catalog.Spares statement.toDdl ∧
        Definition.run catalog.schema tables statement.toSql = .ok changed := by
  have spares : catalog.failing.find? (fun pattern =>
      Text.containsPart pattern.toList statement.toDdl.toList) = none ↔
      catalog.Spares statement.toDdl := by
    simp [Spares, List.find?_eq_none]
  rw [runText, ← spares]
  cases catalog.failing.find? fun pattern =>
      Text.containsPart pattern.toList statement.toDdl.toList with
  | some pattern => simp
  | none =>
      rw [parses]
      simp only [List.foldlM_cons, List.foldlM_nil, Result.mapError_ok_iff, Result.bind_ok_iff,
        Result.pure_ok_iff, exists_eq_right, true_and]

/-- A batch takes effect in time, while the catalog can be reached, when its texts do one after the
other. -/
theorem attempt_ok_iff_runBatch (catalog : Catalog) (texts : List String) (limit : Span)
    (changed : Keyed LiveTable) :
    catalog.attempt texts limit = .ok changed ↔
      catalog.latency.nanos ≤ limit.nanos ∧ catalog.available = true ∧
        catalog.runBatch texts = .ok changed := by
  rw [attempt]
  by_cases late : limit.nanos < catalog.latency.nanos
  · simp [late, Nat.not_le.mpr late, Result.bind_ok_iff, Result.throw_ok_iff]
  · simp only [late, if_false, Nat.not_lt.mp late, true_and, checkAvailable]
    cases catalog.available with
    | false => simp [Result.check_bind_ok_iff]
    | true =>
        cases catalog.runBatch texts <;>
          simp [bind, Except.bind, pure, Except.pure, throw, throwThe, MonadExceptOf.throw]

/-- A batch of one text takes effect in time, while the catalog can be reached, when its text
does. -/
theorem attempt_ok_iff (catalog : Catalog) (text : String) (limit : Span)
    (changed : Keyed LiveTable) :
    catalog.attempt [text] limit = .ok changed ↔
      catalog.latency.nanos ≤ limit.nanos ∧ catalog.available = true ∧
        catalog.runText catalog.tables text = .ok changed := by
  have batch : catalog.runBatch [text] = catalog.runText catalog.tables text := by
    rw [runBatch, List.foldlM_cons]
    cases catalog.runText catalog.tables text <;> rfl
  rw [attempt_ok_iff_runBatch, batch]

/-- A batch takes effect with the tables that it makes, and is written down. -/
theorem execute_none_iff (catalog changed : Catalog) (texts : List String) (limit : Span) :
    catalog.execute texts limit = (changed, none) ↔
      ∃ tables, catalog.attempt texts limit = .ok tables ∧
        changed = { catalog with tables, log := catalog.log ++ [⟨texts, true⟩] } := by
  rw [execute]
  cases catalog.attempt texts limit with
  | error error => simp
  | ok tables => simp [eq_comm]

/-- A parsed statement that takes effect has the effect of what it is parsed as. -/
theorem execute_effect {catalog changed : Catalog} {statement : DdlStatement} {limit : Span}
    (parses : statement.Parses)
    (executed : catalog.execute [statement.toDdl] limit = (changed, none)) :
    ∃ tables, Definition.run catalog.schema catalog.tables statement.toSql = .ok tables ∧
      changed = { catalog with tables, log := catalog.log ++ [⟨[statement.toDdl], true⟩] } := by
  rcases (execute_none_iff _ _ _ _).mp executed with ⟨tables, attempted, same⟩
  have ran := ((attempt_ok_iff _ _ _ _).mp attempted).2.2
  exact ⟨tables, ((runText_ok_iff _ _ parses _).mp ran).2, same⟩

end Catalog

end SchemaDrift
