import SchemaDrift.Proofs.Catalog.Capture
import SchemaDrift.Proofs.Ddl.Effect

namespace SchemaDrift

namespace LiveTable

def indexNames (table : LiveTable) : List String := table.indexes.map (·.name)

/-- The table with a column at its end, unless it has one of that name. -/
def withColumn (table : LiveTable) (column : LiveColumn) : LiveTable :=
  if (table.column? column.name).isSome then table
  else { table with columns := table.columns ++ [column] }

/-- The table with the type of a column changed. -/
def retype (table : LiveTable) (column written : String) : LiveTable :=
  { table with columns := Definition.setType column written table.columns }

def withIndex (table : LiveTable) (name : String) (columns : List String) : LiveTable :=
  { table with indexes := table.indexes ++ [⟨name, columns, false, false⟩] }

/-- The column for an index, which the table must have. -/
def indexable (table : LiveTable) (column : Identifier) : Except DefinitionError String :=
  if (table.column? column.name).isSome then .ok column.name
  else .error (.indexedColumnMissing column.name)

end LiveTable

namespace DdlStatement

/-- The name under which a schema keeps the table of a statement. -/
def key (schema : String) (statement : DdlStatement) : String :=
  qualifiedName schema statement.table.name

/-- The statement asks for an index of a name that is taken, and so for nothing. -/
def isTaken (tables : Keyed LiveTable) : DdlStatement → Bool
  | createIndex name _ _ => Definition.hasIndex tables name.name
  | _ => false

/-- What a statement makes of its own table, or of the lack of it. -/
def rewrite : DdlStatement → Option LiveTable → Except DefinitionError LiveTable
  | createTable table columns, none => .ok (Definition.created table columns)
  | createTable _ _, some live => .ok live
  | addColumn _ column, some live => .ok (live.withColumn column.live)
  | alterColumnType table column type _, some live =>
    if (live.column? column.name).isSome then .ok (live.retype column.name type.toSql)
    else .error (.columnMissing column.name table.name)
  | createIndex name _ columns, some live =>
    (columns.mapM live.indexable).map (live.withIndex name.name)
  | statement, none => .error (.relationMissing statement.table.name)

/-- The table that takes the place of the statement's own, if the statement asks for anything. -/
def effect (schema : String) (tables : Keyed LiveTable) (statement : DdlStatement) :
    Except DefinitionError (Option LiveTable) :=
  if statement.isTaken tables then .ok none
  else (statement.rewrite (tables.get? (statement.key schema))).map some

/-- The tables with another in the place of the statement's own. -/
def place (schema : String) (tables : Keyed LiveTable) (statement : DdlStatement) :
    Option LiveTable → Keyed LiveTable
  | none => tables
  | some live => tables.insert (statement.key schema) live

/-- The names of the indexes that a statement adds to its own table. -/
def newIndexes : DdlStatement → Option LiveTable → List String
  | createTable table columns, none =>
    if columns.any (·.primaryKey) then [table.name ++ "_pkey"] else []
  | createIndex name _ _, _ => [name.name]
  | _, _ => []

/-- The names of the indexes that a statement asks for and that are not there: none for a table that
exists, or for an index whose name is taken. -/
def wanted (schema : String) (tables : Keyed LiveTable) (statement : DdlStatement) : List String :=
  if statement.isTaken tables then []
  else statement.newIndexes (tables.get? (statement.key schema))

end DdlStatement

namespace Definition

theorem hasIndex_iff {tables : Keyed LiveTable} (ordered : tables.Ordered) (name : String) :
    hasIndex tables name = true ↔
      ∃ key live, tables.get? key = some live ∧ name ∈ live.indexNames := by
  simp only [hasIndex, List.any_eq_true, beq_iff_eq, LiveTable.indexNames, List.mem_map]
  constructor
  · rintro ⟨live, present, named⟩
    obtain ⟨key, found⟩ := Keyed.exists_get?_of_mem_values ordered present
    exact ⟨key, live, found, named⟩
  · rintro ⟨key, live, found, named⟩
    exact ⟨live, Keyed.mem_values_of_get? found, named⟩

/-- A table that takes the place of another brings the names of the indexes that it has more. -/
theorem hasIndex_insert_iff {tables : Keyed LiveTable} (ordered : tables.Ordered) {key : String}
    {live : LiveTable} {added : List String}
    (grown : live.indexNames = ((tables.get? key).map (·.indexNames)).getD [] ++ added)
    (name : String) :
    hasIndex (tables.insert key live) name = true ↔
      hasIndex tables name = true ∨ name ∈ added := by
  rw [hasIndex_iff ordered, hasIndex_iff (Keyed.ordered_insert ordered _ _)]
  simp only [Keyed.get?_insert]
  constructor
  · rintro ⟨other, found, present, named⟩
    split at present
    · cases present
      rw [grown, List.mem_append] at named
      refine named.imp_left fun before => ?_
      cases old : tables.get? key with
      | none => simp [old] at before
      | some table => exact ⟨key, table, old, by simpa [old] using before⟩
    · exact .inl ⟨other, found, present, named⟩
  · rintro (⟨other, found, present, named⟩ | new)
    · by_cases same : key = other
      · refine ⟨other, live, if_pos same, ?_⟩
        rw [grown, same, present]
        exact List.mem_append_left _ named
      · exact ⟨other, found, by rw [if_neg same, present], named⟩
    · exact ⟨key, live, if_pos rfl, by rw [grown]; exact List.mem_append_right _ new⟩

end Definition

namespace DdlStatement

variable {schema : String} {tables : Keyed LiveTable}

/-- A statement has its effect on its own table and on no other. -/
theorem run_toSql (ordered : tables.Ordered) (statement : DdlStatement) :
    Definition.run schema tables statement.toSql =
      (statement.effect schema tables).map (statement.place schema tables) := by
  cases statement with
  | createTable table columns =>
      rw [Definition.run_createTable, effect, Keyed.has]
      cases known : tables.get? (qualifiedName schema table.name) with
      | none => simp [isTaken, key, DdlStatement.table, known, rewrite, place, Except.map]
      | some live =>
          simp [isTaken, key, DdlStatement.table, known, rewrite, place, Except.map,
            Keyed.insert_of_get? ordered known]
  | addColumn table column =>
      have name : column.live.name = column.name.name := rfl
      rw [Definition.run_addColumn, effect]
      cases known : tables.get? (qualifiedName schema table.name) with
      | none => simp [isTaken, key, DdlStatement.table, known, rewrite, Except.map]
      | some live =>
          simp [isTaken, key, DdlStatement.table, known, rewrite, place, Except.map,
            LiveTable.withColumn, name]
  | alterColumnType table column type previous =>
      rw [Definition.run_alterColumnType, effect]
      cases known : tables.get? (qualifiedName schema table.name) with
      | none => simp [isTaken, key, DdlStatement.table, known, rewrite, Except.map]
      | some live =>
          by_cases present : (live.column? column.name).isSome <;>
            simp [isTaken, key, DdlStatement.table, known, rewrite, place, Except.map, present,
              LiveTable.retype]
  | createIndex name table columns =>
      have index : Definition.indexNameOf (some [name.toSql]) table.name = name.name :=
        name.folded_toSql
      rw [toSql, Definition.run, Definition.createIndex, Definition.resolve_toSql, effect, isTaken]
      simp only [index, if_true]
      by_cases taken : Definition.hasIndex tables name.name = true
      · simp [taken, place, Except.map, pure, Except.pure]
      · simp only [taken, Bool.false_eq_true, if_false]
        cases known : tables.get? (qualifiedName schema table.name) with
        | none =>
            simp [key, DdlStatement.table, known, rewrite, Except.map, throw, throwThe,
              MonadExceptOf.throw]
        | some live =>
            have indexed : (columns.map fun column =>
                (⟨.column [column.toSql], ""⟩ : Sql.IndexColumn)).mapM
                  (Definition.indexedColumn live) = columns.mapM live.indexable := by
              rw [List.mapM_map]
              exact congrArg (columns.mapM ·) (funext fun column =>
                Definition.indexedColumn_toSql live column)
            simp only [indexed, key, DdlStatement.table, known, rewrite]
            cases columns.mapM live.indexable <;>
              simp [place, Except.map, bind, Except.bind, pure, Except.pure, key,
                DdlStatement.table, LiveTable.withIndex]

/-- A statement adds to its own table the indexes that it names, and takes none away. -/
theorem indexNames_rewrite {statement : DdlStatement} {old : Option LiveTable} {live : LiveTable}
    (made : statement.rewrite old = .ok live) :
    live.indexNames = (old.map (·.indexNames)).getD [] ++ statement.newIndexes old := by
  cases statement with
  | createTable table columns =>
      cases old with
      | some before =>
          cases made
          exact (List.append_nil _).symm
      | none =>
          cases made
          have keyed : ((columns.filter (·.primaryKey)).map (·.name.name)).isEmpty =
              !columns.any (·.primaryKey) := by
            rw [Bool.eq_iff_iff]
            simp
          rw [Definition.created, Definition.withKey, keyed, newIndexes]
          cases columns.any (·.primaryKey) <;> rfl
  | addColumn table column =>
      cases old with
      | none => cases made
      | some before =>
          cases made
          simp only [LiveTable.withColumn, newIndexes, List.append_nil]
          split <;> rfl
  | alterColumnType table column type previous =>
      cases old with
      | none => cases made
      | some before =>
          rw [rewrite] at made
          split at made
          · cases made
            exact (List.append_nil _).symm
          · cases made
  | createIndex name table columns =>
      cases old with
      | none => cases made
      | some before =>
          rw [rewrite] at made
          cases indexed : columns.mapM before.indexable with
          | error error =>
              rw [indexed] at made
              cases made
          | ok names =>
              rw [indexed] at made
              cases made
              simp [LiveTable.withIndex, LiveTable.indexNames, newIndexes]

/-- Tables in the order of their names stay so when a statement has had its effect. -/
theorem ordered_place (ordered : tables.Ordered) (statement : DdlStatement)
    (placed : Option LiveTable) : (statement.place schema tables placed).Ordered := by
  cases placed with
  | none => exact ordered
  | some live => exact Keyed.ordered_insert ordered _ _

/-- After a statement there are the indexes that were there, and those that it wanted. -/
theorem hasIndex_place_iff (ordered : tables.Ordered) {statement : DdlStatement}
    {placed : Option LiveTable} (effective : statement.effect schema tables = .ok placed)
    (name : String) :
    Definition.hasIndex (statement.place schema tables placed) name = true ↔
      Definition.hasIndex tables name = true ∨ name ∈ statement.wanted schema tables := by
  rw [effect] at effective
  rw [wanted]
  split at effective
  · rename_i taken
    cases effective
    simp [place, taken]
  · rename_i free
    simp only [free, Bool.false_eq_true, if_false]
    cases made : statement.rewrite (tables.get? (statement.key schema)) with
    | error error =>
        rw [made] at effective
        cases effective
    | ok live =>
        rw [made] at effective
        cases effective
        exact Definition.hasIndex_insert_iff ordered (indexNames_rewrite made) name

/-- Statements on different tables have different places. -/
theorem key_ne {first second : DdlStatement} (different : first.table ≠ second.table) :
    first.key schema ≠ second.key schema := fun same =>
  different (Identifier.eq_of_name_eq (qualifiedName_inj.mp same))

/-- A statement has the same effect before and after one on another table that wants none of its
indexes. -/
theorem effect_place (ordered : tables.Ordered) {first second : DdlStatement}
    (different : first.table ≠ second.table)
    (apart : ∀ name ∈ first.wanted schema tables, name ∉ second.wanted schema tables)
    {placed : Option LiveTable} (effective : first.effect schema tables = .ok placed) :
    second.effect schema (first.place schema tables placed) = second.effect schema tables := by
  have own : (first.place schema tables placed).get? (second.key schema) =
      tables.get? (second.key schema) := by
    cases placed with
    | none => rfl
    | some live => rw [place, Keyed.get?_insert, if_neg (key_ne different)]
  have taken : second.isTaken (first.place schema tables placed) = second.isTaken tables := by
    cases second with
    | createIndex name table columns =>
        rw [Bool.eq_iff_iff, isTaken, isTaken, hasIndex_place_iff ordered effective]
        refine or_iff_left_of_imp fun new => ?_
        by_contra free
        exact apart _ new (by simp [wanted, isTaken, newIndexes, free])
    | _ => rfl
  rw [effect, effect, own, taken]

/-- The effects of statements on different tables take place in either order. -/
theorem place_comm (ordered : tables.Ordered) {first second : DdlStatement}
    (different : first.table ≠ second.table) (placed other : Option LiveTable) :
    second.place schema (first.place schema tables placed) other =
      first.place schema (second.place schema tables other) placed := by
  cases placed with
  | none => cases other <;> rfl
  | some live =>
      cases other with
      | none => rfl
      | some table => exact Keyed.insert_comm ordered (key_ne different) live table

end DdlStatement

end SchemaDrift
