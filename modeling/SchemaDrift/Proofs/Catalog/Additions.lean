import SchemaDrift.Proofs.Catalog.Change
import SchemaDrift.Proofs.Fix.Synthesis

namespace SchemaDrift

namespace Catalog

/-- The catalog after a statement was executed as what it is parsed as. -/
def apply (catalog : Catalog) (statement : DdlStatement) : Catalog :=
  match Definition.run catalog.schema catalog.tables statement.toSql with
  | .ok tables =>
    { catalog with tables, log := catalog.log ++ [⟨[statement.toDdl], true⟩] }
  | .error _ => { catalog with log := catalog.log ++ [⟨[statement.toDdl], false⟩] }

def HasTable (catalog : Catalog) (table : String) : Prop := (catalog.table? table).isSome

def HasColumn (catalog : Catalog) (table column : String) : Prop :=
  ∃ live, catalog.table? table = some live ∧ (live.column? column).isSome

/-- The catalog has a table with an index that starts with the column. -/
def Leads (catalog : Catalog) (table column : String) : Prop :=
  ∃ live, catalog.table? table = some live ∧ live.hasLeadingIndex column = true

instance (catalog : Catalog) (table : String) : Decidable (catalog.HasTable table) :=
  inferInstanceAs (Decidable (_ = true))

instance (catalog : Catalog) (table column : String) : Decidable (catalog.HasColumn table column) :=
  decidable_of_iff ((catalog.table? table).any fun live => (live.column? column).isSome) (by
    simp [HasColumn, Option.any_eq_true])

instance (catalog : Catalog) (table column : String) : Decidable (catalog.Leads table column) :=
  decidable_of_iff ((catalog.table? table).any (·.hasLeadingIndex column)) (by
    simp [Leads, Option.any_eq_true])

/-- The catalog has an index of the name on a table of whatever schema. -/
def HoldsIndex (catalog : Catalog) (name : String) : Prop :=
  ∃ key live, catalog.tables.get? key = some live ∧ ∃ index ∈ live.indexes, index.name = name

/-- A catalog that can be changed: its tables lie under their own names, it can be reached, and it is
told to fail on nothing. -/
structure Open (catalog : Catalog) : Prop where
  placed : catalog.WellPlaced
  available : catalog.available = true
  failing : catalog.failing = []
  faults : catalog.faults = []

/-- Whether an index of a name exists is known from the tables under their names. -/
theorem WellPlaced.hasIndex_iff {catalog : Catalog} (placed : catalog.WellPlaced) (name : String) :
    Definition.hasIndex catalog.tables name = true ↔ catalog.HoldsIndex name := by
  simp only [Definition.hasIndex, List.any_eq_true, beq_iff_eq, HoldsIndex]
  constructor
  · rintro ⟨live, present, index, listed, same⟩
    rcases Keyed.exists_get?_of_mem_values placed.ordered present with ⟨key, found⟩
    exact ⟨key, live, found, index, listed, same⟩
  · rintro ⟨key, live, found, index, listed, same⟩
    exact ⟨live, Keyed.mem_values_of_get? found, index, listed, same⟩

/-- A statement is executed as what it is parsed as, in time, where nothing is told to fail. -/
theorem execute_eq_apply {catalog : Catalog} (isOpen : catalog.Open) {statement : DdlStatement}
    (parses : statement.Parses) {limit : Span} (inTime : catalog.latency.nanos ≤ limit.nanos) :
    (catalog.execute [statement.toDdl] limit).1 = catalog.apply statement := by
  have spares : catalog.Spares statement.toDdl := by
    intro pattern present
    rw [isOpen.failing] at present
    cases present
  have ran : ∀ tables, catalog.attempt [statement.toDdl] limit = .ok tables ↔
      Definition.run catalog.schema catalog.tables statement.toSql = .ok tables := by
    intro tables
    rw [attempt_ok_iff, runText_ok_iff _ _ parses]
    exact ⟨fun facts => facts.2.2.2, fun run => ⟨inTime, isOpen.available, spares, run⟩⟩
  rw [execute, apply]
  cases attempted : catalog.attempt [statement.toDdl] limit with
  | ok tables => rw [(ran tables).mp attempted]
  | error error =>
      cases executed : Definition.run catalog.schema catalog.tables statement.toSql with
      | ok tables =>
          rw [(ran tables).mpr executed] at attempted
          cases attempted
      | error refused => rfl

/-- A statement that is executed changes nothing but the tables and the record of batches. -/
theorem apply_keeps (catalog : Catalog) (statement : DdlStatement) :
    (catalog.apply statement).schema = catalog.schema ∧
      (catalog.apply statement).latency = catalog.latency ∧
      (catalog.apply statement).available = catalog.available ∧
      (catalog.apply statement).failing = catalog.failing ∧
      (catalog.apply statement).faults = catalog.faults := by
  rw [apply]
  split <;> exact ⟨rfl, rfl, rfl, rfl, rfl⟩

/-- A statement that is executed is written down. -/
theorem apply_log (catalog : Catalog) (statement : DdlStatement) :
    (catalog.apply statement).log.map (·.statements) =
      catalog.log.map (·.statements) ++ [[statement.toDdl]] := by
  rw [apply]
  split <;> simp

/-- The creation of a table leaves one of its name alone and makes it where there is none. -/
theorem apply_createTable {catalog : Catalog} (placed : catalog.WellPlaced) (table : Identifier)
    (columns : List ColumnDefinition) :
    (catalog.HasTable table.name ∧
      (catalog.apply (.createTable table columns)).tables = catalog.tables) ∨
    (catalog.table? table.name = none ∧
      catalog.Rewrites (catalog.apply (.createTable table columns))
        (Definition.created table columns)) := by
  rw [apply, Definition.run_createTable, Keyed.has, ← Catalog.table?]
  cases known : catalog.table? table.name with
  | some live =>
      refine .inl ⟨?_, rfl⟩
      rw [HasTable, known]
      rfl
  | none =>
      refine .inr ⟨rfl, ?_⟩
      rw [← Definition.created_name table columns]
      exact placed.rewrites _ _

/-- The addition of a column takes place where the table is, and leaves a column of its name
alone. -/
theorem apply_addColumn {catalog : Catalog} (placed : catalog.WellPlaced) (table : Identifier)
    (column : ColumnDefinition) :
    (catalog.table? table.name = none ∧
      (catalog.apply (.addColumn table column)).tables = catalog.tables) ∨
    ∃ live, catalog.table? table.name = some live ∧
      catalog.Rewrites (catalog.apply (.addColumn table column))
        (if (live.column? column.name.name).isSome then live
          else { live with columns := live.columns ++ [column.live] }) := by
  rw [apply, Definition.run_addColumn, ← Catalog.table?]
  cases known : catalog.table? table.name with
  | none => exact .inl ⟨rfl, rfl⟩
  | some live =>
      refine .inr ⟨live, rfl, ?_⟩
      have name : (if (live.column? column.name.name).isSome then live
          else { live with columns := live.columns ++ [column.live] }).name = table.name := by
        rw [← placed.name_eq known]
        split <;> rfl
      rw [← name]
      exact placed.rewrites _ _

/-- The creation of an index takes place where the column is, unless some table has an index of its
name. -/
theorem apply_createIndex {catalog : Catalog} (placed : catalog.WellPlaced)
    (name table column : Identifier) :
    ((catalog.HoldsIndex name.name ∨ ¬ catalog.HasColumn table.name column.name) ∧
      (catalog.apply (.createIndex name table [column])).tables = catalog.tables) ∨
    ∃ live, ¬ catalog.HoldsIndex name.name ∧ catalog.table? table.name = some live ∧
      (live.column? column.name).isSome ∧
      catalog.Rewrites (catalog.apply (.createIndex name table [column]))
        { live with indexes := live.indexes ++ [⟨name.name, [column.name], false, false⟩] } := by
  rw [apply, Definition.run_createIndex, ← Catalog.table?]
  by_cases held : catalog.HoldsIndex name.name
  · rw [if_pos ((placed.hasIndex_iff _).mpr held)]
    exact .inl ⟨.inl held, rfl⟩
  · rw [if_neg fun taken => held ((placed.hasIndex_iff _).mp taken)]
    cases known : catalog.table? table.name with
    | none =>
        refine .inl ⟨.inr ?_, rfl⟩
        rintro ⟨live, found, _⟩
        rw [known] at found
        cases found
    | some live =>
        by_cases there : (live.column? column.name).isSome
        · refine .inr ⟨live, held, rfl, there, ?_⟩
          simp only [there, if_true]
          rw [← placed.name_eq known]
          exact placed.rewrites
            { live with indexes := live.indexes ++ [⟨name.name, [column.name], false, false⟩] } _
        · refine .inl ⟨.inr ?_, ?_⟩
          · rintro ⟨other, found, present⟩
            rw [known] at found
            cases found
            exact there present
          · simp only [there, Bool.false_eq_true, if_false]

/-- A catalog that became another without the loss of a table, a column or an index. -/
structure Grows (before after : Catalog) : Prop where
  tables : ∀ {table}, before.HasTable table → after.HasTable table
  columns : ∀ {table column}, before.HasColumn table column → after.HasColumn table column
  leads : ∀ {table column}, before.Leads table column → after.Leads table column
  indexes : ∀ {name}, before.HoldsIndex name → after.HoldsIndex name

namespace Grows

/-- A catalog loses nothing where nothing happens. -/
theorem refl (catalog : Catalog) : Grows catalog catalog := ⟨id, id, id, id⟩

/-- A catalog loses nothing in two steps that lose nothing. -/
theorem trans {first middle last : Catalog} (left : Grows first middle)
    (right : Grows middle last) : Grows first last where
  tables known := right.tables (left.tables known)
  columns known := right.columns (left.columns known)
  leads known := right.leads (left.leads known)
  indexes known := right.indexes (left.indexes known)

theorem of_tables {before after : Catalog} (schema : after.schema = before.schema)
    (same : after.tables = before.tables) : Grows before after := by
  have shown : ∀ name, after.table? name = before.table? name := by
    intro name
    rw [table?, table?, schema, same]
  constructor
  · intro table known
    rwa [HasTable, shown]
  · rintro table column ⟨live, known⟩
    exact ⟨live, by rwa [shown]⟩
  · rintro table column ⟨live, known⟩
    exact ⟨live, by rwa [shown]⟩
  · rintro name ⟨key, live, known⟩
    exact ⟨key, live, by rwa [same]⟩

/-- A catalog loses nothing when the table that takes the place of another has all that it has. -/
theorem of_rewrites {before after : Catalog} {live : LiveTable}
    (rewrites : before.Rewrites after live)
    (kept : ∀ old, before.table? live.name = some old →
      (∀ column, (old.column? column).isSome → (live.column? column).isSome) ∧
        old.indexes ⊆ live.indexes) : Grows before after := by
  have shown : ∀ {name old}, before.table? name = some old → ∃ other,
      after.table? name = some other ∧
        (∀ column, (old.column? column).isSome → (other.column? column).isSome) ∧
        old.indexes ⊆ other.indexes := by
    intro name old known
    rw [rewrites.table?]
    by_cases same : live.name = name
    · rw [if_pos same]
      exact ⟨live, rfl, kept old (same ▸ known)⟩
    · rw [if_neg same]
      exact ⟨old, known, fun _ present => present, List.Subset.refl _⟩
  constructor
  · intro table known
    rcases Option.isSome_iff_exists.mp known with ⟨old, found⟩
    rcases shown found with ⟨other, present, _⟩
    rw [HasTable, present]
    rfl
  · rintro table column ⟨old, found, known⟩
    rcases shown found with ⟨other, present, columns, _⟩
    exact ⟨other, present, columns column known⟩
  · rintro table column ⟨old, found, known⟩
    rcases shown found with ⟨other, present, _, indexes⟩
    rw [LiveTable.hasLeadingIndex, List.any_eq_true] at known
    rcases known with ⟨index, listed, first⟩
    exact ⟨other, present, List.any_eq_true.mpr ⟨index, indexes listed, first⟩⟩
  · rintro name ⟨key, old, found, index, listed, same⟩
    by_cases own : qualifiedName before.schema live.name = key
    · subst own
      exact ⟨_, live, by rw [rewrites.get?, if_pos rfl], index, (kept old found).2 listed, same⟩
    · exact ⟨key, old, by rw [rewrites.get?, if_neg own, found], index, listed, same⟩

end Grows

/-- A statement that is executed leaves the catalog open where its tables stay in their places. -/
theorem Open.apply {catalog : Catalog} (isOpen : catalog.Open) (statement : DdlStatement)
    (placed : (catalog.apply statement).WellPlaced) : (catalog.apply statement).Open := by
  rcases apply_keeps catalog statement with ⟨_, _, available, failing, faults⟩
  exact ⟨placed, available.trans isOpen.available, failing.trans isOpen.failing,
    faults.trans isOpen.faults⟩

/-- A catalog whose tables did not change has them in their places. -/
theorem WellPlaced.of_tables {before after : Catalog} (placed : before.WellPlaced)
    (schema : after.schema = before.schema) (same : after.tables = before.tables) :
    after.WellPlaced := by
  constructor
  · rw [same]
    exact placed.ordered
  · intro name table found
    rw [Catalog.table?, schema, same] at found
    exact placed.name_eq found

end Catalog

/-- The statements that only add: a table, a column, or an index on one column. -/
inductive DdlStatement.Addition : DdlStatement → Prop where
  | table (name : Identifier) (columns : List ColumnDefinition) :
      Addition (.createTable name columns)
  | column (table : Identifier) (definition : ColumnDefinition) :
      Addition (.addColumn table definition)
  | index (name table column : Identifier) : Addition (.createIndex name table [column])

namespace Catalog

/-- A statement that only adds leaves the catalog open and takes nothing away. -/
theorem Open.grows {catalog : Catalog} (isOpen : catalog.Open) {statement : DdlStatement}
    (addition : statement.Addition) :
    (catalog.apply statement).Open ∧ catalog.Grows (catalog.apply statement) := by
  have schema := (apply_keeps catalog statement).1
  have unchanged : (catalog.apply statement).tables = catalog.tables →
      (catalog.apply statement).Open ∧ catalog.Grows (catalog.apply statement) := fun same =>
    ⟨isOpen.apply _ (isOpen.placed.of_tables schema same), .of_tables schema same⟩
  cases addition with
  | table name columns =>
      rcases apply_createTable isOpen.placed name columns with ⟨_, same⟩ | ⟨missing, rewrites⟩
      · exact unchanged same
      · refine ⟨isOpen.apply _ rewrites.placed, .of_rewrites rewrites ?_⟩
        intro old known
        rw [Definition.created_name, missing] at known
        cases known
  | column table definition =>
      rcases apply_addColumn isOpen.placed table definition with ⟨_, same⟩ | ⟨live, known, rewrites⟩
      · exact unchanged same
      · refine ⟨isOpen.apply _ rewrites.placed, .of_rewrites rewrites ?_⟩
        have name := isOpen.placed.name_eq known
        split
        · intro old found
          rw [name, known] at found
          cases found
          exact ⟨fun _ present => present, List.Subset.refl _⟩
        · intro old found
          rw [name, known] at found
          cases found
          refine ⟨?_, List.Subset.refl _⟩
          intro column present
          rw [LiveTable.column?] at present ⊢
          rw [List.find?_append, Option.isSome_or, present, Bool.true_or]
  | index name table column =>
      rcases apply_createIndex isOpen.placed name table column with
        ⟨_, same⟩ | ⟨live, _, known, _, rewrites⟩
      · exact unchanged same
      · refine ⟨isOpen.apply _ rewrites.placed, .of_rewrites rewrites ?_⟩
        have name := isOpen.placed.name_eq known
        intro old found
        rw [name, known] at found
        cases found
        exact ⟨fun _ present => present, List.subset_append_left _ _⟩

variable {catalog : Catalog}

/-- A catalog whose tables did not change shows the same under every name. -/
theorem table?_of_tables {before after : Catalog} (schema : after.schema = before.schema)
    (same : after.tables = before.tables) (name : String) :
    after.table? name = before.table? name := by
  rw [table?, table?, schema, same]

/-- After the creation of a table there is one of its name, and one that is new has all its
columns. -/
theorem Open.createTable_has (isOpen : catalog.Open) (name : Identifier)
    (columns : List ColumnDefinition) :
    (catalog.apply (.createTable name columns)).HasTable name.name ∧
      (catalog.table? name.name = none → ∀ definition ∈ columns,
        (catalog.apply (.createTable name columns)).HasColumn name.name definition.name.name) := by
  rcases apply_createTable isOpen.placed name columns with ⟨known, _⟩ | ⟨missing, rewrites⟩
  · refine ⟨(isOpen.grows (.table name columns)).2.tables known, ?_⟩
    intro missing
    rw [HasTable, missing] at known
    cases known
  · have shown : (catalog.apply (.createTable name columns)).table? name.name =
        some (Definition.created name columns) := by
      rw [rewrites.table?, if_pos (Definition.created_name name columns)]
    refine ⟨by rw [HasTable, shown]; rfl, ?_⟩
    intro _ definition listed
    refine ⟨_, shown, ?_⟩
    have types := Definition.column?_created name columns definition.name.name
    rw [← Option.isSome_map, types, Option.isSome_map, List.find?_isSome]
    exact ⟨definition, listed, beq_self_eq_true _⟩

/-- After the addition of a column to a table that is there, the table has the column. -/
theorem Open.addColumn_has (isOpen : catalog.Open) {table : Identifier}
    (known : catalog.HasTable table.name) (definition : ColumnDefinition) :
    (catalog.apply (.addColumn table definition)).HasColumn table.name definition.name.name := by
  rcases apply_addColumn isOpen.placed table definition with
    ⟨missing, _⟩ | ⟨live, found, rewrites⟩
  · rw [HasTable, missing] at known
    cases known
  · have name := isOpen.placed.name_eq found
    refine ⟨_, by rw [rewrites.table?, if_pos (by split <;> exact name)], ?_⟩
    split
    · assumption
    · rw [LiveTable.column?, List.find?_append, Option.isSome_or, Bool.or_eq_true]
      exact .inr (List.find?_isSome.mpr ⟨_, List.mem_singleton_self _, beq_self_eq_true _⟩)

/-- After the creation of an index on a column that is there, an index of its name exists; it leads
with the column where the name was free. -/
theorem Open.createIndex_has (isOpen : catalog.Open) {name table column : Identifier}
    (known : catalog.HasColumn table.name column.name) :
    (catalog.apply (.createIndex name table [column])).HoldsIndex name.name ∧
      (¬ catalog.HoldsIndex name.name →
        (catalog.apply (.createIndex name table [column])).Leads table.name column.name) := by
  rcases apply_createIndex isOpen.placed name table column with
    ⟨reason, _⟩ | ⟨live, _, found, _, rewrites⟩
  · have held := reason.resolve_right fun absent => absent known
    exact ⟨(isOpen.grows (.index name table column)).2.indexes held, fun free => absurd held free⟩
  · have shown : (catalog.apply (.createIndex name table [column])).table? table.name = some
        { live with indexes := live.indexes ++ [⟨name.name, [column.name], false, false⟩] } := by
      rw [rewrites.table?, if_pos (isOpen.placed.name_eq found)]
    constructor
    · rw [Catalog.table?] at shown
      exact ⟨_, _, shown, ⟨name.name, [column.name], false, false⟩, by simp, rfl⟩
    · intro _
      exact ⟨_, shown, by simp [LiveTable.hasLeadingIndex]⟩

/-- Where a table takes the place of one that was there, there are tables of the same names. -/
theorem Rewrites.hasTable_iff {before after : Catalog} {live old : LiveTable}
    (rewrites : before.Rewrites after live) (known : before.table? live.name = some old)
    (table : String) : after.HasTable table ↔ before.HasTable table := by
  rw [HasTable, HasTable, rewrites.table?]
  by_cases same : live.name = table
  · rw [if_pos same, ← same, known]
    rfl
  · rw [if_neg same]

/-- A table that is there after a statement was there before, or the statement created it. -/
theorem Open.table_of_apply (isOpen : catalog.Open) {statement : DdlStatement}
    (addition : statement.Addition) {table : String}
    (known : (catalog.apply statement).HasTable table) :
    catalog.HasTable table ∨
      ∃ name columns, statement = .createTable name columns ∧ name.name = table := by
  have schema := (apply_keeps catalog statement).1
  have unchanged : (catalog.apply statement).tables = catalog.tables → catalog.HasTable table := by
    intro same
    rwa [HasTable, table?_of_tables schema same] at known
  cases addition with
  | table name columns =>
      rcases apply_createTable isOpen.placed name columns with ⟨_, same⟩ | ⟨_, rewrites⟩
      · exact .inl (unchanged same)
      · by_cases same : name.name = table
        · exact .inr ⟨name, columns, rfl, same⟩
        · rw [HasTable, rewrites.table?, Definition.created_name, if_neg same] at known
          exact .inl known
  | column owner definition =>
      rcases apply_addColumn isOpen.placed owner definition with ⟨_, same⟩ | ⟨live, found, rewrites⟩
      · exact .inl (unchanged same)
      · refine .inl ((@Rewrites.hasTable_iff _ _ _ live rewrites ?_ table).mp known)
        rw [← found, ← isOpen.placed.name_eq found]
        split <;> rfl
  | index name owner column =>
      rcases apply_createIndex isOpen.placed name owner column with
        ⟨_, same⟩ | ⟨live, _, found, _, rewrites⟩
      · exact .inl (unchanged same)
      · refine .inl ((@Rewrites.hasTable_iff _ _ _ live rewrites ?_ table).mp known)
        rw [← found, ← isOpen.placed.name_eq found]

/-- What two catalogs differ in when one has an index on a column that the other lacks. -/
structure Indexes (before after : Catalog) (name table column : Identifier) : Prop where
  tables : ∀ {other}, after.HasTable other ↔ before.HasTable other
  columns : ∀ {other part}, after.HasColumn other part ↔ before.HasColumn other part
  indexes : ∀ {other}, after.HoldsIndex other → before.HoldsIndex other ∨ other = name.name
  leads : ∀ {other part}, after.Leads other part → before.Leads other part ∨
    (other = table.name ∧ part = column.name ∧ ¬ before.HoldsIndex name.name)

/-- The creation of an index adds nothing but the index. -/
theorem Open.indexes (isOpen : catalog.Open) (name table column : Identifier) :
    catalog.Indexes (catalog.apply (.createIndex name table [column])) name table column := by
  have schema := (apply_keeps catalog (.createIndex name table [column])).1
  rcases apply_createIndex isOpen.placed name table column with
    ⟨_, same⟩ | ⟨live, free, found, _, rewrites⟩
  · have shown := table?_of_tables schema same
    constructor
    · intro other
      rw [HasTable, HasTable, shown]
    · intro other part
      rw [HasColumn, HasColumn, shown]
    · rintro other ⟨key, known⟩
      rw [same] at known
      exact .inl ⟨key, known⟩
    · intro other part known
      rw [Leads, shown] at known
      exact .inl known
  · have owner := isOpen.placed.name_eq found
    have shown : ∀ {other now}, (catalog.apply (.createIndex name table [column])).table? other =
        some now → catalog.table? other = some now ∨ (other = table.name ∧
          now = { live with indexes := live.indexes ++ [⟨name.name, [column.name], false, false⟩] })
        := by
      intro other now known
      rw [rewrites.table?] at known
      split at known
      · rename_i same
        cases known
        exact .inr ⟨(same.symm.trans owner), rfl⟩
      · exact .inl known
    constructor
    · intro other
      exact rewrites.hasTable_iff (by rw [← found, ← owner]) other
    · intro other part
      constructor
      · rintro ⟨now, known, present⟩
        rcases shown known with before | ⟨same, rfl⟩
        · exact ⟨now, before, present⟩
        · exact ⟨live, same ▸ found, present⟩
      · exact (isOpen.grows (.index name table column)).2.columns
    · rintro other ⟨key, now, known, index, listed, same⟩
      rw [rewrites.get?] at known
      split at known
      · cases known
        rcases List.mem_append.mp listed with earlier | last
        · exact .inl ⟨_, live, found, index, earlier, same⟩
        · rw [List.mem_singleton] at last
          exact .inr (same ▸ last ▸ rfl)
      · exact .inl ⟨key, now, known, index, listed, same⟩
    · rintro other part ⟨now, known, first⟩
      rcases shown known with before | ⟨same, rfl⟩
      · exact .inl ⟨now, before, first⟩
      · rw [LiveTable.hasLeadingIndex, List.any_append, Bool.or_eq_true] at first
        rcases first with earlier | last
        · exact .inl ⟨live, same ▸ found, earlier⟩
        · simp only [List.any_cons, List.any_nil, Bool.or_false, List.head?_cons, beq_iff_eq,
            Option.some.injEq] at last
          exact .inr ⟨same, last.symm, free⟩

end Catalog

end SchemaDrift
