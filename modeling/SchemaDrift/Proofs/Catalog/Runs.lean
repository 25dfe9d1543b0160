import SchemaDrift.Proofs.Catalog.Additions

namespace SchemaDrift.Catalog

/-- The catalog after some statements were executed one after the other. -/
def applyAll (catalog : Catalog) (statements : List DdlStatement) : Catalog :=
  statements.foldl apply catalog

/-- The first of some statements is executed before the others. -/
theorem applyAll_cons (catalog : Catalog) (statement : DdlStatement) (rest : List DdlStatement) :
    catalog.applyAll (statement :: rest) = (catalog.apply statement).applyAll rest := rfl

/-- Statements are executed one part after the other. -/
theorem applyAll_append (catalog : Catalog) (first second : List DdlStatement) :
    catalog.applyAll (first ++ second) = (catalog.applyAll first).applyAll second :=
  List.foldl_append

/-- Statements that are executed change nothing but the tables and the record of batches. -/
theorem applyAll_keeps (catalog : Catalog) (statements : List DdlStatement) :
    (catalog.applyAll statements).schema = catalog.schema ∧
      (catalog.applyAll statements).latency = catalog.latency := by
  refine List.foldlRecOn (motive := fun after : Catalog =>
    after.schema = catalog.schema ∧ after.latency = catalog.latency) statements Catalog.apply ⟨rfl, rfl⟩ ?_
  intro after same statement _
  have kept := apply_keeps after statement
  exact ⟨kept.1.trans same.1, kept.2.1.trans same.2⟩

/-- Statements that are executed are written down in their order. -/
theorem applyAll_log (catalog : Catalog) (statements : List DdlStatement) :
    (catalog.applyAll statements).log.map (·.statements) =
      catalog.log.map (·.statements) ++ statements.map fun statement => [statement.toDdl] := by
  induction statements generalizing catalog with
  | nil => rw [List.map_nil, List.append_nil, applyAll, List.foldl_nil]
  | cons statement rest inductionHypothesis =>
      rw [applyAll_cons, inductionHypothesis, apply_log, List.append_assoc]
      rfl

variable {catalog : Catalog}

/-- Statements that only add leave the catalog open and take nothing away. -/
theorem Open.applyAll (isOpen : catalog.Open) {statements : List DdlStatement}
    (additions : ∀ statement ∈ statements, statement.Addition) :
    (catalog.applyAll statements).Open ∧ catalog.Grows (catalog.applyAll statements) := by
  refine List.foldlRecOn (motive := fun after : Catalog => after.Open ∧ catalog.Grows after)
    statements Catalog.apply ⟨isOpen, .refl catalog⟩ ?_
  intro after facts statement present
  have step := facts.1.grows (additions statement present)
  exact ⟨step.1, facts.2.trans step.2⟩

/-- What a statement of a run has made of the catalog is there at the end of the run. -/
theorem Open.exists_stage (isOpen : catalog.Open) {statements : List DdlStatement}
    (additions : ∀ statement ∈ statements, statement.Addition) {statement : DdlStatement}
    (present : statement ∈ statements) :
    ∃ before : Catalog, before.Open ∧ catalog.Grows before ∧
      (before.apply statement).Grows (catalog.applyAll statements) := by
  rcases List.append_of_mem present with ⟨first, last, rfl⟩
  have left := isOpen.applyAll fun other (listed : other ∈ first) =>
    additions other (List.mem_append_left _ listed)
  have step := left.1.grows (additions statement present)
  have right := step.1.applyAll fun other (listed : other ∈ last) =>
    additions other (List.mem_append_right _ (List.mem_cons_of_mem _ listed))
  refine ⟨catalog.applyAll first, left.1, left.2, ?_⟩
  rw [applyAll_append, applyAll_cons]
  exact right.2

/-- A table that is there after a run was there before, or the run made it with all its columns. -/
theorem Open.table_of_applyAll (isOpen : catalog.Open) {statements : List DdlStatement}
    (additions : ∀ statement ∈ statements, statement.Addition) {table : String}
    (known : (catalog.applyAll statements).HasTable table) :
    catalog.HasTable table ∨
      ∃ name columns, .createTable name columns ∈ statements ∧ name.name = table ∧
        ∀ definition ∈ columns,
          (catalog.applyAll statements).HasColumn table definition.name.name := by
  induction statements generalizing catalog with
  | nil => exact .inl known
  | cons statement rest inductionHypothesis =>
      rw [applyAll_cons] at known ⊢
      have step := isOpen.grows (additions statement List.mem_cons_self)
      have later : ∀ other ∈ rest, other.Addition := fun other listed =>
        additions other (List.mem_cons_of_mem _ listed)
      rcases inductionHypothesis step.1 later known with earlier | ⟨name, columns, listed, made⟩
      · rcases isOpen.table_of_apply (additions statement List.mem_cons_self) earlier with
          before | ⟨name, columns, rfl, rfl⟩
        · exact .inl before
        · by_cases missing : catalog.table? name.name = none
          · refine .inr ⟨name, columns, List.mem_cons_self, rfl, ?_⟩
            intro definition listed
            exact (step.1.applyAll later).2.columns
              ((isOpen.createTable_has name columns).2 missing definition listed)
          · exact .inl (Option.isSome_iff_ne_none.mpr missing)
      · exact .inr ⟨name, columns, List.mem_cons_of_mem _ listed, made⟩

/-- An index on one column gives no index to another. -/
theorem Open.not_leads_of_other (isOpen : catalog.Open) (name : Identifier)
    {table column owner part : Identifier} (different : ¬ (table = owner ∧ column = part))
    (without : ¬ catalog.Leads owner.name part.name) :
    ¬ (catalog.apply (.createIndex name table [column])).Leads owner.name part.name := by
  intro leads
  rcases (isOpen.indexes name table column).leads leads with before | ⟨sameTable, sameColumn, _⟩
  · exact without before
  · exact different ⟨(Identifier.eq_of_name_eq sameTable).symm,
      (Identifier.eq_of_name_eq sameColumn).symm⟩

/-- Statements that make indexes on columns that are there. -/
def MakesIndexes (catalog : Catalog) (statements : List DdlStatement) : Prop :=
  ∀ statement ∈ statements, ∃ name table column, statement = .createIndex name table [column] ∧
    catalog.HasColumn table.name column.name

namespace MakesIndexes

variable {statements : List DdlStatement}

/-- Statements that make indexes only add. -/
theorem additions (makes : catalog.MakesIndexes statements) :
    ∀ statement ∈ statements, statement.Addition := by
  intro statement present
  rcases makes statement present with ⟨name, table, column, rfl, _⟩
  exact .index name table column

/-- Statements make indexes in a catalog that has the same columns. -/
theorem of_columns {other : Catalog} (makes : catalog.MakesIndexes statements)
    (kept : ∀ {table column}, catalog.HasColumn table column → other.HasColumn table column) :
    other.MakesIndexes statements := by
  intro statement present
  rcases makes statement present with ⟨name, table, column, same, known⟩
  exact ⟨name, table, column, same, kept known⟩

/-- The statements after the first one make indexes still. -/
theorem rest (isOpen : catalog.Open) {statement : DdlStatement}
    (makes : catalog.MakesIndexes (statement :: statements)) :
    (catalog.apply statement).MakesIndexes statements := by
  have step := isOpen.grows (makes.additions statement List.mem_cons_self)
  have later : catalog.MakesIndexes statements := fun other listed =>
    makes other (List.mem_cons_of_mem _ listed)
  exact later.of_columns step.2.columns

/-- Indexes are made without a new table or column. -/
theorem columns_iff (isOpen : catalog.Open) (makes : catalog.MakesIndexes statements) :
    (∀ table, (catalog.applyAll statements).HasTable table ↔ catalog.HasTable table) ∧
      ∀ table column, (catalog.applyAll statements).HasColumn table column ↔
        catalog.HasColumn table column := by
  induction statements generalizing catalog with
  | nil => exact ⟨fun _ => Iff.rfl, fun _ _ => Iff.rfl⟩
  | cons statement rest inductionHypothesis =>
      rcases makes statement List.mem_cons_self with ⟨name, table, column, rfl, _⟩
      have step := isOpen.grows (.index name table column)
      have facts := inductionHypothesis step.1 (makes.rest isOpen)
      have added := isOpen.indexes name table column
      exact ⟨fun other => (facts.1 other).trans added.tables,
        fun other part => (facts.2 other part).trans added.columns⟩

/-- Where every name is taken, no index is made. -/
theorem tables_of_held (isOpen : catalog.Open) (makes : catalog.MakesIndexes statements)
    (held : ∀ name table column, .createIndex name table [column] ∈ statements →
      catalog.HoldsIndex name.name) :
    (catalog.applyAll statements).tables = catalog.tables := by
  induction statements generalizing catalog with
  | nil => rfl
  | cons statement rest inductionHypothesis =>
      rcases makes statement List.mem_cons_self with ⟨name, table, column, rfl, known⟩
      have step := isOpen.grows (.index name table column)
      have same : (catalog.apply (.createIndex name table [column])).tables = catalog.tables := by
        rcases apply_createIndex isOpen.placed name table column with ⟨_, same⟩ | ⟨_, free, _⟩
        · exact same
        · exact absurd (held name table column List.mem_cons_self) free
      rw [applyAll_cons, inductionHypothesis step.1 (makes.rest isOpen), same]
      intro other owner part listed
      exact step.2.indexes (held other owner part (List.mem_cons_of_mem _ listed))

/-- A column whose one name for an index is taken never gets the index. -/
theorem not_leads_of_held (isOpen : catalog.Open) (makes : catalog.MakesIndexes statements)
    {name table column : Identifier} (held : catalog.HoldsIndex name.name)
    (single : ∀ other, .createIndex other table [column] ∈ statements → other = name)
    (without : ¬ catalog.Leads table.name column.name) :
    ¬ (catalog.applyAll statements).Leads table.name column.name := by
  induction statements generalizing catalog with
  | nil => exact without
  | cons statement rest inductionHypothesis =>
      rcases makes statement List.mem_cons_self with ⟨other, owner, part, rfl, _⟩
      have step := isOpen.grows (.index other owner part)
      have added := isOpen.indexes other owner part
      refine inductionHypothesis step.1 (makes.rest isOpen) (step.2.indexes held)
        (fun another listed => single another (List.mem_cons_of_mem _ listed)) ?_
      by_cases same : owner = table ∧ part = column
      · rcases same with ⟨rfl, rfl⟩
        rw [single other List.mem_cons_self] at added ⊢
        exact fun leads => (added.leads leads).elim without fun made => made.2.2 held
      · exact isOpen.not_leads_of_other other same without

/-- A column whose name for an index is free and wanted by no other gets the index. -/
theorem leads_of_free (isOpen : catalog.Open) (makes : catalog.MakesIndexes statements)
    {name table column : Identifier} (wanted : .createIndex name table [column] ∈ statements)
    (free : ¬ catalog.HoldsIndex name.name)
    (single : ∀ other owner part, .createIndex other owner [part] ∈ statements →
      other.name = name.name → owner = table ∧ part = column) :
    (catalog.applyAll statements).Leads table.name column.name := by
  induction statements generalizing catalog with
  | nil => cases wanted
  | cons statement rest inductionHypothesis =>
      rcases makes statement List.mem_cons_self with ⟨other, owner, part, rfl, known⟩
      have step := isOpen.grows (.index other owner part)
      have later := makes.rest isOpen
      by_cases same : other.name = name.name
      · rcases single other owner part List.mem_cons_self same with ⟨rfl, rfl⟩
        rw [← same] at free
        exact (step.1.applyAll later.additions).2.leads ((isOpen.createIndex_has known).2 free)
      · rcases List.mem_cons.mp wanted with equal | listed
        · cases equal
          exact absurd rfl same
        · refine inductionHypothesis step.1 later listed ?_ fun another keeper place present =>
            single another keeper place (List.mem_cons_of_mem _ present)
          intro held
          exact ((isOpen.indexes other owner part).indexes held).elim free
            fun equal => same equal.symm

/-- Of two columns with one name for their indexes, one never gets the index. -/
theorem not_both (isOpen : catalog.Open) (makes : catalog.MakesIndexes statements)
    {name table column owner part : Identifier}
    (different : ¬ (table = owner ∧ column = part))
    (first : ∀ other, .createIndex other table [column] ∈ statements → other = name)
    (second : ∀ other, .createIndex other owner [part] ∈ statements → other = name)
    (without : ¬ catalog.Leads table.name column.name)
    (lacking : ¬ catalog.Leads owner.name part.name) :
    ¬ ((catalog.applyAll statements).Leads table.name column.name ∧
      (catalog.applyAll statements).Leads owner.name part.name) := by
  induction statements generalizing catalog with
  | nil => exact fun both => without both.1
  | cons statement rest inductionHypothesis =>
      rcases makes statement List.mem_cons_self with ⟨other, place, field, rfl, known⟩
      have step := isOpen.grows (.index other place field)
      have later := makes.rest isOpen
      have held : (catalog.apply (.createIndex other place [field])).HoldsIndex other.name :=
        (isOpen.createIndex_has known).1
      have firstLater : ∀ other, .createIndex other table [column] ∈ rest → other = name :=
        fun another listed => first another (List.mem_cons_of_mem _ listed)
      have secondLater : ∀ other, .createIndex other owner [part] ∈ rest → other = name :=
        fun another listed => second another (List.mem_cons_of_mem _ listed)
      by_cases isFirst : place = table ∧ field = column
      · rcases isFirst with ⟨rfl, rfl⟩
        rw [first other List.mem_cons_self] at held later ⊢
        exact fun both => later.not_leads_of_held (isOpen.grows (.index name place field)).1 held
          secondLater (isOpen.not_leads_of_other name different lacking) both.2
      · by_cases isSecond : place = owner ∧ field = part
        · rcases isSecond with ⟨rfl, rfl⟩
          rw [second other List.mem_cons_self] at held later ⊢
          exact fun both => later.not_leads_of_held (isOpen.grows (.index name place field)).1 held
            firstLater (isOpen.not_leads_of_other name isFirst without) both.1
        · exact inductionHypothesis step.1 later firstLater secondLater
            (isOpen.not_leads_of_other other isFirst without)
            (isOpen.not_leads_of_other other isSecond lacking)

end MakesIndexes

end SchemaDrift.Catalog
