import SchemaDrift.Proofs.Inference.Places

namespace SchemaDrift

namespace InferredSchema

/-- The places that refer to a table. -/
def tableSites (name : String) (schema : InferredSchema) : List Location :=
  ((Keyed.get? name schema).map (·.sites)).getD []

def column? (table name : String) (schema : InferredSchema) : Option InferredColumn :=
  (Keyed.get? table schema).bind (·.column? name)

/-- The places of one sort that a column of a table has. -/
def columnSites (sites : InferredColumn → List Location) (table name : String)
    (schema : InferredSchema) : List Location :=
  ((schema.column? table name).map sites).getD []

/-- A list of places of a schema gets a place when a statement at it names one of some tables, or uses
a column in one of some ways, and changes in no other way. -/
structure Gathers (view : InferredSchema → List Location) (names : String → Bool)
    (uses : ColumnUsage → Bool) : Prop where
  nothing : view empty = []
  referred : ∀ schema name site, view (schema.updateTable name fun table => table.addSite site) =
    if names name then Location.insertSorted site (view schema) else view schema
  used : ∀ schema site usage, view (schema.addUsage site usage) =
    if uses usage then Location.insertSorted site (view schema) else view schema

variable {view : InferredSchema → List Location} {names : String → Bool}
  {uses : ColumnUsage → Bool} {first second : List SourceStatement}

/-- What a view gathers over a list at one place, where each element either adds the place or changes
nothing. -/
theorem mem_foldl_iff {Element : Type} {step : InferredSchema → Element → InferredSchema}
    {speaks : Element → Bool} {place : Location}
    (each : ∀ schema element, view (step schema element) =
      if speaks element then Location.insertSorted place (view schema) else view schema)
    (elements : List Element) (schema : InferredSchema) (site : Location) :
    site ∈ view (elements.foldl step schema) ↔
      site ∈ view schema ∨ place = site ∧ elements.any speaks = true := by
  induction elements generalizing schema with
  | nil => simp
  | cons element elements inductionHypothesis =>
      rw [List.foldl_cons, inductionHypothesis, each, List.any_cons]
      cases spoken : speaks element
      · simp
      · simp only [if_true, Location.mem_insertSorted, eq_comm (a := site), Bool.true_or, and_true]
        tauto

namespace Gathers

/-- The places that are gathered stand in order, each once. -/
theorem ordered (gathers : Gathers view names uses) (statements : List SourceStatement) :
    Location.Ordered (view (ofStatements statements)) := by
  refine @ofStatements_induction (fun schema => Location.Ordered (view schema)) ?_ ?_ ?_ statements
  · rw [gathers.nothing]
    exact .nil
  · intro schema name site before
    rw [gathers.referred]
    split
    · exact before.insertSorted site
    · exact before
  · intro schema site usage before
    rw [gathers.used]
    split
    · exact before.insertSorted site
    · exact before

/-- A place is gathered from a statement when the statement stands there and speaks of the part. -/
theorem mem_addStatement_iff (gathers : Gathers view names uses) (schema : InferredSchema)
    (statement : SourceStatement) (site : Location) :
    site ∈ view (schema.addStatement statement) ↔ site ∈ view schema ∨
      statement.location = site ∧
        (statement.usage.tables.any names || statement.usage.usages.any uses) = true := by
  rw [addStatement, mem_foldl_iff fun schema usage => gathers.used schema statement.location usage,
    mem_foldl_iff fun schema name => gathers.referred schema name statement.location,
    Bool.or_eq_true, or_assoc, ← and_or_left]

/-- The places that are gathered are those of the statements that speak of the part. -/
theorem mem_iff (gathers : Gathers view names uses) (statements : List SourceStatement)
    (site : Location) :
    site ∈ view (ofStatements statements) ↔ ∃ statement ∈ statements, statement.location = site ∧
      (statement.usage.tables.any names || statement.usage.usages.any uses) = true := by
  have grows : ∀ schema, site ∈ view (statements.foldl addStatement schema) ↔
      site ∈ view schema ∨ ∃ statement ∈ statements, statement.location = site ∧
        (statement.usage.tables.any names || statement.usage.usages.any uses) = true := by
    induction statements with
    | nil => simp
    | cons statement statements inductionHypothesis =>
        intro schema
        rw [List.foldl_cons, inductionHypothesis, gathers.mem_addStatement_iff, or_assoc,
          List.exists_mem_cons_iff]
  rw [ofStatements, grows, gathers.nothing]
  simp

/-- A list with more statements gathers no fewer places. -/
theorem grows (gathers : Gathers view names uses)
    (contained : ∀ statement ∈ first, statement ∈ second) :
    view (ofStatements first) ⊆ view (ofStatements second) ∧
      (view (ofStatements first)).length ≤ (view (ofStatements second)).length := by
  have kept : view (ofStatements first) ⊆ view (ofStatements second) := by
    intro site present
    obtain ⟨statement, among, spoken⟩ := (gathers.mem_iff first site).mp present
    exact (gathers.mem_iff second site).mpr ⟨statement, contained statement among, spoken⟩
  exact ⟨kept, (List.subperm_of_subset (gathers.ordered first).nodup kept).length_le⟩

end Gathers

/-- The places that refer to a table are gathered from the statements that name it or use it. -/
theorem gathers_tableSites (name : String) :
    Gathers (tableSites name) (· == name) (·.table == name) where
  nothing := rfl
  referred schema other site := by
    rw [tableSites, tableSites, updateTable, Keyed.get?_insert]
    by_cases same : other = name
    · subst same
      simp only [if_true, beq_self_eq_true, Option.map_some, Option.getD_some]
      cases Keyed.get? other schema <;> rfl
    · simp [same]
  used schema site usage := by
    rw [tableSites, tableSites, addUsage, updateTable, Keyed.get?_insert]
    by_cases same : usage.table = name
    · subst same
      simp only [if_true, beq_self_eq_true, Option.map_some, Option.getD_some]
      cases Keyed.get? usage.table schema <;> rfl
    · simp [same]

/-- A reference to a table changes none of its columns. -/
theorem column?_addSite (schema : InferredSchema) (table name other : String) (site : Location) :
    (schema.updateTable other fun table => table.addSite site).column? table name =
      schema.column? table name := by
  rw [column?, column?, updateTable, Keyed.get?_insert]
  by_cases same : other = table
  · subst same
    rw [if_pos rfl, Option.bind_some]
    cases Keyed.get? other schema <;> rfl
  · rw [if_neg same]

/-- A use of a column changes just the column. -/
theorem column?_addUsage (schema : InferredSchema) (table name : String) (site : Location)
    (usage : ColumnUsage) :
    (schema.addUsage site usage).column? table name =
      if usage.table = table ∧ usage.column = name then
        some (((schema.column? table name).getD (.named name)).use site usage)
      else schema.column? table name := by
  rw [column?, column?, addUsage, updateTable, Keyed.get?_insert]
  by_cases same : usage.table = table
  · subst same
    rw [if_pos rfl, Option.bind_some, InferredTable.column?, InferredTable.updateColumn,
      Keyed.get?_insert]
    by_cases equal : usage.column = name
    · subst equal
      rw [if_pos rfl, if_pos ⟨rfl, rfl⟩]
      cases Keyed.get? usage.table schema <;> rfl
    · rw [if_neg equal, if_neg fun both => equal both.2]
      cases Keyed.get? usage.table schema <;> rfl
  · rw [if_neg same, if_neg fun both => same both.1]

/-- The places of one sort that a column has are gathered from the statements with a use of the column
that counts. -/
theorem gathers_columnSites {sites : InferredColumn → List Location} {counts : ColumnUsage → Bool}
    (nothing : ∀ name, sites (.named name) = [])
    (used : ∀ column site usage, sites (InferredColumn.use site usage column) =
      if counts usage then Location.insertSorted site (sites column) else sites column)
    (table name : String) :
    Gathers (columnSites sites table name) (fun _ => false)
      fun usage => usage.table == table && usage.column == name && counts usage where
  nothing := rfl
  referred schema other site := by
    rw [columnSites, columnSites, column?_addSite]
    rfl
  used schema site usage := by
    rw [columnSites, columnSites, column?_addUsage]
    by_cases same : usage.table = table ∧ usage.column = name
    · rw [if_pos same, Option.map_some, Option.getD_some, used]
      simp only [same.1, same.2, beq_self_eq_true, Bool.true_and]
      cases schema.column? table name with
      | none => rw [Option.getD_none, nothing]; rfl
      | some column => rfl
    · rw [if_neg same, if_neg]
      simp only [Bool.and_eq_true, beq_iff_eq]
      exact fun all => same all.1

/-- The places that use a column are gathered from the statements that use it. -/
theorem gathers_usageSites (table name : String) :
    Gathers (columnSites (·.usageSites) table name) (fun _ => false)
      fun usage => usage.table == table && usage.column == name && true := by
  refine gathers_columnSites (fun _ => rfl) (fun column site usage => ?_) table name
  unfold InferredColumn.use
  simp only
  rw [(InferredColumn.foldl_meet_keeps site _ _).2.1]
  split <;> rfl

/-- The places that filter a column are gathered from the statements that do. -/
theorem gathers_filterSites (table name : String) :
    Gathers (columnSites (·.filterSites) table name) (fun _ => false)
      fun usage => usage.table == table && usage.column == name && usage.isPointFilter := by
  refine gathers_columnSites (fun _ => rfl) (fun column site usage => ?_) table name
  unfold InferredColumn.use
  simp only
  rw [(InferredColumn.foldl_meet_keeps site _ _).2.2]
  split <;> rfl

/-- A table is known by its name, with the places that refer to it. -/
theorem get?_of_mem {statements : List SourceStatement} {table : InferredTable}
    (present : table ∈ Keyed.values (ofStatements statements)) :
    Keyed.get? table.name (ofStatements statements) = some table := by
  have consistent := consistent_ofStatements statements
  obtain ⟨key, found⟩ := Keyed.exists_get?_of_mem_values consistent.ordered present
  exact consistent.named found ▸ found

theorem column?_of_mem {statements : List SourceStatement} {table : InferredTable}
    {column : InferredColumn} (present : table ∈ Keyed.values (ofStatements statements))
    (used : column ∈ table.columns.values) :
    (ofStatements statements).column? table.name column.name = some column := by
  have consistent := (consistent_ofStatements statements).of_mem present
  obtain ⟨key, found⟩ := Keyed.exists_get?_of_mem_values consistent.ordered used
  rw [column?, get?_of_mem present, Option.bind_some, InferredTable.column?]
  exact consistent.named found ▸ found

/-- A list with more statements speaks of every table of the shorter one, at no fewer places. -/
theorem exists_table_of_contained (contained : ∀ statement ∈ first, statement ∈ second)
    {table : InferredTable} (present : table ∈ Keyed.values (ofStatements first)) :
    ∃ other ∈ Keyed.values (ofStatements second), other.name = table.name ∧
      table.sites.length ≤ other.sites.length := by
  obtain ⟨kept, more⟩ := (gathers_tableSites table.name).grows contained
  have sites : (ofStatements first).tableSites table.name = table.sites := by
    rw [tableSites, get?_of_mem present]
    rfl
  rw [sites] at kept more
  obtain ⟨site, referred⟩ := List.exists_mem_of_ne_nil _ (placed_of_mem present).1
  have gathered := kept referred
  cases found : Keyed.get? table.name (ofStatements second) with
  | none =>
      rw [tableSites, found] at gathered
      cases gathered
  | some other =>
      rw [tableSites, found] at more
      exact ⟨other, Keyed.mem_values_of_get? found, (consistent_ofStatements second).named found,
        more⟩

/-- A list with more statements speaks of every column of the shorter one, which it uses and filters
at no fewer places. -/
theorem exists_column_of_contained (contained : ∀ statement ∈ first, statement ∈ second)
    {table : InferredTable} (present : table ∈ Keyed.values (ofStatements first))
    {column : InferredColumn} (used : column ∈ table.columns.values) :
    ∃ other ∈ Keyed.values (ofStatements second), other.name = table.name ∧
      ∃ more ∈ other.columns.values, more.name = column.name ∧
        column.usageSites.length ≤ more.usageSites.length ∧
        column.filterSites.length ≤ more.filterSites.length := by
  obtain ⟨kept, uses⟩ := (gathers_usageSites table.name column.name).grows contained
  have filters := ((gathers_filterSites table.name column.name).grows contained).2
  have known := column?_of_mem present used
  have sites_eq (sites : InferredColumn → List Location) :
      (ofStatements first).columnSites sites table.name column.name = sites column := by
    rw [columnSites, known]
    rfl
  rw [sites_eq] at kept uses filters
  obtain ⟨site, placed⟩ := List.exists_mem_of_ne_nil _ ((placed_of_mem present).2 column used).used
  have gathered := kept placed
  cases found : (ofStatements second).column? table.name column.name with
  | none =>
      rw [columnSites, found] at gathered
      cases gathered
  | some more =>
      rw [columnSites, found] at uses filters
      obtain ⟨other, holds, inside⟩ := Option.bind_eq_some_iff.mp found
      have consistent := consistent_ofStatements second
      exact ⟨other, Keyed.mem_values_of_get? holds, consistent.named holds, more,
        Keyed.mem_values_of_get? inside, (consistent.tables holds).named inside, uses, filters⟩

end InferredSchema

end SchemaDrift
