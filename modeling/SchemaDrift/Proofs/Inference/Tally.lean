import SchemaDrift.Proofs.Inference.Gathering
import SchemaDrift.Proofs.Inference.Merging

/-
This file holds what statements add up to in an inferred schema. A table has the places of the
statements that speak of it, and a column is what its uses make of a new one, one after the other. So
places of filters and candidates are places of uses, these are places of the table, and none counts
twice.
-/

namespace SchemaDrift

open Observation

/-- A use of a column, with its place. -/
abbrev PlacedUse := Location × ColumnUsage

/-- The types that the values of a use speak for. -/
def PlacedUse.observations (use : PlacedUse) : List Observation :=
  use.2.values.map fun value => (value.candidate, use.1)

namespace InferredColumn

variable {column : InferredColumn} {observations : List Observation} {uses : List PlacedUse}

/-- What a column knows is a matter of its candidates, its best type, its evidence and its dispute. -/
theorem Knows.of_eq {other : InferredColumn} (knows : column.Knows observations)
    (candidates : other.candidates = column.candidates) (best : other.bestType = column.bestType)
    (evidence : other.evidenceCount = column.evidenceCount)
    (conflict : other.conflict = column.conflict) : other.Knows observations where
  listed := candidates.trans knows.listed
  counted := by rw [evidence, knows.counted, supportingSites, supportingSites, candidates, best]
  blank := best ▸ knows.blank
  text := best ▸ knows.text
  specific := best ▸ knows.specific
  disputed := by rw [conflict, best, knows.disputed]

theorem Knows.meet (knows : column.Knows observations) (site : Location) (value : ValueContext) :
    (column.meet site value).Knows (observations ++ [(value.candidate, site)]) := by
  unfold InferredColumn.meet
  split
  next type =>
    have declared : (column.declare type).Knows observations := knows.of_eq rfl rfl rfl rfl
    exact declared.observe type site
  next => exact knows.observe value.candidate site

/-- A column that is used has observed the types of its values. -/
theorem Knows.use (knows : column.Knows observations) (use : PlacedUse) :
    (column.use use.1 use.2).Knows (observations ++ use.observations) := by
  obtain ⟨site, usage⟩ := use
  have met (values : List ValueContext) :
      ∀ {column : InferredColumn} {observations : List Observation}, column.Knows observations →
        (values.foldl (InferredColumn.meet site) column).Knows
          (observations ++ values.map fun value => (value.candidate, site)) := by
    induction values with
    | nil => exact fun knows => (List.append_nil _).symm ▸ knows
    | cons value values inductionHypothesis =>
        intro column observations knows
        rw [List.map_cons, List.append_cons]
        exact inductionHypothesis (knows.meet site value)
  unfold InferredColumn.use
  refine met usage.values ?_
  split <;> exact knows.of_eq rfl rfl rfl rfl

/-- A column is what uses add up to: its places are theirs, each once, and it knows the types of their
values. -/
structure AddsUp (column : InferredColumn) (uses : List PlacedUse) : Prop where
  usages : column.usageSites = Location.distinct (uses.map Prod.fst)
  filters : column.filterSites = Location.distinct ((uses.filter (·.2.isPointFilter)).map Prod.fst)
  knows : column.Knows (uses.flatMap PlacedUse.observations)

/-- A new column is what no uses add up to. -/
theorem addsUp_named (name : String) : (named name).AddsUp [] := ⟨rfl, rfl, knows_named name⟩

theorem AddsUp.use (adds : column.AddsUp uses) (use : PlacedUse) :
    (column.use use.1 use.2).AddsUp (uses ++ [use]) where
  usages := by
    rw [List.map_append, List.map_singleton, Location.distinct_concat, ← adds.usages]
    unfold InferredColumn.use
    rw [(foldl_meet_keeps use.1 _ _).2.1]
    split <;> rfl
  filters := by
    unfold InferredColumn.use
    rw [(foldl_meet_keeps use.1 _ _).2.2, List.filter_append]
    split
    next counts =>
      rw [List.filter_cons, if_pos counts, List.filter_nil, List.map_append, List.map_singleton,
        Location.distinct_concat, ← adds.filters]
      rfl
    next other =>
      rw [List.filter_cons, if_neg other, List.filter_nil, List.append_nil]
      exact adds.filters
  knows := by
    rw [List.flatMap_append, List.flatMap_singleton]
    exact adds.knows.use use

/-- The column after uses, one after the other. -/
def useAll (column : InferredColumn) (uses : List PlacedUse) : InferredColumn :=
  uses.foldl (fun column use => column.use use.1 use.2) column

/-- A new column after uses is what they add up to. -/
theorem addsUp_useAll (name : String) (uses : List PlacedUse) :
    ((named name).useAll uses).AddsUp uses := by
  induction uses using List.reverseRecOn with
  | nil => exact addsUp_named name
  | append_singleton uses use inductionHypothesis =>
      rw [useAll, List.foldl_append]
      exact inductionHypothesis.use use

end InferredColumn

namespace InferredSchema

def isUseOf (table name : String) (usage : ColumnUsage) : Bool :=
  usage.table == table && usage.column == name

/-- The uses of a column of a table in statements, with their places. -/
def usesOf (table name : String) (statements : List SourceStatement) : List PlacedUse :=
  statements.flatMap fun statement =>
    (statement.usage.usages.filter (isUseOf table name)).map (statement.location, ·)

def afterUse (name : String) (column : Option InferredColumn) (use : PlacedUse) :
    Option InferredColumn :=
  some ((column.getD (.named name)).use use.1 use.2)

/-- What is known of a column after uses at a place is a matter of the uses of the column. -/
theorem column?_foldl_addUsage (table name : String) (site : Location) (usages : List ColumnUsage)
    (schema : InferredSchema) :
    (usages.foldl (addUsage site) schema).column? table name =
      ((usages.filter (isUseOf table name)).map (site, ·)).foldl (afterUse name)
        (schema.column? table name) := by
  induction usages generalizing schema with
  | nil => rfl
  | cons usage usages inductionHypothesis =>
      rw [List.foldl_cons, inductionHypothesis, column?_addUsage, List.filter_cons]
      by_cases same : usage.table = table ∧ usage.column = name
      · have counted : isUseOf table name usage = true := by simp [isUseOf, same]
        rw [if_pos same, if_pos counted]
        rfl
      · have other : isUseOf table name usage = false := by
          simpa [isUseOf] using same
        rw [if_neg same, if_neg (Bool.not_eq_true _ ▸ other)]

/-- What is known of a column after a statement is a matter of the uses of the column in it. -/
theorem column?_addStatement (table name : String) (schema : InferredSchema)
    (statement : SourceStatement) :
    (schema.addStatement statement).column? table name =
      (usesOf table name [statement]).foldl (afterUse name) (schema.column? table name) := by
  have referred : (statement.usage.tables.foldl (fun schema name =>
      schema.updateTable name fun table => table.addSite statement.location) schema).column? table
        name = schema.column? table name :=
    List.foldlRecOn (motive := fun later => column? table name later = schema.column? table name)
      _ _ rfl fun later same other _ => (column?_addSite later table name other _).trans same
  rw [addStatement, column?_foldl_addUsage, referred, usesOf, List.flatMap_singleton]

/-- What is known of a column is what its uses make of a new one. -/
theorem column?_ofStatements (table name : String) (statements : List SourceStatement) :
    (ofStatements statements).column? table name =
      (usesOf table name statements).foldl (afterUse name) none := by
  induction statements using List.reverseRecOn with
  | nil => rfl
  | append_singleton statements statement inductionHypothesis =>
      have more : usesOf table name (statements ++ [statement]) =
          usesOf table name statements ++ usesOf table name [statement] := List.flatMap_append
      rw [ofStatements, List.foldl_append, List.foldl_cons, List.foldl_nil, column?_addStatement,
        more, List.foldl_append, ← inductionHypothesis]
      rfl

/-- A column that is known has uses, and is what they make of a new one. -/
theorem eq_useAll_of_column? {table name : String} {statements : List SourceStatement}
    {column : InferredColumn} (known : (ofStatements statements).column? table name = some column) :
    usesOf table name statements ≠ [] ∧
      column = (InferredColumn.named name).useAll (usesOf table name statements) := by
  have made (uses : List PlacedUse) (column : InferredColumn) :
      uses.foldl (afterUse name) (some column) = some (column.useAll uses) := by
    induction uses generalizing column with
    | nil => rfl
    | cons use uses inductionHypothesis => exact inductionHypothesis _
  rw [column?_ofStatements] at known
  cases found : usesOf table name statements with
  | nil => simp [found] at known
  | cons use uses =>
      rw [found, List.foldl_cons, afterUse, made] at known
      exact ⟨List.cons_ne_nil _ _, (Option.some.inj known).symm⟩

/-- A statement speaks of a table that it names or uses a column of. -/
def speaksOf (name : String) (statement : SourceStatement) : Bool :=
  statement.usage.tables.any (· == name) || statement.usage.usages.any (·.table == name)

/-- The places of a table are those of the statements that speak of it, each once. -/
theorem tableSites_ofStatements (name : String) (statements : List SourceStatement) :
    tableSites name (ofStatements statements) =
      Location.distinct ((statements.filter (speaksOf name)).map (·.location)) := by
  refine ((gathers_tableSites name).ordered statements).ext (Location.ordered_distinct _) fun site => ?_
  rw [(gathers_tableSites name).mem_iff, Location.mem_distinct, List.mem_map]
  refine exists_congr fun statement => ?_
  rw [List.mem_filter, speaksOf, and_assoc, and_comm (a := statement.location = site)]

theorem mem_tableSites_of_mem_usesOf {table name : String} {statements : List SourceStatement}
    {use : PlacedUse} (among : use ∈ usesOf table name statements) :
    use.1 ∈ tableSites table (ofStatements statements) := by
  obtain ⟨statement, listed, within⟩ := List.mem_flatMap.mp among
  obtain ⟨usage, counted, rfl⟩ := List.mem_map.mp within
  obtain ⟨used, matching⟩ := List.mem_filter.mp counted
  have owner : (usage.table == table) = true := (Bool.and_eq_true _ _ ▸ matching).1
  have speaks : speaksOf table statement = true :=
    Bool.or_eq_true_iff.mpr (.inr (List.any_eq_true.mpr ⟨usage, used, owner⟩))
  rw [tableSites_ofStatements, Location.mem_distinct]
  exact List.mem_map_of_mem (List.mem_filter.mpr ⟨listed, speaks⟩)

end InferredSchema

/-- What a column of a table with some places tallies from its uses. It is used; its places and
candidates are those of the uses, and no others; its evidence is the number of places that speak for
its type; and each place counts once. -/
structure InferredColumn.Tallied (column : InferredColumn) (sites : List Location)
    (uses : List PlacedUse) : Prop where
  used : column.usageSites ≠ []
  usages : column.usageSites = Location.distinct (uses.map Prod.fst)
  filters : column.filterSites = Location.distinct ((uses.filter (·.2.isPointFilter)).map Prod.fst)
  candidates : column.candidates = Observation.candidates (uses.flatMap PlacedUse.observations)
  referred : column.usageSites ⊆ sites
  filtered : column.filterSites ⊆ column.usageSites
  observed : ∀ candidate ∈ column.candidates, candidate.2 ∈ column.usageSites
  counted : column.evidenceCount = column.supportingSites.length
  bounded : column.evidenceCount ≤ column.usageSites.length
  once : column.usageSites.Nodup ∧ column.filterSites.Nodup ∧ column.supportingSites.Nodup

/-- What a table tallies from statements. It is referred to, at the places of the statements that speak
of it, each once, and its columns tally their uses. -/
structure InferredTable.Tallied (table : InferredTable) (statements : List SourceStatement) :
    Prop where
  referred : table.sites ≠ []
  sites : table.sites =
    Location.distinct ((statements.filter (InferredSchema.speaksOf table.name)).map (·.location))
  once : table.sites.Nodup
  columns : ∀ column ∈ table.columns.values,
    column.Tallied table.sites (InferredSchema.usesOf table.name column.name statements)

namespace InferredColumn.AddsUp

variable {column : InferredColumn} {uses : List PlacedUse}

/-- Places of filters are places of uses. -/
theorem filterSites_subset (adds : column.AddsUp uses) : column.filterSites ⊆ column.usageSites := by
  intro site filtered
  rw [adds.filters, Location.mem_distinct] at filtered
  rw [adds.usages, Location.mem_distinct]
  exact (List.filter_sublist.map Prod.fst).subset filtered

/-- Candidates stand at places of uses. -/
theorem mem_usageSites (adds : column.AddsUp uses) {candidate : Observation}
    (among : candidate ∈ column.candidates) : candidate.2 ∈ column.usageSites := by
  rw [adds.knows.listed, Observation.candidates] at among
  obtain ⟨use, used, observed⟩ := List.mem_flatMap.mp (List.mem_of_mem_filter among)
  obtain ⟨value, _, rfl⟩ := List.mem_map.mp observed
  rw [adds.usages, Location.mem_distinct]
  exact List.mem_map_of_mem used

/-- Places that speak for the best type are places of uses. -/
theorem supportingSites_subset (adds : column.AddsUp uses) :
    column.supportingSites ⊆ column.usageSites := by
  intro site speaks
  rw [supportingSites, Location.mem_distinct] at speaks
  obtain ⟨candidate, supporting, rfl⟩ := List.mem_map.mp speaks
  exact adds.mem_usageSites (List.mem_of_mem_filter supporting)

/-- What uses add up to tallies them, at the places of its table. -/
theorem tallied (adds : column.AddsUp uses) {sites : List Location} (some : uses ≠ [])
    (referred : ∀ use ∈ uses, use.1 ∈ sites) : column.Tallied sites uses where
  used := by
    obtain ⟨use, used⟩ := List.exists_mem_of_ne_nil uses some
    rw [adds.usages]
    exact List.ne_nil_of_mem ((Location.mem_distinct _ _).mpr (List.mem_map_of_mem used))
  usages := adds.usages
  filters := adds.filters
  candidates := adds.knows.listed
  referred := by
    intro site present
    rw [adds.usages, Location.mem_distinct] at present
    obtain ⟨use, used, rfl⟩ := List.mem_map.mp present
    exact referred use used
  filtered := adds.filterSites_subset
  observed _ := adds.mem_usageSites
  counted := adds.knows.counted
  bounded := by
    rw [adds.knows.counted]
    have distinct : column.supportingSites.Nodup := (Location.ordered_distinct _).nodup
    exact (List.subperm_of_subset distinct adds.supportingSites_subset).length_le
  once := by
    rw [adds.usages, adds.filters]
    exact ⟨(Location.ordered_distinct _).nodup, (Location.ordered_distinct _).nodup,
      (Location.ordered_distinct _).nodup⟩

end InferredColumn.AddsUp

namespace InferredSchema

/-- An inferred schema is consistent: its tables and their columns stand in order, each under its own
name, and they tally the statements. -/
theorem infers_tallied (statements : List SourceStatement) :
    (ofStatements statements).Consistent ∧
      ∀ table ∈ Keyed.values (ofStatements statements), table.Tallied statements := by
  refine ⟨consistent_ofStatements statements, fun table present => ?_⟩
  have sites : tableSites table.name (ofStatements statements) = table.sites := by
    rw [tableSites, get?_of_mem present]
    rfl
  have gathered := sites ▸ tableSites_ofStatements table.name statements
  refine ⟨(placed_of_mem present).1, gathered, ?_, fun column used => ?_⟩
  · rw [gathered]
    exact (Location.ordered_distinct _).nodup
  · obtain ⟨some, made⟩ := eq_useAll_of_column? (column?_of_mem present used)
    have adds := InferredColumn.addsUp_useAll column.name (usesOf table.name column.name statements)
    rw [← made] at adds
    exact adds.tallied some fun use among => sites ▸ mem_tableSites_of_mem_usesOf among

/-- Two statements that filter users by whether they are active, the first of them twice. -/
def activeUsers : List SourceStatement :=
  let filter : ColumnUsage := ⟨"users", "active", .filter, some .equality, [.boolean]⟩
  [⟨"", ⟨"users.py", 10, none⟩, ⟨.select, none, ["users"], [filter, filter]⟩⟩,
    ⟨"", ⟨"users.py", 20, none⟩, ⟨.select, none, ["users"], [filter]⟩⟩]

/-- Three filters at two places are two uses, two filters and two pieces of evidence. -/
theorem infers_tallied_activeUsers :
    (ofStatements activeUsers).Consistent ∧
      ∃ table ∈ Keyed.values (ofStatements activeUsers), table.sites.length = 2 ∧
        ∃ column ∈ table.columns.values, column.usageSites.length = 2 ∧
          column.filterSites.length = 2 ∧ column.candidates.length = 3 ∧ column.evidenceCount = 2 ∧
          table.Tallied activeUsers := by
  have known : ∃ table ∈ Keyed.values (ofStatements activeUsers), table.sites.length = 2 ∧
      ∃ column ∈ table.columns.values, column.usageSites.length = 2 ∧
        column.filterSites.length = 2 ∧ column.candidates.length = 3 ∧ column.evidenceCount = 2 := by
    decide +kernel
  obtain ⟨consistent, tallied⟩ := infers_tallied activeUsers
  obtain ⟨table, present, sites, column, used, usages, filters, candidates, evidence⟩ := known
  exact ⟨consistent, table, present, sites, column, used, usages, filters, candidates, evidence,
    tallied table present⟩

end InferredSchema

end SchemaDrift
