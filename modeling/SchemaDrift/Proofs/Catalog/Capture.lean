import SchemaDrift.Catalog.Introspection
import SchemaDrift.Proofs.Keyed
import SchemaDrift.Proofs.Result
import SchemaDrift.Proofs.Text.Chars

namespace SchemaDrift

/-- A qualified name is read off its characters. -/
theorem qualifiedName_toList (schema table : String) :
    (qualifiedName schema table).toList = (schema ++ ".").toList ++ table.toList := by
  simp [qualifiedName, String.toList_append]

/-- Tables of one schema have different qualified names when they have different names. -/
theorem qualifiedName_inj {schema first second : String} :
    qualifiedName schema first = qualifiedName schema second ↔ first = second := by
  rw [← String.toList_inj, qualifiedName_toList, qualifiedName_toList, List.append_cancel_left_eq,
    String.toList_inj]

namespace Keyed

variable {α : Type}

theorem mem_of_get?_ofList {pairs : List (String × α)} {key : String} {value : α}
    (found : (ofList pairs).get? key = some value) : (key, value) ∈ pairs := by
  have grows : ∀ (pairs : List (String × α)) (records : Keyed α),
      (pairs.foldl (fun records pair => records.insert pair.1 pair.2) records).get? key =
        some value → records.get? key = some value ∨ (key, value) ∈ pairs := by
    intro pairs
    induction pairs with
    | nil => exact fun records found => .inl found
    | cons pair rest inductionHypothesis =>
        intro records found
        rcases inductionHypothesis _ found with earlier | later
        · rw [get?_insert] at earlier
          split at earlier
          · rename_i same
            cases earlier
            exact .inr (same ▸ List.mem_cons_self)
          · exact .inl earlier
        · exact .inr (List.mem_cons_of_mem _ later)
  rcases grows pairs [] found with none | present
  · cases none
  · exact present

theorem isSome_get?_ofList {pairs : List (String × α)} {key : String} {value : α}
    (present : (key, value) ∈ pairs) : ((ofList pairs).get? key).isSome := by
  have kept : ∀ (pairs : List (String × α)) (records : Keyed α),
      (records.get? key).isSome ∨ (key, value) ∈ pairs →
        ((pairs.foldl (fun records pair => records.insert pair.1 pair.2) records).get? key).isSome := by
    intro pairs
    induction pairs with
    | nil => exact fun records known => known.elim id fun absent => by cases absent
    | cons pair rest inductionHypothesis =>
        intro records known
        refine inductionHypothesis _ ?_
        rw [get?_insert]
        rcases known with earlier | present
        · left
          split
          · rfl
          · exact earlier
        · rcases List.mem_cons.mp present with same | later
          · left
            rw [← same, if_pos rfl]
            rfl
          · exact .inr later
  exact kept pairs [] (.inr present)

end Keyed

namespace Catalog

def table? (catalog : Catalog) (name : String) : Option LiveTable :=
  catalog.tables.get? (qualifiedName catalog.schema name)

/-- The tables of the catalog stand in order, and each one in its own schema under its own name. -/
structure WellPlaced (catalog : Catalog) : Prop where
  ordered : catalog.tables.Ordered
  name_eq : ∀ {name table}, catalog.table? name = some table → table.name = name

/-- A name is found behind its schema. -/
theorem nameWithin?_qualifiedName (schema name : String) :
    nameWithin? schema (qualifiedName schema name) = some name := by
  have starts : Text.startsWith (schema ++ ".").toList (qualifiedName schema name).toList = true :=
    (Text.startsWith_iff _ _).mpr ⟨name.toList, qualifiedName_toList schema name⟩
  rw [nameWithin?]
  simp only [starts, if_true]
  rw [qualifiedName_toList, List.drop_left, String.ofList_toList]

/-- What is behind a schema is found in the qualified name only. -/
theorem qualifiedName_of_nameWithin? {schema key name : String}
    (within : nameWithin? schema key = some name) : key = qualifiedName schema name := by
  unfold nameWithin? at within
  simp only [Option.ite_none_right_eq_some, Option.some.injEq] at within
  obtain ⟨starts, rfl⟩ := within
  obtain ⟨rest, split⟩ := (Text.startsWith_iff _ _).mp starts
  apply String.toList_injective
  rw [split, qualifiedName_toList, List.drop_left, String.toList_ofList]

theorem listed_iff (catalog : Catalog) (name : String) :
    name ∈ catalog.tables.keys.filterMap (nameWithin? catalog.schema) ↔
      (catalog.table? name).isSome := by
  rw [List.mem_filterMap]
  constructor
  · rintro ⟨key, present, within⟩
    rw [Keyed.mem_keys_iff] at present
    rwa [qualifiedName_of_nameWithin? within] at present
  · intro known
    exact ⟨_, (Keyed.mem_keys_iff _ _).mpr known, nameWithin?_qualifiedName _ _⟩

end Catalog

namespace Introspection

variable {reading : Introspection} {catalog : Catalog}

theorem names_ok_iff (same : reading.schema = catalog.schema)
    (wanted : List String) :
    reading.names catalog = .ok wanted ↔
      catalog.latency.nanos ≤ reading.limit.nanos ∧ catalog.available = true ∧
        wanted = (catalog.tables.keys.filterMap (Catalog.nameWithin? catalog.schema)).filter
          fun name => !isInternal name := by
  rw [names]
  by_cases late : reading.limit.nanos < catalog.latency.nanos
  · simp [late, Nat.not_le.mpr late]
  · simp only [late, if_false, Nat.not_lt.mp late, true_and, Catalog.list, Catalog.checkAvailable,
      same]
    cases catalog.available <;> simp [bind, Except.bind, pure, Except.pure, eq_comm]

/-- A table is fetched when it is there and nothing is told to go wrong with it. -/
theorem fetch_ok_iff (same : reading.schema = catalog.schema) (name : String) (table : LiveTable) :
    catalog.fetch reading.schema name = .ok table ↔
      catalog.available = true ∧
        catalog.faults.get? (qualifiedName catalog.schema name) = none ∧
        catalog.table? name = some table := by
  rw [Catalog.fetch, Catalog.checkAvailable, same, Catalog.table?]
  cases catalog.available with
  | false => simp [Result.check_bind_ok_iff]
  | true =>
      cases told : catalog.faults.get? (qualifiedName catalog.schema name) with
      | some fault => simp [told, bind, Except.bind, throw, throwThe, MonadExceptOf.throw]
      | none =>
          cases known : catalog.tables.get? (qualifiedName catalog.schema name) <;>
            simp [told, known, bind, Except.bind, pure, Except.pure, throw, throwThe,
              MonadExceptOf.throw]

/-- The tables of distinct names are found under their names. -/
theorem table?_ofTables {schema : String} {tables : List LiveTable} {table : LiveTable}
    (present : table ∈ tables) (distinct : ∀ other ∈ tables, other.name = table.name → other = table) :
    (Snapshot.ofTables schema tables).table? table.name = some table := by
  have pair : (table.name, table) ∈ tables.map fun table => (table.name, table) :=
    List.mem_map.mpr ⟨table, present, rfl⟩
  rcases Option.isSome_iff_exists.mp (Keyed.isSome_get?_ofList pair) with ⟨found, known⟩
  rcases List.mem_map.mp (Keyed.mem_of_get?_ofList known) with ⟨other, listed, same⟩
  have parts := Prod.mk.inj same
  rw [Snapshot.table?, Snapshot.ofTables, known, ← parts.2, distinct other listed parts.1]

/-- What a snapshot shows under a name is one of the tables with the name. -/
theorem mem_of_table?_ofTables {schema name : String} {tables : List LiveTable} {table : LiveTable}
    (found : (Snapshot.ofTables schema tables).table? name = some table) :
    table ∈ tables ∧ table.name = name := by
  rcases List.mem_map.mp (Keyed.mem_of_get?_ofList found) with ⟨other, listed, same⟩
  have parts := Prod.mk.inj same
  rw [← parts.2]
  exact ⟨listed, parts.1⟩

/-- A snapshot shows the tables of the catalog that are not internal, and no others. -/
theorem table?_of_capture (placed : catalog.WellPlaced) (same : reading.schema = catalog.schema)
    {snapshot : Snapshot} (captured : reading.capture catalog = .ok snapshot) (name : String) :
    snapshot.table? name = if isInternal name then none else catalog.table? name := by
  unfold capture at captured
  rcases (Result.bind_ok_iff _ _ _).mp captured with ⟨wanted, named, rest⟩
  rcases (Result.bind_ok_iff _ _ _).mp rest with ⟨tables, fetched, made⟩
  rw [Result.pure_ok_iff] at made
  subst made
  have asked := ((names_ok_iff same wanted).mp named).2.2
  rw [fetchAll, Result.mapError_ok_iff] at fetched
  have found : ∀ table, table ∈ tables ↔
      isInternal table.name = false ∧ catalog.table? table.name = some table := by
    intro table
    rw [Result.mem_of_mapM_ok fetched]
    constructor
    · rintro ⟨other, present, answered⟩
      have known := ((fetch_ok_iff same other table).mp answered).2.2
      rw [placed.name_eq known]
      rw [asked, List.mem_filter, Bool.not_eq_true'] at present
      exact ⟨present.2, known⟩
    · rintro ⟨visible, known⟩
      have present : table.name ∈ wanted := by
        rw [asked, List.mem_filter, Catalog.listed_iff, known, Bool.not_eq_true']
        exact ⟨rfl, visible⟩
      rcases (Result.exists_mapM_ok_iff _ _).mp ⟨tables, fetched⟩ _ present with ⟨other, answered⟩
      have facts := (fetch_ok_iff same table.name other).mp answered
      rw [known] at facts
      exact ⟨table.name, present, Option.some.inj facts.2.2 ▸ answered⟩
  cases shown : (Snapshot.ofTables reading.schema tables).table? name with
  | some table =>
      rcases mem_of_table?_ofTables shown with ⟨listed, rfl⟩
      rcases (found table).mp listed with ⟨visible, known⟩
      simp [visible, known]
  | none =>
      split
      · rfl
      · rename_i visible
        rw [Bool.not_eq_true] at visible
        cases known : catalog.table? name with
        | none => rfl
        | some table =>
            have name := placed.name_eq known
            subst name
            have present := (found table).mpr ⟨visible, known⟩
            rw [table?_ofTables present] at shown
            · cases shown
            · intro other listed equal
              have facts := ((found other).mp listed).2
              rw [equal, known] at facts
              exact (Option.some.inj facts).symm

/-- There is a snapshot when the catalog answers in time, can be reached, and nothing is told to go
wrong with a table that is read. -/
theorem exists_capture_iff (same : reading.schema = catalog.schema) :
    (∃ snapshot, reading.capture catalog = .ok snapshot) ↔
      catalog.latency.nanos ≤ reading.limit.nanos ∧ catalog.available = true ∧
        ∀ name, isInternal name = false → (catalog.table? name).isSome →
          catalog.faults.get? (qualifiedName catalog.schema name) = none := by
  have fetched : ∀ wanted, (∃ tables, reading.fetchAll catalog wanted = .ok tables) ↔
      ∀ name ∈ wanted, ∃ table, catalog.fetch reading.schema name = .ok table := by
    intro wanted
    rw [← Result.exists_mapM_ok_iff]
    simp only [fetchAll, Result.mapError_ok_iff]
  constructor
  · rintro ⟨snapshot, captured⟩
    rcases (Result.bind_ok_iff _ _ _).mp captured with ⟨wanted, named, rest⟩
    rcases (Result.bind_ok_iff _ _ _).mp rest with ⟨tables, read, _⟩
    rcases (names_ok_iff same wanted).mp named with ⟨inTime, available, asked⟩
    refine ⟨inTime, available, ?_⟩
    intro name visible known
    have present : name ∈ wanted := by
      rw [asked, List.mem_filter, Catalog.listed_iff, Bool.not_eq_true']
      exact ⟨known, visible⟩
    rcases (fetched wanted).mp ⟨tables, read⟩ name present with ⟨table, answered⟩
    exact ((fetch_ok_iff same name table).mp answered).2.1
  · rintro ⟨inTime, available, untold⟩
    have named := (names_ok_iff same _).mpr ⟨inTime, available, rfl⟩
    have read := (fetched ((catalog.tables.keys.filterMap
      (Catalog.nameWithin? catalog.schema)).filter fun name => !isInternal name)).mpr (by
        intro name present
        rw [List.mem_filter, Catalog.listed_iff, Bool.not_eq_true'] at present
        rcases Option.isSome_iff_exists.mp present.1 with ⟨table, known⟩
        exact ⟨table, (fetch_ok_iff same name table).mpr
          ⟨available, untold name present.2 present.1, known⟩⟩)
    rcases read with ⟨tables, read⟩
    exact ⟨_, (Result.bind_ok_iff _ _ _).mpr
      ⟨_, named, (Result.bind_ok_iff _ _ _).mpr ⟨tables, read, rfl⟩⟩⟩

end Introspection

end SchemaDrift
