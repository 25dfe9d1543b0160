import SchemaDrift.Proofs.Catalog.Runs
import SchemaDrift.Proofs.Fix.Remedy

namespace SchemaDrift

variable {rules : DetectionRules} {inferred : InferredSchema} {catalog : Catalog}

namespace Catalog

def WantsIndexes (rules : DetectionRules) (inferred : InferredSchema) (catalog : Catalog) : Prop :=
  ∀ statement, catalog.Wants rules inferred statement →
    ∃ name table column, statement = .createIndex name table [column]

/-- The names of the indexes that a catalog wants are free, and no two columns share one. -/
structure NamesFree (rules : DetectionRules) (inferred : InferredSchema) (catalog : Catalog) :
    Prop where
  free : ∀ {name table column},
    catalog.Wants rules inferred (.createIndex name table [column]) → ¬ catalog.HoldsIndex name.name
  distinct : ∀ {name table column other owner part},
    catalog.Wants rules inferred (.createIndex name table [column]) →
    catalog.Wants rules inferred (.createIndex other owner [part]) →
    other.name = name.name → owner = table ∧ part = column

/-- Statements that are just those that a catalog wants. -/
def Answers (rules : DetectionRules) (inferred : InferredSchema) (catalog : Catalog)
    (statements : List DdlStatement) : Prop :=
  ∀ statement, statement ∈ statements ↔ catalog.Wants rules inferred statement

/-- What a catalog wants only adds. -/
theorem Wants.addition {statement : DdlStatement} (wants : catalog.Wants rules inferred statement) :
    statement.Addition := by
  rcases wants_iff.mp wants with ⟨issue, _, remedy⟩
  exact Issue.addition_of_remedy? remedy

/-- An index that is wanted is one on a column that is there and leads none, under the one name that
it can have. -/
theorem Wants.createIndex {name table column : Identifier}
    (wants : catalog.Wants rules inferred (.createIndex name table [column])) :
    catalog.HasColumn table.name column.name ∧ ¬ catalog.Leads table.name column.name ∧
      indexName table column = .ok name := by
  cases wants with
  | newTable present watched missing remedy =>
      rcases Issue.createTable_of_remedy? rfl remedy with ⟨_, _, _, _, same⟩
      cases same
  | newColumn present watched used known absent remedy =>
      rcases Issue.addColumn_of_remedy? rfl remedy with ⟨_, _, _, _, same⟩
      cases same
  | newIndex present watched used there enough without remedy =>
      rcases Issue.createIndex_of_remedy? rfl remedy with ⟨_, _, _, named, listed, made, same⟩
      cases same
      have field : _ = column.name := Option.some.inj listed
      rw [← field, named]
      exact ⟨there, without, made⟩

/-- A table that is wanted has every column that code uses in it. -/
theorem Wants.createTable (consistent : inferred.Consistent) {name : Identifier}
    {columns : List ColumnDefinition}
    (wants : catalog.Wants rules inferred (.createTable name columns)) {table : InferredTable}
    (present : table ∈ Keyed.values inferred) (same : name.name = table.name)
    {column : InferredColumn} (used : column ∈ table.columns.values) :
    ∃ definition ∈ columns, definition.name.name = column.name := by
  cases wants with
  | @newTable other statement known watched missing remedy =>
      rcases Issue.createTable_of_remedy? rfl remedy with
        ⟨owner, definitions, named, listed, form⟩
      cases form
      have equal := consistent.eq_of_name_eq known present (named.symm.trans same)
      subst equal
      have expected : ExpectedColumn.mk column.name (column.declaredType rules.required) ∈
          (Detection.missingTable rules default other).expectedColumns :=
        List.mem_map.mpr ⟨column, used, rfl⟩
      rcases Synthesis.tableColumns_ok listed with ⟨key, others, keyed, rfl, _, complete⟩
      by_cases isKey : column.name = Synthesis.keyName
      · exact ⟨_, List.mem_cons_self, by rw [isKey, ← keyed, Synthesis.keyColumn_name]⟩
      · rcases complete _ expected isKey with ⟨definition, defined, name⟩
        exact ⟨definition, List.mem_cons_of_mem _ defined, name⟩
  | newColumn known watched used there absent remedy =>
      rcases Issue.addColumn_of_remedy? rfl remedy with ⟨_, _, _, _, form⟩
      cases form
  | newIndex known watched used there enough without remedy =>
      rcases Issue.createIndex_of_remedy? rfl remedy with ⟨_, _, _, _, _, _, form⟩
      cases form

/-- A catalog that has all tables and columns that code uses wants nothing but indexes. -/
theorem wantsIndexes_of_complete
    (complete : ∀ table ∈ Keyed.values inferred, catalog.HasTable table.name ∧
      ∀ column ∈ table.columns.values, catalog.HasColumn table.name column.name) :
    catalog.WantsIndexes rules inferred := by
  intro statement wants
  cases wants with
  | newTable present watched missing remedy => exact absurd (complete _ present).1 missing
  | newColumn present watched used known absent remedy =>
      exact absurd ((complete _ present).2 _ used) absent
  | newIndex present watched used there enough without remedy =>
      rcases Issue.createIndex_of_remedy? rfl remedy with ⟨name, table, column, _, _, _, rfl⟩
      exact ⟨name, table, column, rfl⟩

end Catalog

namespace Catalog.Answers

variable {statements : List DdlStatement}

/-- The statements that a catalog wants only add. -/
theorem additions (answers : catalog.Answers rules inferred statements) :
    ∀ statement ∈ statements, statement.Addition :=
  fun statement present => ((answers statement).mp present).addition

/-- After one round a catalog wants nothing but indexes. -/
theorem wantsIndexes (consistent : inferred.Consistent) (isOpen : catalog.Open)
    (answers : catalog.Answers rules inferred statements) :
    (catalog.applyAll statements).WantsIndexes rules inferred := by
  have whole := isOpen.applyAll answers.additions
  intro statement wants
  cases wants with
  | newTable present watched missing remedy =>
      have listed := (answers statement).mpr
        (.newTable present watched (fun known => missing (whole.2.tables known)) remedy)
      rcases isOpen.exists_stage answers.additions listed with ⟨before, ready, _, grows⟩
      rcases Issue.createTable_of_remedy? rfl remedy with ⟨name, columns, named, _, rfl⟩
      have made := grows.tables (ready.createTable_has name columns).1
      rw [named] at made
      exact absurd made missing
  | @newColumn table column _ present watched used known absent remedy =>
      rcases isOpen.table_of_applyAll answers.additions known with
        before | ⟨name, columns, listed, same, made⟩
      · have listed := (answers statement).mpr (.newColumn present watched used before
          (fun there => absent (whole.2.columns there)) remedy)
        rcases isOpen.exists_stage answers.additions listed with ⟨stage, ready, earlier, grows⟩
        rcases Issue.addColumn_of_remedy? rfl remedy with ⟨name, part, named, equal, rfl⟩
        have owner : stage.HasTable name.name := named ▸ earlier.tables before
        have added := grows.columns (ready.addColumn_has owner _)
        have column : column.name = part.name := Option.some.inj equal
        rw [named] at added
        rw [column] at absent
        exact absurd added absent
      · rcases ((answers _).mp listed).createTable consistent present same used with
          ⟨definition, defined, equal⟩
        have there := made definition defined
        rw [equal] at there
        exact absurd there absent
  | newIndex present watched used there enough without remedy =>
      rcases Issue.createIndex_of_remedy? rfl remedy with ⟨name, table, column, _, _, _, rfl⟩
      exact ⟨name, table, column, rfl⟩

variable (indexes : catalog.WantsIndexes rules inferred)

include indexes in
/-- Where a catalog wants nothing but indexes, they are indexes on columns that are there. -/
theorem makesIndexes (answers : catalog.Answers rules inferred statements) :
    catalog.MakesIndexes statements := by
  intro statement present
  have wants := (answers statement).mp present
  rcases indexes statement wants with ⟨name, table, column, rfl⟩
  exact ⟨name, table, column, rfl, wants.createIndex.1⟩

include indexes in
/-- After a round of indexes a catalog wants those that it wanted and did not get. -/
theorem wants_iff (isOpen : catalog.Open) (answers : catalog.Answers rules inferred statements)
    (statement : DdlStatement) :
    (catalog.applyAll statements).Wants rules inferred statement ↔
      catalog.Wants rules inferred statement ∧
        ∀ name table column, statement = .createIndex name table [column] →
          ¬ (catalog.applyAll statements).Leads table.name column.name := by
  have makes := answers.makesIndexes indexes
  have whole := isOpen.applyAll answers.additions
  rcases makes.columns_iff isOpen with ⟨tables, columns⟩
  constructor
  · intro wants
    refine ⟨?_, fun name table column same => (same ▸ wants).createIndex.2.1⟩
    cases wants with
    | newTable present watched missing remedy =>
        exact .newTable present watched (fun known => missing ((tables _).mpr known)) remedy
    | newColumn present watched used known absent remedy =>
        exact .newColumn present watched used ((tables _).mp known)
          (fun there => absent ((columns _ _).mpr there)) remedy
    | newIndex present watched used there enough without remedy =>
        exact .newIndex present watched used ((columns _ _).mp there) enough
          (fun leads => without (whole.2.leads leads)) remedy
  · rintro ⟨wants, lacks⟩
    cases wants with
    | newTable present watched missing remedy =>
        exact .newTable present watched (fun known => missing ((tables _).mp known)) remedy
    | newColumn present watched used known absent remedy =>
        exact .newColumn present watched used ((tables _).mpr known)
          (fun there => absent ((columns _ _).mp there)) remedy
    | @newIndex owner field _ present watched used there enough without remedy =>
        rcases Issue.createIndex_of_remedy? rfl remedy with
          ⟨name, table, column, named, listed, _, rfl⟩
        have left : table.name = owner.name := named
        have right : field.name = column.name := Option.some.inj listed
        refine .newIndex present watched used ((columns _ _).mpr there) enough ?_ remedy
        rw [right, ← left]
        exact lacks name table column rfl

/-- An index that was wanted has a name that is taken after the round. -/
theorem held (isOpen : catalog.Open) (answers : catalog.Answers rules inferred statements)
    {name table column : Identifier}
    (wants : catalog.Wants rules inferred (.createIndex name table [column])) :
    (catalog.applyAll statements).HoldsIndex name.name := by
  rcases isOpen.exists_stage answers.additions ((answers _).mpr wants) with
    ⟨stage, ready, earlier, grows⟩
  exact grows.indexes (ready.createIndex_has (earlier.columns wants.createIndex.1)).1

include indexes in
/-- After a round of indexes a catalog wants nothing exactly when their names were free. -/
theorem wants_none_iff (isOpen : catalog.Open) (answers : catalog.Answers rules inferred statements) :
    (∀ statement, ¬ (catalog.applyAll statements).Wants rules inferred statement) ↔
      catalog.NamesFree rules inferred := by
  have makes := answers.makesIndexes indexes
  have single : ∀ {name table column}, catalog.Wants rules inferred (.createIndex name table [column]) →
      ∀ other, .createIndex other table [column] ∈ statements → other = name := by
    intro name table column wants other present
    have made := ((answers _).mp present).createIndex.2.2
    rw [wants.createIndex.2.2] at made
    exact (Except.ok.inj made).symm
  constructor
  · intro nothing
    have leads : ∀ {name table column},
        catalog.Wants rules inferred (.createIndex name table [column]) →
        (catalog.applyAll statements).Leads table.name column.name := by
      intro name table column wants
      by_contra without
      refine nothing (.createIndex name table [column])
        ((answers.wants_iff indexes isOpen _).mpr ⟨wants, ?_⟩)
      rintro other owner part ⟨⟩
      exact without
    constructor
    · intro name table column wants held
      exact makes.not_leads_of_held isOpen held (single wants) wants.createIndex.2.1 (leads wants)
    · intro name table column other owner part wants another same
      have equal := Identifier.eq_of_name_eq same
      subst equal
      by_contra different
      exact makes.not_both isOpen (fun both => different ⟨both.1.symm, both.2.symm⟩) (single wants)
        (single another) wants.createIndex.2.1 another.createIndex.2.1 ⟨leads wants, leads another⟩
  · intro names statement wants
    rcases (answers.wants_iff indexes isOpen statement).mp wants with ⟨before, lacks⟩
    rcases indexes statement before with ⟨name, table, column, rfl⟩
    refine lacks name table column rfl (makes.leads_of_free isOpen ((answers _).mpr before)
      (names.free before) ?_)
    intro other owner part present same
    exact names.distinct before ((answers _).mp present) same

include indexes in
/-- After a round of indexes their names are free only where they were before. -/
theorem namesFree_of_applyAll (isOpen : catalog.Open)
    (answers : catalog.Answers rules inferred statements)
    (after : (catalog.applyAll statements).NamesFree rules inferred) :
    catalog.NamesFree rules inferred := by
  rw [← answers.wants_none_iff indexes isOpen]
  intro statement wants
  have before := ((answers.wants_iff indexes isOpen statement).mp wants).1
  obtain ⟨name, table, column, same⟩ := indexes statement before
  rw [same] at wants before
  exact after.free wants (answers.held isOpen before)

end Catalog.Answers

theorem Catalog.wants_of_tables {before after : Catalog} (schema : after.schema = before.schema)
    (same : after.tables = before.tables) (statement : DdlStatement) :
    after.Wants rules inferred statement ↔ before.Wants rules inferred statement := by
  have shown := Catalog.table?_of_tables schema same
  have issues : ∀ issue, after.Shows rules inferred issue ↔ before.Shows rules inferred issue := by
    intro issue
    simp only [Catalog.Shows, shown]
  simp only [Catalog.wants_iff, issues]

/-- Rounds of remedies: each executes what the catalog wants then, and makes the catalog of the
next. -/
structure Rounds (rules : DetectionRules) (inferred : InferredSchema) (catalogs : Nat → Catalog)
    (executed : Nat → List DdlStatement) : Prop where
  isOpen : (catalogs 0).Open
  step : ∀ n, catalogs (n + 1) = (catalogs n).applyAll (executed n)
  answers : ∀ n, (catalogs n).Answers rules inferred (executed n)

namespace Rounds

variable {catalogs : Nat → Catalog} {executed : Nat → List DdlStatement}

/-- Every round leaves the catalog open. -/
theorem openAt (rounds : Rounds rules inferred catalogs executed) (n : Nat) :
    (catalogs n).Open := by
  induction n with
  | zero => exact rounds.isOpen
  | succ n inductionHypothesis =>
      rw [rounds.step]
      exact (inductionHypothesis.applyAll (rounds.answers n).additions).1

/-- From the second round on a catalog wants nothing but indexes. -/
theorem wantsIndexes (consistent : inferred.Consistent)
    (rounds : Rounds rules inferred catalogs executed) (n : Nat) :
    (catalogs (n + 1)).WantsIndexes rules inferred := by
  rw [rounds.step]
  exact (rounds.answers n).wantsIndexes consistent (rounds.openAt n)

/-- From the third round on the tables stay as they are. -/
theorem tables_eq (consistent : inferred.Consistent)
    (rounds : Rounds rules inferred catalogs executed) (n : Nat) :
    (catalogs (n + 2)).tables = (catalogs 2).tables := by
  induction n with
  | zero => rfl
  | succ n inductionHypothesis =>
      have indexes := rounds.wantsIndexes consistent n
      rw [rounds.step (n + 2)]
      refine .trans (((rounds.answers (n + 2)).makesIndexes
        (rounds.wantsIndexes consistent (n + 1))).tables_of_held (rounds.openAt (n + 2)) ?_)
        inductionHypothesis
      intro name table column present
      have wants := (rounds.answers (n + 2) _).mp present
      rw [rounds.step (n + 1)] at wants ⊢
      exact (rounds.answers (n + 1)).held (rounds.openAt (n + 1))
        (((rounds.answers (n + 1)).wants_iff indexes (rounds.openAt (n + 1)) _).mp wants).1

/-- From the third round on the catalog wants the same statements. -/
theorem wants_iff (consistent : inferred.Consistent)
    (rounds : Rounds rules inferred catalogs executed) (n : Nat) (statement : DdlStatement) :
    (catalogs (n + 2)).Wants rules inferred statement ↔
      (catalogs 2).Wants rules inferred statement := by
  have schema : ∀ n, (catalogs n).schema = (catalogs 0).schema := by
    intro n
    induction n with
    | zero => rfl
    | succ n inductionHypothesis =>
        rw [rounds.step, (Catalog.applyAll_keeps _ _).1, inductionHypothesis]
  exact Catalog.wants_of_tables ((schema _).trans (schema 2).symm)
    (rounds.tables_eq consistent n) statement

/-- A round from the third on executes nothing exactly when after the first the names of the indexes
that are still wanted are free. -/
theorem quiet_iff (consistent : inferred.Consistent)
    (rounds : Rounds rules inferred catalogs executed) (n : Nat) :
    executed (n + 2) = [] ↔ (catalogs 1).NamesFree rules inferred := by
  have second := (rounds.answers 1).wants_none_iff (rounds.wantsIndexes consistent 0)
    (rounds.openAt 1)
  rw [← rounds.step 1] at second
  rw [← second, List.eq_nil_iff_forall_not_mem]
  exact forall_congr' fun statement => not_congr
    ((rounds.answers (n + 2) statement).trans (rounds.wants_iff consistent n statement))

/-- Where the names of the indexes are free, no statement is executed in two rounds. -/
theorem once (consistent : inferred.Consistent) (rounds : Rounds rules inferred catalogs executed)
    (names : (catalogs 1).NamesFree rules inferred) {first second : Nat} (earlier : first < second)
    {statement : DdlStatement} (present : statement ∈ executed first) :
    statement ∉ executed second := by
  intro again
  rcases second with _ | second
  · exact absurd earlier (Nat.not_lt_zero first)
  · rcases second with _ | second
    · have none : first = 0 := Nat.lt_one_iff.mp earlier
      subst none
      have wants := (rounds.answers 1 _).mp again
      rcases rounds.wantsIndexes consistent 0 _ wants with ⟨name, table, column, rfl⟩
      refine names.free wants ?_
      rw [rounds.step 0]
      exact (rounds.answers 0).held (rounds.openAt 0) ((rounds.answers 0 _).mp present)
    · rw [(rounds.quiet_iff consistent second).mpr names] at again
      cases again

end Rounds

end SchemaDrift
