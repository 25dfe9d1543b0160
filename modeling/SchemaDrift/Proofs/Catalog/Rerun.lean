import Mathlib.Data.List.Induction
import SchemaDrift.Proofs.Ddl.Reach

/-
This file holds why a batch of statements can be run twice: the second time every table, column and
index that it adds is there, and of the types that it gives to a column the last one wins again.
-/

namespace SchemaDrift

namespace Definition

/-- A column has the type that it was given last. -/
theorem setType_setType (name earlier later : String) (columns : List LiveColumn) :
    setType name later (setType name earlier columns) = setType name later columns := by
  induction columns with
  | nil => rfl
  | cons column rest inductionHypothesis =>
      by_cases same : column.name = name
      · simp [setType, same, LiveColumn.ofDeclaration]
      · simp [setType, same, inductionHypothesis]

/-- Two columns may be given their types in either order. -/
theorem setType_comm {name other : String} (different : name ≠ other) (written said : String)
    (columns : List LiveColumn) :
    setType name written (setType other said columns) =
      setType other said (setType name written columns) := by
  induction columns with
  | nil => rfl
  | cons column rest inductionHypothesis =>
      by_cases first : column.name = name
      · simp [setType, first, different, LiveColumn.ofDeclaration]
      · by_cases second : column.name = other
        · simp [setType, second, Ne.symm different, LiveColumn.ofDeclaration]
        · simp [setType, first, second, inductionHypothesis]

/-- A column that is there is given its type before others come after it. -/
theorem setType_append {name : String} (written : String) {columns : List LiveColumn}
    (present : (columns.find? (·.name == name)).isSome) (others : List LiveColumn) :
    setType name written (columns ++ others) = setType name written columns ++ others := by
  induction columns with
  | nil => cases present
  | cons column rest inductionHypothesis =>
      by_cases same : column.name = name
      · simp [setType, same]
      · have unequal : (column.name == name) = false := beq_eq_false_iff_ne.mpr same
        rw [List.find?_cons, unequal] at present
        simp [setType, same, inductionHypothesis present]

end Definition

namespace LiveTable

variable {table : LiveTable}

/-- A table keeps its columns when one of them is given a type. -/
theorem column?_retype (table : LiveTable) (column written name : String) :
    ((table.retype column written).column? name).isSome = (table.column? name).isSome := by
  unfold column? retype
  simp only
  induction table.columns with
  | nil => rfl
  | cons first rest inductionHypothesis =>
      rw [Definition.setType]
      by_cases same : first.name = column
      · simp only [same, if_true, List.find?_cons, LiveColumn.ofDeclaration]
        cases column == name <;> rfl
      · simp only [if_neg same, List.find?_cons]
        cases first.name == name
        · exact inductionHypothesis
        · rfl

/-- A table keeps its columns when it gets another. -/
theorem column?_withColumn (added : LiveColumn) {name : String}
    (present : (table.column? name).isSome) : ((table.withColumn added).column? name).isSome := by
  rw [withColumn]
  split
  · exact present
  · rw [column?] at present ⊢
    rw [List.find?_append, Option.isSome_or, present, Bool.true_or]

theorem column?_withColumn_self (table : LiveTable) (added : LiveColumn) :
    ((table.withColumn added).column? added.name).isSome := by
  rw [withColumn]
  split
  · assumption
  · rw [column?, List.find?_append, Option.isSome_or, Bool.or_eq_true]
    exact .inr (List.find?_isSome.mpr ⟨added, List.mem_singleton_self _, beq_self_eq_true _⟩)

/-- A column that is there is given its type before or after another is added. -/
theorem retype_withColumn (added : LiveColumn) {column : String}
    (present : (table.column? column).isSome) (written : String) :
    (table.withColumn added).retype column written =
      (table.retype column written).withColumn added := by
  unfold withColumn
  rw [column?_retype]
  split
  · rfl
  · rw [column?] at present
    simp only [retype, Definition.setType_append written present]

end LiveTable

namespace DdlStatement

variable {schema : String} {tables changed : Keyed LiveTable} {live made : LiveTable}

/-- The tables after a statement was run as what it is parsed as. -/
def run (schema : String) (tables : Keyed LiveTable) (statement : DdlStatement) :
    Except DefinitionError (Keyed LiveTable) :=
  Definition.run schema tables statement.toSql

/-- The tables after some statements were run one after the other. -/
def runAll (schema : String) (tables : Keyed LiveTable) (statements : List DdlStatement) :
    Except DefinitionError (Keyed LiveTable) :=
  statements.foldlM (run schema) tables

/-- What a statement asks for is there: its table, the column that it adds or changes, or an index of
the name. -/
def Met (schema : String) (tables : Keyed LiveTable) : DdlStatement → Prop
  | createTable table _ => ∃ live, tables.get? (qualifiedName schema table.name) = some live
  | addColumn table column => ∃ live, tables.get? (qualifiedName schema table.name) = some live ∧
      (live.column? column.name.name).isSome
  | createIndex name _ _ => Definition.hasIndex tables name.name = true
  | alterColumnType table column _ _ =>
    ∃ live, tables.get? (qualifiedName schema table.name) = some live ∧
      (live.column? column.name).isSome

/-- The statement adds something, and does not change what is there. -/
def IsAddition : DdlStatement → Prop
  | alterColumnType _ _ _ _ => False
  | _ => True

theorem column?_rewrite {statement : DdlStatement}
    (rewritten : statement.rewrite (some live) = .ok made) {name : String}
    (present : (live.column? name).isSome) : (made.column? name).isSome := by
  cases statement with
  | createTable table columns =>
      cases rewritten
      exact present
  | addColumn table column =>
      cases rewritten
      exact LiveTable.column?_withColumn _ present
  | alterColumnType table column type previous =>
      rw [rewrite] at rewritten
      split at rewritten
      · cases rewritten
        rwa [LiveTable.column?_retype]
      · cases rewritten
  | createIndex index table columns =>
      rw [rewrite] at rewritten
      cases indexed : columns.mapM live.indexable with
      | error error =>
          rw [indexed] at rewritten
          cases rewritten
      | ok names =>
          rw [indexed] at rewritten
          cases rewritten
          exact present

/-- A statement that is run has an effect, which takes its place. -/
theorem run_ok_iff (ordered : tables.Ordered) (statement : DdlStatement) :
    statement.run schema tables = .ok changed ↔
      ∃ placed, statement.effect schema tables = .ok placed ∧
        statement.place schema tables placed = changed := by
  rw [run, run_toSql ordered]
  cases statement.effect schema tables <;> simp [Except.map]

/-- A statement has no effect where its index is there, and else the effect on its own table. -/
theorem effect_ok_iff (statement : DdlStatement) (placed : Option LiveTable) :
    statement.effect schema tables = .ok placed ↔
      (statement.isTaken tables = true ∧ placed = none) ∨
        (statement.isTaken tables = false ∧ ∃ live,
          statement.rewrite (tables.get? (statement.key schema)) = .ok live ∧ placed = some live) := by
  rw [effect]
  cases statement.isTaken tables with
  | true => simp [eq_comm]
  | false =>
      cases statement.rewrite (tables.get? (statement.key schema)) <;>
        simp [Except.map, eq_comm]

/-- A statement leaves the tables in the order of their names. -/
theorem ordered_run (ordered : tables.Ordered) {statement : DdlStatement}
    (ran : statement.run schema tables = .ok changed) : changed.Ordered := by
  obtain ⟨placed, _, rfl⟩ := (run_ok_iff ordered statement).mp ran
  exact ordered_place ordered statement placed

/-- A table is still there after a statement, with all its columns. -/
theorem get?_run (ordered : tables.Ordered) {statement : DdlStatement}
    (ran : statement.run schema tables = .ok changed) {key : String}
    (known : tables.get? key = some live) :
    ∃ later, changed.get? key = some later ∧
      ∀ name, (live.column? name).isSome → (later.column? name).isSome := by
  obtain ⟨placed, effective, rfl⟩ := (run_ok_iff ordered statement).mp ran
  obtain ⟨_, rfl⟩ | ⟨_, made, rewritten, rfl⟩ := (effect_ok_iff statement placed).mp effective
  · exact ⟨live, known, fun _ => id⟩
  · rw [place, Keyed.get?_insert]
    by_cases own : statement.key schema = key
    · rw [own, known] at rewritten
      exact ⟨made, if_pos own, fun _ => column?_rewrite rewritten⟩
    · exact ⟨live, by rw [if_neg own, known], fun _ => id⟩

/-- What a statement asks for stays there whatever is run after it. -/
theorem Met.run (ordered : tables.Ordered) {statement other : DdlStatement}
    (met : statement.Met schema tables) (ran : other.run schema tables = .ok changed) :
    statement.Met schema changed := by
  cases statement with
  | createTable table columns =>
      obtain ⟨live, known⟩ := met
      obtain ⟨later, found, _⟩ := get?_run ordered ran known
      exact ⟨later, found⟩
  | addColumn table column =>
      obtain ⟨live, known, present⟩ := met
      obtain ⟨later, found, kept⟩ := get?_run ordered ran known
      exact ⟨later, found, kept _ present⟩
  | createIndex name table columns =>
      obtain ⟨placed, effective, rfl⟩ := (run_ok_iff ordered other).mp ran
      exact (hasIndex_place_iff ordered effective name.name).mpr (.inl met)
  | alterColumnType table column type previous =>
      obtain ⟨live, known, present⟩ := met
      obtain ⟨later, found, kept⟩ := get?_run ordered ran known
      exact ⟨later, found, kept _ present⟩

/-- A change of type is run where the column is there, which is given the type. -/
theorem run_retype_ok_iff (table column : Identifier) (type previous : LogicalType) :
    (alterColumnType table column type previous).run schema tables = .ok changed ↔
      ∃ live, tables.get? (qualifiedName schema table.name) = some live ∧
        (live.column? column.name).isSome ∧
        tables.insert (qualifiedName schema table.name) (live.retype column.name type.toSql) =
          changed := by
  rw [run, Definition.run_alterColumnType]
  cases tables.get? (qualifiedName schema table.name) with
  | none => simp
  | some live =>
      by_cases present : (live.column? column.name).isSome <;> simp [present, LiveTable.retype]

/-- What a statement asks for is there once it has been run. -/
theorem met_run (ordered : tables.Ordered) {statement : DdlStatement}
    (ran : statement.run schema tables = .ok changed) : statement.Met schema changed := by
  cases statement with
  | alterColumnType table column type previous =>
      obtain ⟨live, _, present, rfl⟩ := (run_retype_ok_iff table column type previous).mp ran
      exact ⟨_, by rw [Keyed.get?_insert, if_pos rfl], by rwa [LiveTable.column?_retype]⟩
  | createIndex name table columns =>
      obtain ⟨placed, effective, rfl⟩ := (run_ok_iff ordered _).mp ran
      refine (hasIndex_place_iff ordered effective name.name).mpr ?_
      rw [or_iff_not_imp_left]
      intro free
      simp [wanted, isTaken, free, newIndexes]
  | createTable table columns =>
      obtain ⟨placed, effective, rfl⟩ := (run_ok_iff ordered _).mp ran
      obtain ⟨taken, _⟩ | ⟨_, made, rewritten, rfl⟩ := (effect_ok_iff _ placed).mp effective
      · cases taken
      · exact ⟨made, by rw [place, Keyed.get?_insert]; exact if_pos rfl⟩
  | addColumn table column =>
      obtain ⟨placed, effective, rfl⟩ := (run_ok_iff ordered _).mp ran
      obtain ⟨taken, _⟩ | ⟨_, made, rewritten, rfl⟩ := (effect_ok_iff _ placed).mp effective
      · cases taken
      · refine ⟨made, by rw [place, Keyed.get?_insert]; exact if_pos rfl, ?_⟩
        cases known : tables.get? ((addColumn table column).key schema) with
        | none =>
            rw [known] at rewritten
            cases rewritten
        | some live =>
            rw [known] at rewritten
            cases rewritten
            exact LiveTable.column?_withColumn_self live column.live

/-- A column is given its type before or after a statement on its table, which finds the same
there, unless the statement gives that column a type before. -/
theorem rewrite_retype {statement : DdlStatement}
    (rewritten : statement.rewrite (some live) = .ok made) {column : String}
    (present : (live.column? column).isSome) (written : String) :
    made.retype column written = live.retype column written ∨
      statement.rewrite (some (live.retype column written)) = .ok (made.retype column written) := by
  cases statement with
  | createTable table columns =>
      cases rewritten
      exact .inr rfl
  | addColumn table added =>
      cases rewritten
      exact .inr (congrArg Except.ok (LiveTable.retype_withColumn _ present written).symm)
  | alterColumnType table other type previous =>
      rw [rewrite] at rewritten
      split at rewritten
      · rename_i known
        cases rewritten
        by_cases same : other.name = column
        · left
          simp only [LiveTable.retype, same, Definition.setType_setType]
        · right
          rw [rewrite, LiveTable.column?_retype, if_pos known]
          simp only [LiveTable.retype, Definition.setType_comm same]
      · cases rewritten
  | createIndex name table columns =>
      right
      have found : (live.retype column written).indexable = live.indexable := by
        funext name
        rw [LiveTable.indexable, LiveTable.indexable, LiveTable.column?_retype]
      rw [rewrite] at rewritten
      rw [rewrite, found]
      cases indexed : columns.mapM live.indexable with
      | error error =>
          rw [indexed] at rewritten
          cases rewritten
      | ok names =>
          rw [indexed] at rewritten
          cases rewritten
          rfl

/-- A statement whose addition is there changes nothing. -/
theorem Met.run_eq (ordered : tables.Ordered) {statement : DdlStatement}
    (met : statement.Met schema tables) (addition : statement.IsAddition) :
    statement.run schema tables = .ok tables := by
  rw [run_ok_iff ordered]
  cases statement with
  | createTable table columns =>
      obtain ⟨live, known⟩ := met
      refine ⟨some live, (effect_ok_iff _ _).mpr (.inr ⟨rfl, live, ?_, rfl⟩),
        Keyed.insert_of_get? ordered known⟩
      rw [key, DdlStatement.table, known, rewrite]
  | addColumn table column =>
      obtain ⟨live, known, present⟩ := met
      refine ⟨some live, (effect_ok_iff _ _).mpr (.inr ⟨rfl, live, ?_, rfl⟩),
        Keyed.insert_of_get? ordered known⟩
      rw [key, DdlStatement.table, known, rewrite, LiveTable.withColumn]
      exact congrArg Except.ok (if_pos present)
  | createIndex name table columns =>
      exact ⟨none, (effect_ok_iff _ _).mpr (.inl ⟨met, rfl⟩), rfl⟩
  | alterColumnType table column type previous => cases addition

/-- A statement that was run is run again without any change. -/
theorem run_again (ordered : tables.Ordered) {statement : DdlStatement}
    (ran : statement.run schema tables = .ok changed) :
    statement.run schema changed = .ok changed := by
  cases statement with
  | alterColumnType table column type previous =>
      rw [run_retype_ok_iff] at ran ⊢
      obtain ⟨live, known, present, rfl⟩ := ran
      refine ⟨_, by rw [Keyed.get?_insert, if_pos rfl], by rwa [LiveTable.column?_retype], ?_⟩
      rw [Keyed.insert_insert ordered]
      simp only [LiveTable.retype, Definition.setType_setType]
  | _ => exact (met_run ordered ran).run_eq (ordered_run ordered ran) trivial

/-- A statement whose addition is there is run. -/
theorem Met.exists_run (ordered : tables.Ordered) {statement : DdlStatement}
    (met : statement.Met schema tables) : ∃ changed, statement.run schema tables = .ok changed := by
  cases statement with
  | alterColumnType table column type previous =>
      obtain ⟨live, known, present⟩ := met
      exact ⟨_, (run_retype_ok_iff _ _ _ _).mpr ⟨live, known, present, rfl⟩⟩
  | _ => exact ⟨tables, met.run_eq ordered trivial⟩

/-- A change of type adds no index. -/
theorem isTaken_retype (ordered : tables.Ordered) {table column : Identifier}
    {type previous : LogicalType}
    (ran : (alterColumnType table column type previous).run schema tables = .ok changed)
    (statement : DdlStatement) : statement.isTaken changed = statement.isTaken tables := by
  obtain ⟨placed, effective, rfl⟩ := (run_ok_iff ordered _).mp ran
  cases statement with
  | createIndex name other columns =>
      rw [Bool.eq_iff_iff, isTaken, isTaken, hasIndex_place_iff ordered effective]
      simp [wanted, isTaken, newIndexes]
  | _ => rfl

/-- A change of type and a statement after it may be run in the other order: either the statement
makes up for the change, or both orders end at the same tables. -/
theorem retype_diamond (ordered : tables.Ordered) {table column : Identifier}
    {type previous : LogicalType} {statement : DdlStatement} {before : Keyed LiveTable}
    (retyped : (alterColumnType table column type previous).run schema tables = .ok before)
    (ran : statement.run schema tables = .ok changed) :
    (alterColumnType table column type previous).run schema changed = .ok before ∨
      ∃ last, statement.run schema before = .ok last ∧
        (alterColumnType table column type previous).run schema changed = .ok last := by
  have unindexed := isTaken_retype ordered retyped statement
  have ordered' := ordered_run ordered retyped
  rw [run_retype_ok_iff] at retyped
  obtain ⟨live, known, present, rfl⟩ := retyped
  obtain ⟨placed, effective, rfl⟩ := (run_ok_iff ordered statement).mp ran
  obtain ⟨_, rfl⟩ | ⟨free, made, rewritten, rfl⟩ := (effect_ok_iff statement _).mp effective
  · exact .inl ((run_retype_ok_iff _ _ _ _).mpr ⟨live, known, present, rfl⟩)
  · rw [← unindexed] at free
    by_cases same : statement.key schema = qualifiedName schema table.name
    · rw [same, known] at rewritten
      have changes : (alterColumnType table column type previous).run schema
          (statement.place schema tables (some made)) =
            .ok (tables.insert (qualifiedName schema table.name)
              (made.retype column.name type.toSql)) := by
        rw [run_retype_ok_iff, place, same]
        exact ⟨made, by rw [Keyed.get?_insert, if_pos rfl], column?_rewrite rewritten present,
          Keyed.insert_insert ordered _ _ _⟩
      rw [changes]
      obtain absorbed | later := rewrite_retype rewritten present type.toSql
      · exact .inl (by rw [absorbed])
      · refine .inr ⟨_, (run_ok_iff ordered' _).mpr ⟨_, (effect_ok_iff _ _).mpr (.inr ⟨free,
          made.retype column.name type.toSql, ?_, rfl⟩), ?_⟩, rfl⟩
        · rw [same, Keyed.get?_insert, if_pos rfl, later]
        · rw [place, same, Keyed.insert_insert ordered]
    · refine .inr ⟨_, (run_ok_iff ordered' _).mpr ⟨_, (effect_ok_iff _ _).mpr (.inr ⟨free, made,
        ?_, rfl⟩), rfl⟩, (run_retype_ok_iff _ _ _ _).mpr ⟨live, ?_, present, ?_⟩⟩
      · rw [Keyed.get?_insert, if_neg (Ne.symm same), rewritten]
      · rw [place, Keyed.get?_insert, if_neg same, known]
      · exact Keyed.insert_comm ordered same _ _

/-- A statement whose addition is there may be run before or after another one: either the other
makes up for it, or both orders end at the same tables. -/
theorem Met.run_diamond (ordered : tables.Ordered) {earlier statement : DdlStatement}
    {before : Keyed LiveTable} (met : earlier.Met schema tables)
    (first : earlier.run schema tables = .ok before)
    (ran : statement.run schema tables = .ok changed) :
    earlier.run schema changed = .ok before ∨
      ∃ last, statement.run schema before = .ok last ∧ earlier.run schema changed = .ok last := by
  have additive : earlier.IsAddition →
      ∃ last, statement.run schema before = .ok last ∧
        earlier.run schema changed = .ok last := by
    intro addition
    rw [met.run_eq ordered addition] at first
    cases first
    exact ⟨changed, ran, (met.run ordered ran).run_eq (ordered_run ordered ran) addition⟩
  cases earlier with
  | alterColumnType table column type previous => exact retype_diamond ordered first ran
  | _ => exact .inr (additive trivial)

/-- The last statement is run on the tables that those before it make. -/
theorem runAll_concat_ok_iff (statements : List DdlStatement) (statement : DdlStatement) :
    runAll schema tables (statements ++ [statement]) = .ok changed ↔
      ∃ between, runAll schema tables statements = .ok between ∧
        statement.run schema between = .ok changed := by
  rw [runAll, List.foldlM_append, Result.bind_ok_iff]
  simp only [List.foldlM_cons, List.foldlM_nil, bind_pure, runAll]

/-- Statements whose additions are there make up for a statement before them that comes again. -/
theorem runAll_absorb (ordered : tables.Ordered) {statements : List DdlStatement}
    {statement : DdlStatement} (met : ∀ earlier ∈ statements, earlier.Met schema tables)
    (ran : statement.run schema tables = .ok changed) :
    runAll schema changed (statements ++ [statement]) =
      runAll schema tables (statements ++ [statement]) := by
  induction statements generalizing tables changed with
  | nil =>
      simp only [runAll, List.nil_append, List.foldlM_cons, ran, run_again ordered ran]
  | cons earlier rest inductionHypothesis =>
      have head := met earlier List.mem_cons_self
      obtain ⟨before, first⟩ := head.exists_run ordered
      have kept : ∀ other ∈ rest, other.Met schema before := fun other among =>
        (met other (List.mem_cons_of_mem _ among)).run ordered first
      simp only [runAll, List.cons_append, List.foldlM_cons] at inductionHypothesis ⊢
      obtain same | ⟨last, joined, later⟩ := head.run_diamond ordered first ran
      · rw [same, first]
      · rw [later, first]
        exact inductionHypothesis (ordered_run ordered first) kept joined

/-- Statements leave the tables in the order of their names, and what they ask for is there. -/
theorem met_runAll (ordered : tables.Ordered) {statements : List DdlStatement}
    (ran : runAll schema tables statements = .ok changed) :
    changed.Ordered ∧ ∀ statement ∈ statements, statement.Met schema changed := by
  induction statements using List.reverseRecOn generalizing changed with
  | nil =>
      cases ran
      exact ⟨ordered, nofun⟩
  | append_singleton earlier statement inductionHypothesis =>
      obtain ⟨between, first, last⟩ := (runAll_concat_ok_iff _ _).mp ran
      obtain ⟨sorted, met⟩ := inductionHypothesis first
      refine ⟨ordered_run sorted last, fun other among => ?_⟩
      rw [List.mem_append, List.mem_singleton] at among
      obtain before | rfl := among
      · exact (met other before).run sorted last
      · exact met_run sorted last

/-- Statements that were run one after the other are run again without any change. -/
theorem runAll_again (ordered : tables.Ordered) {statements : List DdlStatement}
    (ran : runAll schema tables statements = .ok changed) :
    runAll schema changed statements = .ok changed := by
  induction statements using List.reverseRecOn generalizing changed with
  | nil => rfl
  | append_singleton earlier statement inductionHypothesis =>
      obtain ⟨between, first, last⟩ := (runAll_concat_ok_iff _ _).mp ran
      obtain ⟨sorted, met⟩ := met_runAll ordered first
      rw [runAll_absorb sorted met last, runAll_concat_ok_iff]
      exact ⟨between, inductionHypothesis first, last⟩

end DdlStatement

namespace Catalog

/-- Statements that are parsed as themselves have their effects one after the other, unless the
catalog is told to fail on one of them. -/
theorem runTexts_ok_iff (catalog : Catalog) {statements : List DdlStatement}
    (parses : ∀ statement ∈ statements, statement.Parses) (tables changed : Keyed LiveTable) :
    (statements.map (·.toDdl)).foldlM catalog.runText tables = .ok changed ↔
      (∀ statement ∈ statements, catalog.Spares statement.toDdl) ∧
        DdlStatement.runAll catalog.schema tables statements = .ok changed := by
  induction statements generalizing tables with
  | nil => simp [DdlStatement.runAll, Result.pure_ok_iff]
  | cons statement rest inductionHypothesis =>
      rw [List.forall_mem_cons] at parses
      simp only [DdlStatement.runAll] at inductionHypothesis ⊢
      simp only [List.map_cons, List.foldlM_cons, Result.bind_ok_iff, List.forall_mem_cons,
        runText_ok_iff catalog _ parses.1, inductionHypothesis parses.2, DdlStatement.run]
      constructor
      · rintro ⟨between, ⟨spared, ran⟩, others, later⟩
        exact ⟨⟨spared, others⟩, between, ran, later⟩
      · rintro ⟨⟨spared, others⟩, between, ran, later⟩
        exact ⟨between, ⟨spared, ran⟩, others, later⟩

/-- Statements that a catalog ran together are run again without any change but in the record. -/
theorem execute_again {catalog changed : Catalog} (ordered : catalog.tables.Ordered)
    {statements : List DdlStatement} (parses : ∀ statement ∈ statements, statement.Parses)
    {limit : Span}
    (executed : catalog.execute (statements.map (·.toDdl)) limit = (changed, none)) :
    changed.execute (statements.map (·.toDdl)) limit =
      ({ changed with log := changed.log ++ [⟨statements.map (·.toDdl), true⟩] }, none) := by
  obtain ⟨tables, attempted, rfl⟩ := (execute_none_iff _ _ _ _).mp executed
  rw [attempt_ok_iff_runBatch, runBatch, runTexts_ok_iff catalog parses] at attempted
  obtain ⟨timely, available, spared, ran⟩ := attempted
  rw [execute_none_iff]
  refine ⟨tables, ?_, rfl⟩
  rw [attempt_ok_iff_runBatch, runBatch, runTexts_ok_iff _ parses]
  exact ⟨timely, available, spared, DdlStatement.runAll_again ordered ran⟩

namespace Migration

/-- A catalog without tables. -/
def fresh : Catalog := .empty "public" ⟨0⟩

def users : Identifier := ⟨"users", Eq.refl true⟩

/-- The column of ages. -/
def age : Identifier := ⟨"age", Eq.refl true⟩

/-- The table of users, its column of ages, and two changes of the type of the ages. -/
def statements : List DdlStatement :=
  [.createTable users [.surrogateKey ⟨"id", Eq.refl true⟩], .addColumn users (.plain age .string),
    .alterColumnType users age .int .string, .alterColumnType users age (.array .float) .int]

def migrated : Catalog where
  schema := "public"
  tables := [("public.users", ⟨"users", [⟨"id", .int, "bigint", false, some "nextval()"⟩,
    .ofDeclaration "age" "double precision[]"], [⟨"users_pkey", ["id"], true, true⟩],
    [⟨"users_pkey", .primaryKey, ["id"]⟩]⟩)]
  faults := []
  failing := []
  available := true
  latency := ⟨0⟩
  log := [⟨statements.map (·.toDdl), true⟩]

/-- The statements make a table with a column whose type they change twice, and are run again without
any change but in the record. -/
theorem execute_twice :
    fresh.tables.Ordered ∧ (∀ statement ∈ statements, statement.Parses) ∧
      fresh.execute (statements.map (·.toDdl)) ⟨0⟩ = (migrated, none) ∧
      migrated.execute (statements.map (·.toDdl)) ⟨0⟩ =
        ({ migrated with log := migrated.log ++ [⟨statements.map (·.toDdl), true⟩] }, none) := by
  have ordered : fresh.tables.Ordered := List.Pairwise.nil
  have parses : ∀ statement ∈ statements, statement.Parses := by decide +kernel
  have ran : DdlStatement.runAll fresh.schema fresh.tables statements = .ok migrated.tables := by
    decide +kernel
  have executed : fresh.execute (statements.map (·.toDdl)) ⟨0⟩ = (migrated, none) := by
    rw [execute_none_iff]
    refine ⟨migrated.tables, ?_, rfl⟩
    rw [attempt_ok_iff_runBatch, runBatch, runTexts_ok_iff fresh parses]
    exact ⟨le_rfl, rfl, fun _ _ _ failing => absurd failing List.not_mem_nil, ran⟩
  exact ⟨ordered, parses, executed, execute_again ordered parses executed⟩

end Migration

end Catalog

end SchemaDrift
