import SchemaDrift.Proofs.Catalog.Rerun
import SchemaDrift.Proofs.Fix.Healing
import SchemaDrift.Proofs.Fix.Plan
import SchemaDrift.Proofs.Fix.Synthesis
import SchemaDrift.Proofs.Issue.Detection

namespace SchemaDrift

/-- A change of type the other way round; other statements are as they are. -/
def DdlStatement.reversed : DdlStatement → DdlStatement
  | alterColumnType table column type previous => alterColumnType table column previous type
  | other => other

/-- The columns with the first one of a name declared in other words. -/
def Definition.respell (name declared : String) : List LiveColumn → List LiveColumn
  | [] => []
  | column :: rest =>
    if column.name = name then { column with declared } :: rest
    else column :: respell name declared rest

/-- The table with the type of one column declared in other words. -/
def LiveTable.respell (table : LiveTable) (column declared : String) : LiveTable :=
  { table with columns := Definition.respell column declared table.columns }

/-- A column that is given the type that it has is declared in other words. -/
theorem Definition.setType_eq_respell {name written : String} {columns : List LiveColumn}
    {found : LiveColumn} (present : columns.find? (·.name == name) = some found)
    (kept : .ofSpelling (declaredType written).1 = found.type) :
    setType name written columns = respell name (declaredType written).1 columns := by
  induction columns with
  | nil => rfl
  | cons column rest inductionHypothesis =>
      by_cases same : column.name = name
      · rw [List.find?_cons_of_pos (by simpa using same)] at present
        cases present
        rw [setType, if_pos same, respell, if_pos same, LiveColumn.ofDeclaration, kept, same]
      · rw [List.find?_cons_of_neg (by simpa using same)] at present
        rw [setType, if_neg same, respell, if_neg same, inductionHypothesis present]

/-- A table whose column is given the type that it had, after another, has it declared in other
words. -/
theorem LiveTable.retype_back {table : LiveTable} {column written : String} {found : LiveColumn}
    (present : table.column? column = some found)
    (kept : .ofSpelling (Definition.declaredType written).1 = found.type) (between : String) :
    (table.retype column between).retype column written =
      table.respell column (Definition.declaredType written).1 := by
  simp only [retype, respell, Definition.setType_setType, Definition.setType_eq_respell present kept]

namespace Catalog

variable {catalog changed : Catalog}

/-- The catalog answers within the time, and is not told to fail on the text. -/
def Obeys (catalog : Catalog) (text : String) (limit : Span) : Prop :=
  catalog.latency.nanos ≤ limit.nanos ∧ catalog.Spares text

/-- The catalog with a table in place of the one under a name, and a batch of one text recorded. -/
def replaced (catalog : Catalog) (name : String) (live : LiveTable) (text : String) : Catalog :=
  { catalog with
    tables := catalog.tables.insert (qualifiedName catalog.schema name) live
    log := catalog.log ++ [⟨[text], true⟩] }

/-- A statement takes effect only where the catalog obeys. -/
theorem obeys_of_execute {statement : DdlStatement} (parses : statement.Parses) {limit : Span}
    (executed : catalog.execute [statement.toDdl] limit = (changed, none)) :
    catalog.Obeys statement.toDdl limit := by
  obtain ⟨tables, attempted, _⟩ := (execute_none_iff _ _ _ _).mp executed
  obtain ⟨inTime, _, ran⟩ := (attempt_ok_iff _ _ _ _).mp attempted
  exact ⟨inTime, ((runText_ok_iff _ _ parses _).mp ran).1⟩

/-- A change of the type of a column that is there takes effect when the catalog obeys. -/
theorem execute_alterColumnType_iff {table column : Identifier} {type previous : LogicalType}
    (parses : (DdlStatement.alterColumnType table column type previous).Parses)
    (available : catalog.available = true) {live : LiveTable}
    (known : catalog.table? table.name = some live) (present : (live.column? column.name).isSome)
    {limit : Span} :
    catalog.execute [(DdlStatement.alterColumnType table column type previous).toDdl] limit =
        (changed, none) ↔
      catalog.Obeys (DdlStatement.alterColumnType table column type previous).toDdl limit ∧
        changed = catalog.replaced table.name (live.retype column.name type.toSql)
          (DdlStatement.alterColumnType table column type previous).toDdl := by
  rw [execute_none_iff, Obeys, replaced]
  simp only [attempt_ok_iff, runText_ok_iff _ _ parses, Definition.run_alterColumnType, available]
  rw [← Catalog.table?, known]
  simp only [present, if_true, Except.ok.injEq, true_and]
  constructor
  · rintro ⟨tables, ⟨inTime, spares, rfl⟩, rfl⟩
    exact ⟨⟨inTime, spares⟩, rfl⟩
  · rintro ⟨⟨inTime, spares⟩, rfl⟩
    exact ⟨_, ⟨inTime, spares, rfl⟩, rfl⟩

/-- The table in place of another is found under its name. -/
theorem table?_replaced (catalog : Catalog) (name : String) (live : LiveTable) (text : String) :
    (catalog.replaced name live text).table? name = some live := by
  rw [Catalog.table?, replaced, Keyed.get?_insert, if_pos rfl]

/-- A catalog can be reached after a table was replaced as before. -/
theorem available_replaced {name text : String} {live : LiveTable} :
    (catalog.replaced name live text).available = catalog.available := rfl

/-- A catalog obeys after a table was replaced as before. -/
theorem obeys_replaced {name text other : String} {live : LiveTable} {limit : Span} :
    (catalog.replaced name live text).Obeys other limit ↔ catalog.Obeys other limit := Iff.rfl

/-- The catalog with one column declared in other words, and batches of one text each recorded. -/
def respelled (catalog : Catalog) (table name declared : String) (texts : List String) : Catalog :=
  { catalog with
    tables := catalog.tables.modify (qualifiedName catalog.schema table) (·.respell name declared)
    log := catalog.log ++ texts.map fun text => ⟨[text], true⟩ }

/-- A table that is replaced twice, at last by itself with a column declared in other words, has that
column declared in other words. -/
theorem replaced_respell (placed : catalog.WellPlaced) {table : String} {live : LiveTable}
    (known : catalog.table? table = some live) (other : LiveTable) (name declared first second : String) :
    (catalog.replaced table other first).replaced table (live.respell name declared) second =
      catalog.respelled table name declared [first, second] := by
  have tables := Keyed.insert_insert placed.ordered (qualifiedName catalog.schema table) other
    (live.respell name declared)
  have change := Keyed.insert_eq_modify placed.ordered known (·.respell name declared)
  rw [respelled, ← change, ← tables, replaced, replaced]
  simp

/-- After the type of a text column was changed, a catalog that obeys sets it to what it was, and the
column is declared in other words at most. -/
theorem execute_reversed_iff (placed : catalog.WellPlaced) (available : catalog.available = true)
    {table column : Identifier} {type : LogicalType} {live : LiveTable} {found : LiveColumn}
    (known : catalog.table? table.name = some live)
    (present : live.column? column.name = some found) (text : found.type.isText = true)
    (parses : (DdlStatement.alterColumnType table column type found.type).Parses)
    (back : (DdlStatement.alterColumnType table column found.type type).Parses)
    {limit : Span} (executed : catalog.execute
      [(DdlStatement.alterColumnType table column type found.type).toDdl] limit = (changed, none))
    (further : Span) (restored : Catalog) :
    changed.execute [(DdlStatement.alterColumnType table column found.type type).toDdl] further =
        (restored, none) ↔
      catalog.Obeys (DdlStatement.alterColumnType table column found.type type).toDdl further ∧
        restored = catalog.respelled table.name column.name
          (String.ofList (found.type.spelledWith []))
          [(DdlStatement.alterColumnType table column type found.type).toDdl,
            (DdlStatement.alterColumnType table column found.type type).toDdl] := by
  have there : (live.column? column.name).isSome := Option.isSome_of_eq_some present
  obtain ⟨_, rfl⟩ := (execute_alterColumnType_iff parses available known there).mp executed
  have still : ((live.retype column.name type.toSql).column? column.name).isSome := by
    rwa [LiveTable.column?_retype]
  have shown := table?_replaced catalog table.name (live.retype column.name type.toSql)
    (DdlStatement.alterColumnType table column type found.type).toDdl
  have spelling := Definition.declaredType_toSql found.type
  have kept : .ofSpelling (Definition.declaredType found.type.toSql).1 = found.type := by
    rw [spelling.1, spelling.2, LogicalType.canonical_of_isText text]
  rw [execute_alterColumnType_iff back (available_replaced.trans available) shown still,
    obeys_replaced, LiveTable.retype_back present kept, replaced_respell placed known, spelling.1]

end Catalog

namespace Fix

/-- A fix with approval for an issue of a type that is detected on what a catalog shows. Its statement
and the one that takes it back are parsed as what they render. -/
structure Retypes (catalog : Catalog) (reading : Introspection) (rules : DetectionRules)
    (inferred : InferredSchema) (issue : Issue) (validated : ValidatedFix) : Prop where
  placed : catalog.WellPlaced
  same : reading.schema = catalog.schema
  detected : ∃ snapshot now, reading.capture catalog = .ok snapshot ∧
    issue ∈ detectIssues rules inferred snapshot now
  kind : issue.kind = .typeMismatch
  ready : ∃ minEvidence planned, Plan.ofIssue minEvidence issue .manual planned = .ready validated
  parses : validated.fix.statement.Parses
  back : validated.fix.statement.reversed.Parses

section Retypes

variable {catalog : Catalog} {reading : Introspection} {rules : DetectionRules}
  {inferred : InferredSchema} {issue : Issue} {validated : ValidatedFix}

/-- The catalog can be reached, and has the column of the issue, which is text. -/
theorem Retypes.exists_live (retypes : Retypes catalog reading rules inferred issue validated) :
    catalog.available = true ∧
      ∃ live name found, catalog.table? issue.table = some live ∧ issue.column = some name ∧
        live.column? name = some found ∧ issue.actualType = some found.type ∧
        found.type.isText = true := by
  obtain ⟨snapshot, now, captured, detected⟩ := retypes.detected
  obtain ⟨table, _, _, difference⟩ := mem_detectIssues_iff.mp detected
  obtain ⟨live, name, found, shown, others⟩ := difference.exists_text retypes.kind
  rw [Introspection.table?_of_capture retypes.placed retypes.same captured] at shown
  refine ⟨((Introspection.exists_capture_iff retypes.same).mp ⟨snapshot, captured⟩).2.1, live, name,
    found, ?_, others⟩
  rw [difference.table_eq]
  split at shown
  · cases shown
  · exact shown

/-- The statement of the fix sets the type of the column, and the fix keeps the reversed one for its
undoing. -/
theorem Retypes.exists_statement (retypes : Retypes catalog reading rules inferred issue validated)
    {name : String} {found : LiveColumn} (named : issue.column = some name)
    (typed : issue.actualType = some found.type) (text : found.type.isText = true) :
    ∃ table column type, table.name = issue.table ∧ column.name = name ∧
      validated.fix.statement = .alterColumnType table column type found.type ∧
      validated.fix.ddl = validated.fix.statement.toDdl ∧
      validated.fix.rollback = some validated.fix.statement.reversed.toDdl := by
  obtain ⟨minEvidence, planned, ready⟩ := retypes.ready
  obtain ⟨_, statement, made, _, rfl, _⟩ := (Plan.ofIssue_ready_iff _ _ _ _ _).mp ready
  have known : found.type ≠ .unknown := fun unknown => by rw [unknown] at text; cases text
  cases (DdlStatement.ofIssue_iff_corrects issue statement).mp made with
  | newTable kind => cases retypes.kind.symm.trans kind
  | newColumn kind => cases retypes.kind.symm.trans kind
  | newIndex kind => cases retypes.kind.symm.trans kind
  | @newType table column type kind owner part expected =>
      rw [typed, Option.getD_some]
      refine ⟨table, column, type, owner, Option.some.inj (part.symm.trans named), rfl, rfl, ?_⟩
      rw [ofStatement, DdlStatement.compensating, DdlStatement.compensatingChars, if_neg known]
      rfl

end Retypes

/-- The statement of a fix for a type and the one that it keeps for its undoing take effect, one after
the other, where the catalog answers in time and is not told to fail on them. Then the catalog is as
before, but for the words in which the one column is declared, and these stand for the type that the
column had. -/
theorem rollback_restores {catalog : Catalog} {reading : Introspection} {rules : DetectionRules}
    {inferred : InferredSchema} {issue : Issue} {validated : ValidatedFix}
    (retypes : Retypes catalog reading rules inferred issue validated) (limit further : Span) :
    ∃ rollback name declared, validated.fix.rollback = some rollback ∧ issue.column = some name ∧
      issue.actualType = some (.ofSpelling declared) ∧
      ((∃ changed, catalog.execute [validated.fix.ddl] limit = (changed, none)) ↔
        catalog.Obeys validated.fix.ddl limit) ∧
      ∀ changed, catalog.execute [validated.fix.ddl] limit = (changed, none) →
        ((∃ restored, changed.execute [rollback] further = (restored, none)) ↔
          catalog.Obeys rollback further) ∧
        ∀ restored, changed.execute [rollback] further = (restored, none) →
          restored = catalog.respelled issue.table name declared [validated.fix.ddl, rollback] := by
  obtain ⟨available, live, name, found, known, named, present, typed, text⟩ := retypes.exists_live
  obtain ⟨table, column, type, owner, part, made, ddl, rollback⟩ :=
    retypes.exists_statement named typed text
  have parses := retypes.parses
  have back := retypes.back
  rw [made] at ddl rollback parses back
  rw [← owner] at known
  rw [← part] at present
  refine ⟨_, name, String.ofList (found.type.spelledWith []), rollback, named, ?_, ?_, ?_⟩
  · rw [(Definition.declaredType_toSql found.type).2, LogicalType.canonical_of_isText text, typed]
  · simp only [ddl, Catalog.execute_alterColumnType_iff parses available known
      (Option.isSome_of_eq_some present), exists_and_left, exists_eq, and_true]
  · intro changed executed
    rw [ddl] at executed ⊢
    have undone := Catalog.execute_reversed_iff retypes.placed available known present text parses
      back executed further
    rw [owner, part] at undone
    refine ⟨?_, fun restored ran => ((undone restored).mp ran).2⟩
    simp only [DdlStatement.reversed, undone, exists_and_left, exists_eq, and_true]

/-- A catalog whose ages are text of a bounded length, with a default and an index. -/
def boundedAges : Catalog :=
  .ofTables "public" ⟨0⟩ [⟨"users",
    [⟨"age", .varchar (some 20), "character varying(20)", false, some "'0'"⟩,
      .ofDeclaration "name" "text"], [⟨"users_age", ["age"], false, false⟩], []⟩]

/-- The same catalog, told to fail on every change of a table. -/
def stubbornAges : Catalog := boundedAges.addFailing "ALTER TABLE"

/-- The same catalog, which takes a time to answer. -/
def slowAges : Catalog := { boundedAges with latency := ⟨1⟩ }

/-- What these catalogs show. -/
def boundedSnapshot : Snapshot := .ofTables "public" boundedAges.tables.values

/-- What is detected on these catalogs while an age is stored as a number. -/
def boundedIssues : List Issue :=
  detectIssues watchAll (.ofStatements [storeAge]) boundedSnapshot default

/-- The issue of the ages of bounded length. -/
def boundedIssue : Issue := boundedIssues.head (by decide +kernel)

/-- The statement that makes numbers of the ages. -/
def boundedStatement : DdlStatement :=
  .alterColumnType ⟨"users", Eq.refl true⟩ ⟨"age", Eq.refl true⟩ .int (.varchar (some 20))

/-- The fix of the issue with approval. -/
def boundedFix : ValidatedFix :=
  ⟨.ofStatement boundedIssue boundedStatement default,
    Validation.isAdditive (.ofStatement boundedIssue boundedStatement default)⟩

/-- The fix is one for the type on every catalog that shows these tables. -/
theorem retypes_bounded (catalog : Catalog) (reading : Introspection) (placed : catalog.WellPlaced)
    (same : reading.schema = catalog.schema)
    (captured : reading.capture catalog = .ok boundedSnapshot) :
    Retypes catalog reading watchAll (.ofStatements [storeAge]) boundedIssue boundedFix := by
  have screened : Validation.screen watchAll.minEvidence boundedIssue = .ok () := by decide +kernel
  have made : DdlStatement.ofIssue boundedIssue = .ok boundedStatement := by decide +kernel
  have allowed : Validation.deniedWord? boundedStatement.toDdl = none := by decide +kernel
  have ready := (Plan.ofIssue_ready_iff watchAll.minEvidence boundedIssue .manual default
    boundedFix).mpr ⟨screened, boundedStatement, made, allowed, rfl, .inr rfl⟩
  exact
    { placed, same
      detected := ⟨boundedSnapshot, default, captured, List.head_mem _⟩
      kind := by decide +kernel
      ready := ⟨watchAll.minEvidence, default, ready⟩
      parses := show boundedStatement.Parses by decide +kernel
      back := show boundedStatement.reversed.Parses by decide +kernel }

/-- The ages become numbers and then text of the bounded length again, which is declared in other
words. -/
theorem rollback_restores_ages :
    ∃ changed restored declared, LogicalType.ofSpelling declared = .varchar (some 20) ∧
      boundedAges.execute [boundedStatement.toDdl] ⟨0⟩ = (changed, none) ∧
      changed.execute [boundedStatement.reversed.toDdl] ⟨0⟩ = (restored, none) ∧
      restored = boundedAges.respelled "users" "age" declared
        [boundedStatement.toDdl, boundedStatement.reversed.toDdl] := by
  have placed : boundedAges.WellPlaced := Catalog.wellPlaced_ofTables _ _ _
  have same : readPublic.schema = boundedAges.schema := by decide +kernel
  have captured : readPublic.capture boundedAges = .ok boundedSnapshot := by decide +kernel
  have untold : boundedAges.failing = [] := by decide +kernel
  have obeys : ∀ text, boundedAges.Obeys text ⟨0⟩ := fun text =>
    ⟨by decide +kernel, fun pattern told => absurd (untold ▸ told) List.not_mem_nil⟩
  obtain ⟨rollback, name, declared, kept, named, typed, first, rest⟩ :=
    rollback_restores (retypes_bounded boundedAges readPublic placed same captured) ⟨0⟩ ⟨0⟩
  have age : boundedIssue.column = some "age" := by decide +kernel
  have length : boundedIssue.actualType = some (.varchar (some 20)) := by decide +kernel
  have back : boundedFix.fix.rollback = some boundedStatement.reversed.toDdl := by decide +kernel
  cases kept.symm.trans back
  cases named.symm.trans age
  obtain ⟨changed, executed⟩ := first.mpr (obeys _)
  obtain ⟨second, final⟩ := rest changed executed
  obtain ⟨restored, ran⟩ := second.mpr (obeys _)
  exact ⟨changed, restored, declared, Option.some.inj (typed.symm.trans length), executed, ran,
    final restored ran⟩

/-- A catalog that is told to fail on changes of tables refuses the fix whatever the time that it has,
and a catalog that does not answer in time refuses it too. -/
theorem rollback_refused :
    (Retypes stubbornAges readPublic watchAll (.ofStatements [storeAge]) boundedIssue boundedFix ∧
      ∀ limit changed, stubbornAges.execute [boundedFix.fix.ddl] limit ≠ (changed, none)) ∧
    Retypes slowAges ⟨"public", 1, ⟨1⟩⟩ watchAll (.ofStatements [storeAge]) boundedIssue
        boundedFix ∧
      ∀ changed, slowAges.execute [boundedFix.fix.ddl] ⟨0⟩ ≠ (changed, none) := by
  have placed : boundedAges.WellPlaced := Catalog.wellPlaced_ofTables _ _ _
  have stubborn := retypes_bounded stubbornAges readPublic
    ⟨placed.ordered, placed.name_eq⟩ (by decide +kernel) (by decide +kernel)
  have slow := retypes_bounded slowAges ⟨"public", 1, ⟨1⟩⟩
    ⟨placed.ordered, placed.name_eq⟩ (by decide +kernel) (by decide +kernel)
  refine ⟨⟨stubborn, fun limit changed executed => ?_⟩, slow, fun changed executed => ?_⟩
  · have spares := (Catalog.obeys_of_execute stubborn.parses executed).2
    exact absurd (spares "ALTER TABLE" (by decide +kernel)) (by decide +kernel)
  · have inTime := (Catalog.obeys_of_execute slow.parses executed).1
    exact absurd inTime (by decide +kernel)

end Fix

end SchemaDrift
