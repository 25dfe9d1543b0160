import SchemaDrift.Proofs.Catalog.Change
import SchemaDrift.Proofs.Fix.Plan
import SchemaDrift.Proofs.Fix.Synthesis
import SchemaDrift.Proofs.Inference.Schema
import SchemaDrift.Proofs.Issue.Detection

namespace SchemaDrift

/-- What a fix leaves to detect: not the issue that it was made for, nothing but indexes on a table
that it created, and on other tables what was there before. -/
structure Heals (rules : DetectionRules) (inferred : InferredSchema) (issue : Issue)
    (before after : Snapshot) : Prop where
  gone : ∀ {now other}, other ∈ detectIssues rules inferred after now →
    ¬ (other.kind = issue.kind ∧ other.table = issue.table ∧ other.column = issue.column)
  whole : issue.kind = .missingTable → ∀ {now other}, other ∈ detectIssues rules inferred after now →
    other.table = issue.table → other.kind = .missingIndex
  others : ∀ {now other}, other.table ≠ issue.table →
    (other ∈ detectIssues rules inferred after now ↔
      other ∈ detectIssues rules inferred before now)

theorem DetectionRules.visible_of_watches {rules : DetectionRules} {name : String}
    (watched : rules.watches name = true) : Introspection.isInternal name = false := by
  rw [watches, Bool.not_eq_true', Bool.or_eq_false_iff, isSystemTable, Bool.or_eq_false_iff,
    Bool.or_eq_false_iff] at watched
  exact watched.1.1.1

namespace Detection

variable {rules : DetectionRules} {now : Moment} {table : InferredTable}

/-- No mismatch is reported for a column outside text. -/
theorem typeMismatch?_of_specific {column : InferredColumn} {found : LiveColumn}
    (other : found.type.isText = false) : typeMismatch? rules now table column found = none := by
  cases made : typeMismatch? rules now table column found with
  | none => rfl
  | some issue =>
      rcases typeMismatch?_some made with ⟨_, _, _, _, _, proposed, _, mismatch, _⟩
      rw [isMismatch, other] at mismatch
      cases mismatch

/-- No mismatch is reported for a column that has a type outside text where code declares one. -/
theorem typeMismatch?_of_declared {column : InferredColumn} {found : LiveColumn}
    (typed : ∀ type, column.declaredType rules.required = some type → type.isSpecific = true →
      found.type.isText = false) : typeMismatch? rules now table column found = none := by
  cases wanted : column.proposedType rules.required with
  | none => simp [typeMismatch?, wanted]
  | some proposed =>
      by_cases specific : proposed.isSpecific = true
      · refine typeMismatch?_of_specific (typed proposed ?_ specific)
        simp [InferredColumn.declaredType, wanted]
      · simp [typeMismatch?, wanted, isMismatch, specific]

/-- A table that has the column lacks at most an index on it, unless the column is text that should
be something specific. -/
theorem Difference.kind_of_column {live : LiveTable} {issue : Issue}
    (difference : Difference rules now table (some live) issue)
    (covered : ∀ column ∈ table.columns.values, issue.column = some column.name →
      ∃ found, live.column? column.name = some found ∧
        typeMismatch? rules now table column found = none) :
    issue.kind = .missingIndex := by
  cases difference with
  | missingColumn used absent =>
      rcases covered _ used rfl with ⟨found, present, _⟩
      rw [absent] at present
      cases present
  | typeMismatch used present made =>
      rcases covered _ used (typeMismatch?_some made).2.2.1 with ⟨found, known, unmade⟩
      rw [present] at known
      cases known
      rw [unmade] at made
      cases made
  | missingIndex => rfl

end Detection

/-- The issues of a table that a catalog has now are its differences from what it has now. -/
theorem Catalog.Rewrites.difference {rules : DetectionRules} {inferred : InferredSchema}
    (consistent : inferred.Consistent) {catalog changed : Catalog} {live : LiveTable}
    (placed : catalog.WellPlaced) {reading : Introspection} (same : reading.schema = catalog.schema)
    (rewrites : catalog.Rewrites changed live) {snapshot healed : Snapshot}
    (captured : reading.capture catalog = .ok snapshot)
    (recaptured : reading.capture changed = .ok healed) {table : InferredTable}
    (present : table ∈ Keyed.values inferred) (name : live.name = table.name) {now : Moment}
    {issue : Issue} (detected : issue ∈ detectIssues rules inferred healed now)
    (owner : issue.table = table.name) :
    Detection.Difference rules now table (some live) issue := by
  rcases mem_detectIssues_iff.mp detected with ⟨other, known, watched, difference⟩
  rw [difference.table_eq] at owner
  have equal := consistent.eq_of_name_eq known present owner
  subst equal
  rw [Introspection.table?_of_rewrites placed same rewrites captured recaptured,
    if_pos ⟨name, DetectionRules.visible_of_watches watched⟩] at difference
  exact difference

/-- A column of a created table is there, and is no text where code needs something else. -/
theorem Detection.created_covers {rules : DetectionRules} {now : Moment} {table : InferredTable}
    (consistent : table.Consistent) (name : Identifier) {definitions : List ColumnDefinition}
    (made : Synthesis.tableColumns (missingTable rules now table).expectedColumns =
      .ok definitions) {column : InferredColumn} (used : column ∈ table.columns.values)
    (later : Moment) :
    ∃ found, (Definition.created name definitions).column? column.name = some found ∧
      typeMismatch? rules later table column found = none := by
  have expected : ExpectedColumn.mk column.name (column.declaredType rules.required) ∈
      (missingTable rules now table).expectedColumns := List.mem_map.mpr ⟨column, used, rfl⟩
  have distinct : ∀ first ∈ (missingTable rules now table).expectedColumns,
      ∀ second ∈ (missingTable rules now table).expectedColumns,
      first.name = second.name → first = second := by
    intro first left second right same
    rcases List.mem_map.mp left with ⟨one, known, rfl⟩
    rcases List.mem_map.mp right with ⟨other, present, rfl⟩
    rw [consistent.eq_of_name_eq known present same]
  rcases Synthesis.tableColumns_covers made distinct expected with ⟨definition, defined, typed⟩
  have types := Definition.column?_created name definitions column.name
  rw [defined, Option.map_some] at types
  rcases Option.map_eq_some_iff.mp types with ⟨found, present, type⟩
  exact ⟨found, present, typeMismatch?_of_declared fun proposed declared specific =>
    type ▸ typed proposed declared specific⟩

/-- A column that is added is there, and is no text where code needs something else. -/
theorem Detection.added_covers {rules : DetectionRules} {now : Moment} {table : InferredTable}
    {live : LiveTable} {column : InferredColumn} {name : Identifier}
    (absent : live.column? column.name = none) (same : name.name = column.name) (later : Moment) :
    ∃ found, LiveTable.column? { live with columns := live.columns ++
        [(ColumnDefinition.plain name (Synthesis.columnType
          (missingColumn rules now table column).expectedType)).live] } column.name = some found ∧
      typeMismatch? rules later table column found = none := by
  refine ⟨(ColumnDefinition.plain name (Synthesis.columnType
    (missingColumn rules now table column).expectedType)).live, ?_, ?_⟩
  · rw [LiveTable.column?] at absent ⊢
    rw [List.find?_append, absent, Option.none_or, List.find?_cons_of_pos]
    rw [← same]
    exact beq_self_eq_true name.name
  · refine typeMismatch?_of_declared fun type declared specific => ?_
    have read : Synthesis.columnType (missingColumn rules now table column).expectedType = type := by
      show Synthesis.columnType (column.declaredType rules.required) = type
      rw [declared, Synthesis.columnType, if_neg]
      rintro rfl
      cases specific
    rw [read]
    exact LogicalType.isText_canonical specific

/-- A column of a text type that is set to a specific type is no text any more. -/
theorem Detection.setType_covers {rules : DetectionRules} {now : Moment} {table : InferredTable}
    {live : LiveTable} {name : String} {type : LogicalType} (present : (live.column? name).isSome)
    (specific : type.isSpecific = true) {column : InferredColumn} (same : column.name = name) :
    ∃ found, LiveTable.column?
        { live with columns := Definition.setType name type.toSql live.columns } column.name =
          some found ∧
      typeMismatch? rules now table column found = none := by
  rcases Definition.column?_setType type.toSql present with ⟨found, known, read⟩
  have declared := Definition.declaredType_toSql type
  rw [declared.1, declared.2] at read
  refine ⟨found, ?_, typeMismatch?_of_specific (read ▸ LogicalType.isText_canonical specific)⟩
  rw [same]
  exact known

/-- A catalog that got the table of an issue in a form that shows the issue no more is healed. -/
theorem Catalog.Rewrites.heals {rules : DetectionRules} {inferred : InferredSchema}
    (consistent : inferred.Consistent) {catalog changed : Catalog} {live : LiveTable}
    (placed : catalog.WellPlaced) {reading : Introspection} (same : reading.schema = catalog.schema)
    (rewrites : catalog.Rewrites changed live) {snapshot healed : Snapshot}
    (captured : reading.capture catalog = .ok snapshot)
    (recaptured : reading.capture changed = .ok healed) {table : InferredTable}
    (present : table ∈ Keyed.values inferred) (name : live.name = table.name) {issue : Issue}
    (owner : issue.table = table.name)
    (shown : ∀ {now other}, Detection.Difference rules now table (some live) other →
      (other.column = issue.column ∨ issue.kind = .missingTable) → other.kind = .missingIndex)
    (noIndex : issue.kind ≠ .missingIndex) : Heals rules inferred issue snapshot healed where
  gone := by
    rintro now other detected ⟨kind, equal, column⟩
    have difference := rewrites.difference consistent placed same captured recaptured present name
      detected (equal.trans owner)
    exact noIndex (kind.symm.trans (shown difference (.inl column)))
  whole := by
    intro kind now other detected equal
    have difference := rewrites.difference consistent placed same captured recaptured present name
      detected (equal.trans owner)
    exact shown difference (.inr kind)
  others := by
    intro now other different
    refine mem_detectIssues_congr ?_
    rw [Introspection.table?_of_rewrites placed same rewrites captured recaptured, if_neg]
    rintro ⟨equal, _⟩
    exact different (equal.symm.trans (name.trans owner.symm))

/-- The statement that was made for an issue changes the table of the issue so that the issue is
shown no more. -/
theorem Fix.rewrites {catalog changed : Catalog} (placed : catalog.WellPlaced)
    {reading : Introspection} (same : reading.schema = catalog.schema) {snapshot : Snapshot}
    (captured : reading.capture catalog = .ok snapshot) {rules : DetectionRules} {now : Moment}
    {table : InferredTable} (consistent : table.Consistent)
    (watched : rules.watches table.name = true) {issue : Issue}
    (difference : Detection.Difference rules now table (snapshot.table? table.name) issue)
    (noIndex : issue.kind ≠ .missingIndex) {statement : DdlStatement}
    (made : DdlStatement.ofIssue issue = .ok statement) (parses : statement.Parses) {limit : Span}
    (executed : catalog.execute [statement.toDdl] limit = (changed, none)) :
    ∃ live, catalog.Rewrites changed live ∧ live.name = table.name ∧
      ∀ {later other}, Detection.Difference rules later table (some live) other →
        (other.column = issue.column ∨ issue.kind = .missingTable) →
        other.kind = .missingIndex := by
  have shown := Introspection.table?_of_capture placed same captured table.name
  rw [DetectionRules.visible_of_watches watched, if_neg Bool.false_ne_true] at shown
  rcases (DdlStatement.ofIssue_ok_iff _ _).mp made with ⟨name, named, form⟩
  generalize known : snapshot.table? table.name = before at difference shown
  cases difference with
  | missingTable =>
      rcases form with ⟨definitions, listed, rfl⟩
      have missing : catalog.table? name.name = none := by
        rw [named]
        exact shown.symm
      refine ⟨_, Catalog.execute_createTable placed parses missing executed,
        (Definition.created_name name definitions).trans named, ?_⟩
      intro later other difference _
      exact difference.kind_of_column fun column used _ =>
        Detection.created_covers consistent name listed used later
  | @missingColumn live wanted used absent =>
      rcases form with ⟨column, same, rfl⟩
      have equal : wanted.name = column.name := Option.some.inj same
      rcases Catalog.execute_addColumn placed parses executed with ⟨found, present, rewrites⟩
      rw [named] at present
      cases present.symm.trans shown.symm
      have free : (live.column? column.name).isSome = false := by
        rw [← equal, absent]
        rfl
      rw [if_neg (by rw [ColumnDefinition.plain, free]; exact Bool.false_ne_true)] at rewrites
      have owner : live.name = table.name := placed.name_eq present
      refine ⟨_, rewrites, owner, ?_⟩
      intro later other difference about
      have about := about.resolve_right IssueKind.noConfusion
      refine difference.kind_of_column fun column used expected => ?_
      have unique : column.name = wanted.name := Option.some.inj (expected.symm.trans about)
      rw [consistent.eq_of_name_eq used ‹wanted ∈ table.columns.values› unique]
      exact Detection.added_covers absent equal.symm later
  | @typeMismatch live wanted found _ used present mismatch =>
      have facts := Detection.typeMismatch?_some mismatch
      rw [facts.1] at form
      rcases form with ⟨column, same, type, typed, rfl⟩
      rcases Catalog.execute_alterColumnType placed parses executed with
        ⟨before, known, there, rewrites⟩
      rw [named, facts.2.1] at known
      cases known.symm.trans shown.symm
      have owner : live.name = table.name := placed.name_eq known
      refine ⟨_, rewrites, owner, ?_⟩
      intro later other difference about
      have about := about.resolve_right (by rw [facts.1]; exact IssueKind.noConfusion)
      have specific : type.isSpecific = true := by
        rcases facts with ⟨_, _, _, _, _, proposed, _, differs, expected⟩
        rw [Synthesis.expectedType, expected] at typed
        rw [Detection.isMismatch, Bool.and_eq_true, Bool.and_eq_true, Bool.and_eq_true] at differs
        simp only at typed
        split at typed
        · cases typed
        · cases typed
          exact differs.1.1.2
      refine difference.kind_of_column fun other used expected => ?_
      exact Detection.setType_covers there specific
        (Option.some.inj (expected.symm.trans (about.trans same)))
  | missingIndex => exact absurd rfl noIndex

/-- A fix for a missing table, a missing column or a mismatch of types heals the catalog that it
takes effect on: the catalog can be read again unless it is told to fail on the table, and then what
the fix was made for is gone, a table that it created lacks at most indexes, and on every other table
the same is detected as before. -/
theorem Fix.executed_heals {catalog changed : Catalog} (placed : catalog.WellPlaced)
    {reading : Introspection} (same : reading.schema = catalog.schema) {snapshot : Snapshot}
    (captured : reading.capture catalog = .ok snapshot) {rules : DetectionRules}
    {statements : List SourceStatement} {now : Moment} {issue : Issue}
    (detected : issue ∈ detectIssues rules (.ofStatements statements) snapshot now)
    (noIndex : issue.kind ≠ .missingIndex) {planned : Moment} {validated : ValidatedFix}
    (ready : Plan.ofIssue rules.minEvidence issue .manual planned = .ready validated)
    (parses : validated.fix.statement.Parses) {limit : Span}
    (executed : catalog.execute [validated.fix.ddl] limit = (changed, none)) :
    (catalog.faults.get? (qualifiedName catalog.schema issue.table) = none →
      ∃ healed, reading.capture changed = .ok healed) ∧
    ∀ healed, reading.capture changed = .ok healed →
      Heals rules (.ofStatements statements) issue snapshot healed := by
  have consistent := InferredSchema.consistent_ofStatements statements
  rcases mem_detectIssues_iff.mp detected with ⟨table, present, watched, difference⟩
  rcases (Plan.ofIssue_ready_iff _ _ _ _ _).mp ready with ⟨_, statement, made, _, rfl, _⟩
  rcases Fix.rewrites placed same captured (consistent.of_mem present) watched difference noIndex
    made parses executed with ⟨live, rewrites, name, shown⟩
  have owner := difference.table_eq
  constructor
  · intro untold
    refine Introspection.exists_capture_of_rewrites same rewrites captured ?_
    rw [name, ← owner]
    exact untold
  · intro healed recaptured
    exact rewrites.heals consistent placed same captured recaptured present name owner shown noIndex

namespace Fix

/-- A catalog of one table whose ages are text. -/
def textAges : Catalog :=
  .ofTables "public" ⟨0⟩ [⟨"users", [.ofDeclaration "age" "text"], [], []⟩]

/-- A statement that stores an age as a number. -/
def storeAge : SourceStatement where
  text := "INSERT INTO users (age) VALUES (30)"
  location := ⟨"app.py", 1, none⟩
  usage := ⟨.insert, some "users", ["users"], [⟨"users", "age", .write, none, [.number "30"]⟩]⟩

/-- The way in which the catalog is read. -/
def readPublic : Introspection := ⟨"public", 1, ⟨0⟩⟩

/-- The rules by which one place is enough and every table is watched. -/
def watchAll : DetectionRules := ⟨1, fun _ => false⟩

/-- What is detected while the ages are text. -/
def ageIssues : List Issue :=
  detectIssues watchAll (.ofStatements [storeAge]) (.ofTables "public" textAges.tables.values) default

def ageIssue : Issue := ageIssues.head (by decide +kernel)

/-- The statement that makes numbers of the ages. -/
def ageStatement : DdlStatement :=
  .alterColumnType ⟨"users", Eq.refl true⟩ ⟨"age", Eq.refl true⟩ .int .string

/-- The catalog after the ages became numbers. -/
def numberAges : Catalog := (textAges.execute [ageStatement.toDdl] ⟨0⟩).1

/-- The ages that were text are numbers after their fix, and nothing is wrong with them any more. -/
theorem executed_heals_ages :
    ageIssue ∈ ageIssues ∧ textAges.execute [ageStatement.toDdl] ⟨0⟩ = (numberAges, none) ∧
      ∃ healed, readPublic.capture numberAges = .ok healed ∧
        Heals watchAll (.ofStatements [storeAge]) ageIssue
          (.ofTables "public" textAges.tables.values) healed := by
  have placed : textAges.WellPlaced := Catalog.wellPlaced_ofTables _ _ _
  have same : readPublic.schema = textAges.schema := by decide +kernel
  have captured : readPublic.capture textAges =
      .ok (.ofTables "public" textAges.tables.values) := by decide +kernel
  have detected : ageIssue ∈ ageIssues := List.head_mem _
  have kind : ageIssue.kind ≠ .missingIndex := by decide +kernel
  have made : DdlStatement.ofIssue ageIssue = .ok ageStatement := by decide +kernel
  have allowed : Validation.deniedWord? ageStatement.toDdl = none := by decide +kernel
  have screened : Validation.screen watchAll.minEvidence ageIssue = .ok () := by decide +kernel
  have ready := (Plan.ofIssue_ready_iff watchAll.minEvidence ageIssue .manual default
    ⟨.ofStatement ageIssue ageStatement default,
      Validation.isAdditive (.ofStatement ageIssue ageStatement default)⟩).mpr
    ⟨screened, ageStatement, made, allowed, rfl, .inr rfl⟩
  have parses : ageStatement.Parses := by decide +kernel
  have accepted : (textAges.execute [ageStatement.toDdl] ⟨0⟩).2 = none := by decide +kernel
  have executed : textAges.execute [ageStatement.toDdl] ⟨0⟩ = (numberAges, none) := by
    rw [numberAges, ← accepted, Prod.eta]
  have faultless : textAges.faults = [] := rfl
  have untold : textAges.faults.get? (qualifiedName textAges.schema ageIssue.table) = none := by
    rw [faultless]
    rfl
  have healing := executed_heals placed same captured detected kind ready parses executed
  rcases healing.1 untold with ⟨healed, recaptured⟩
  exact ⟨detected, executed, healed, recaptured, healing.2 healed recaptured⟩

end Fix

end SchemaDrift
