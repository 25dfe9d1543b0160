import SchemaDrift.Proofs.Fix.Healing
import SchemaDrift.Proofs.Fix.Rounds
import SchemaDrift.Proofs.Issue.Tracking
import SchemaDrift.Proofs.Monitor.Service
import SchemaDrift.Proofs.Store.Writable

namespace SchemaDrift

/-- The rules by which a monitor with some settings detects issues. -/
def Settings.rules (settings : Settings) : DetectionRules :=
  ⟨settings.minEvidence, settings.scanner.ignores⟩

/-- How long the catalog may take to answer. -/
def Settings.limit (settings : Settings) : Span := .ofSeconds settings.database.timeoutSecs

/-- The statements that a schema can ever ask for. -/
def InferredSchema.remedies (rules : DetectionRules) (inferred : InferredSchema) :
    List DdlStatement :=
  (Keyed.values inferred).flatMap fun table =>
    ((Detection.missingTable rules default table).remedy? rules.minEvidence).toList ++
      table.columns.values.flatMap fun column =>
        ((Detection.missingColumn rules default table column).remedy? rules.minEvidence).toList ++
          ((Detection.missingIndex default table column).remedy? rules.minEvidence).toList

/-- The differences that a schema can show: its tables, and their columns and indexes, are missing. -/
def InferredSchema.lacks (rules : DetectionRules) (inferred : InferredSchema) : List Issue :=
  (Keyed.values inferred).flatMap fun table =>
    Detection.missingTable rules default table :: table.columns.values.flatMap fun column =>
      [Detection.missingColumn rules default table column, Detection.missingIndex default table column]

/-- A statement that a schema can ask for corrects one of the differences that it can show. -/
theorem InferredSchema.exists_lack {rules : DetectionRules} {inferred : InferredSchema}
    {statement : DdlStatement} (wished : statement ∈ inferred.remedies rules) :
    ∃ issue ∈ inferred.lacks rules, DdlStatement.ofIssue issue = .ok statement := by
  have remedied : ∃ issue ∈ inferred.lacks rules,
      issue.remedy? rules.minEvidence = some statement := by
    simp only [remedies, lacks, List.mem_flatMap, List.mem_append, List.mem_cons,
      Option.mem_toList, List.not_mem_nil, or_false] at wished ⊢
    obtain ⟨table, present, remedy | ⟨column, used, remedy | remedy⟩⟩ := wished
    · exact ⟨_, ⟨table, present, .inl rfl⟩, remedy⟩
    · exact ⟨_, ⟨table, present, .inr ⟨column, used, .inl rfl⟩⟩, remedy⟩
    · exact ⟨_, ⟨table, present, .inr ⟨column, used, .inr rfl⟩⟩, remedy⟩
  obtain ⟨issue, listed, remedy⟩ := remedied
  exact ⟨issue, listed, ((Issue.remedy?_eq_some_iff _ _ _).mp remedy).2.1⟩

/-- What a catalog wants is one of the statements that the schema can ask for. -/
theorem Catalog.Wants.mem_remedies {rules : DetectionRules} {inferred : InferredSchema}
    {catalog : Catalog} {statement : DdlStatement}
    (wants : catalog.Wants rules inferred statement) : statement ∈ inferred.remedies rules := by
  have column : ∀ {table : InferredTable} {column : InferredColumn},
      table ∈ Keyed.values inferred → column ∈ table.columns.values →
      statement ∈ ((Detection.missingColumn rules default table column).remedy?
          rules.minEvidence).toList ++
        ((Detection.missingIndex default table column).remedy? rules.minEvidence).toList →
      statement ∈ inferred.remedies rules := fun present used listed =>
    List.mem_flatMap.mpr ⟨_, present, List.mem_append_right _
      (List.mem_flatMap.mpr ⟨_, used, listed⟩)⟩
  cases wants with
  | newTable present watched missing remedy =>
      exact List.mem_flatMap.mpr
        ⟨_, present, List.mem_append_left _ (Option.mem_toList.mpr remedy)⟩
  | newColumn present watched used known absent remedy =>
      exact column present used (List.mem_append_left _ (Option.mem_toList.mpr remedy))
  | newIndex present watched used there enough without remedy =>
      exact column present used (List.mem_append_right _ (Option.mem_toList.mpr remedy))

/-- A service between cycles that are left to themselves: its issues are tracked, its record can be
written, and automatic fixes are on. -/
structure Service.Steady (settings : Settings) (inferred : InferredSchema) (service : Service) :
    Prop where
  configured : service.monitor.settings = settings
  autoApply : service.monitor.autoApply = true
  going : service.monitor.stopped = false
  writable : service.store.Writable
  tracked : Tracked settings.rules inferred service.monitor.issues

namespace Service

variable {settings : Settings} {inferred : InferredSchema} {service : Service}

/-- A fix that is applied leaves a steady service steady, with the catalog as the batch made it. -/
theorem Steady.executeFix (steady : service.Steady settings inferred) (executionId : String)
    (fix : Fix) (now : Moment) :
    (service.executeFix executionId fix now).1.Steady settings inferred := by
  have appended := steady.writable.appendExecution
  have marked : ∀ (execution : FixExecution) {issue fresh : Issue},
      issue.Follows settings.rules fresh → (markOf execution issue).Follows settings.rules fresh := by
    intro execution issue fresh follows
    unfold markOf
    split <;> exact ⟨⟨follows.subject.kind, follows.subject.table, follows.subject.column⟩,
      follows.risk, follows.id, fun rejected => by cases rejected⟩
  have updated : ∀ {before : Service} (execution : FixExecution),
      before.Steady settings inferred →
      (before.updateIssue fix.issueId (markOf execution)).1.Steady settings inferred := by
    intro before execution ready
    have saved := ready.writable.saveIssues
      (before.monitor.issues.modify fix.issueId (markOf execution)).values
    have tracked := ready.tracked.modify fix.issueId (markOf_id execution) (marked execution)
    obtain ⟨_, _, monitor⟩ := before.updateIssue_monitor fix.issueId (markOf execution)
    constructor
    · rw [monitor]
      exact ready.configured
    · rw [monitor]
      exact ready.autoApply
    · rw [monitor]
      exact ready.going
    · unfold updateIssue
      simp only [saved.1, onMonitor]
      exact saved.2
    · rw [monitor]
      exact tracked
  have ran : (service.runFix executionId fix now).1.Steady settings inferred :=
    ⟨steady.configured, steady.autoApply, steady.going, (appended _).2, steady.tracked⟩
  rcases executeFix_cases service executionId fix now with same | same
  · rw [same]
    exact ran
  · rw [same]
    exact updated _ ran

/-- The service after some fixes were applied is the one after each of them in turn. -/
theorem executeAll_service (service : Service) (executionId : Nat → String) (now : Moment)
    (fixes : List Fix) :
    (service.executeAll executionId now fixes).1 = fixes.zipIdx.foldl
      (fun service entry => (service.executeFix (executionId entry.2) entry.1 now).1) service := by
  refine (List.foldl_hom Prod.fst ?_).symm
  intro state entry
  split <;> rename_i ran <;> rw [ran]

/-- Fixes that are applied leave a steady service steady, and the catalog with their statements
executed one after the other. -/
theorem Steady.executeAll (steady : service.Steady settings inferred)
    (isOpen : service.catalog.Open) (inTime : service.catalog.latency.nanos ≤ settings.limit.nanos)
    (executionId : Nat → String) (now : Moment) {fixes : List Fix} {statements : List DdlStatement}
    (texts : fixes.map (·.ddl) = statements.map (·.toDdl))
    (additions : ∀ statement ∈ statements, statement.Addition)
    (parses : ∀ statement ∈ statements, statement.Parses) :
    (service.executeAll executionId now fixes).1.Steady settings inferred ∧
      (service.executeAll executionId now fixes).1.catalog =
        service.catalog.applyAll statements := by
  rw [executeAll_service]
  have listed : fixes.zipIdx.map (·.1.ddl) = statements.map (·.toDdl) := by
    have pairs : (fixes.zipIdx.map Prod.fst).map (·.ddl) = fixes.map (·.ddl) := by
      rw [List.zipIdx_map_fst]
    rw [List.map_map] at pairs
    exact pairs.trans texts
  clear texts
  generalize fixes.zipIdx = entries at listed
  induction entries generalizing service statements with
  | nil =>
      have none : statements = [] := by simpa using listed.symm
      subst none
      exact ⟨steady, rfl⟩
  | cons entry rest inductionHypothesis =>
      rcases statements with _ | ⟨statement, others⟩
      · simp at listed
      · rw [List.map_cons, List.map_cons, List.cons.injEq] at listed
        have changed : (service.executeFix (executionId entry.2) entry.1 now).1.catalog =
            service.catalog.apply statement := by
          rw [executeFix_catalog, listed.1]
          refine Catalog.execute_eq_apply isOpen (parses statement List.mem_cons_self) ?_
          rw [Monitor.executionLimit, steady.configured]
          exact inTime
        have grown := isOpen.grows (additions statement List.mem_cons_self)
        have kept := (Catalog.apply_keeps service.catalog statement).2.1
        rw [List.foldl_cons, Catalog.applyAll_cons, ← changed]
        refine inductionHypothesis (steady.executeFix _ _ _) ?_ ?_ ?_ ?_ listed.2
        · rw [changed]
          exact grown.1
        · rw [changed, kept]
          exact inTime
        · exact fun other present => additions other (List.mem_cons_of_mem _ present)
        · exact fun other present => parses other (List.mem_cons_of_mem _ present)

/-- What is detected in a snapshot of a catalog is what the catalog shows at the time. -/
theorem mem_detectIssues_of_capture {rules : DetectionRules} {reading : Introspection}
    {catalog : Catalog} (placed : catalog.WellPlaced) (same : reading.schema = catalog.schema)
    {snapshot : Snapshot} (captured : reading.capture catalog = .ok snapshot) {now : Moment}
    {issue : Issue} :
    issue ∈ detectIssues rules inferred snapshot now ↔
      ∃ table ∈ Keyed.values inferred, rules.watches table.name = true ∧
        Detection.Difference rules now table (catalog.table? table.name) issue := by
  rw [mem_detectIssues_iff]
  refine exists_congr fun table => and_congr_right fun _ => and_congr_right fun watched => ?_
  rw [Introspection.table?_of_capture placed same captured,
    DetectionRules.visible_of_watches watched, if_neg Bool.false_ne_true]

/-- The statements that a planning applies without an operator are those that the catalog wants. -/
theorem exists_automatic (consistent : inferred.Consistent) (distinct : inferred.Distinct)
    {rules : DetectionRules} {issues : Keyed Issue} (tracked : Tracked rules inferred issues)
    {catalog : Catalog} {detected : List Issue} {now : Moment}
    (shown : ∀ {issue}, issue ∈ detected ↔
      ∃ table ∈ Keyed.values inferred, rules.watches table.name = true ∧
        Detection.Difference rules now table (catalog.table? table.name) issue) :
    Tracked rules inferred (Planning.ofIssues rules.minEvidence true now
        (reconcile issues detected now)).issues ∧
      ∃ statements, catalog.Answers rules inferred statements ∧
        (Planning.ofIssues rules.minEvidence true now
          (reconcile issues detected now)).automatic.map (·.ddl) = statements.map (·.toDdl) := by
  have possible : ∀ fresh ∈ detected, inferred.MayShow rules fresh := by
    intro fresh present
    rcases shown.mp present with ⟨table, known, watched, difference⟩
    exact ⟨table, known, watched, now, _, difference⟩
  rcases tracked.reconcile consistent distinct possible now with ⟨whole, current, only⟩
  have remedies : ∀ {id issue}, (reconcile issues detected now).get? id = some issue →
      issue.isOpen = true → ∃ fresh ∈ detected, fresh.id = id ∧
        issue.remedy? rules.minEvidence = fresh.remedy? rules.minEvidence := by
    intro id issue found isOpen
    rcases only found isOpen with ⟨fresh, present, same⟩
    rcases current fresh present with ⟨other, known, _, remedy⟩
    rw [same, found] at known
    cases known
    exact ⟨fresh, present, same, remedy⟩
  constructor
  · rw [Planning.ofIssues_issues _ _ _ whole.known]
    refine whole.reviewed consistent distinct now fun found isOpen => ?_
    rcases remedies found isOpen with ⟨fresh, present, same, remedy⟩
    exact ⟨fresh, possible fresh present, same, remedy⟩
  · refine ⟨(Planning.ofIssues rules.minEvidence true now
      (reconcile issues detected now)).automatic.map (·.statement), ?_, ?_⟩
    · intro statement
      rw [Planning.ofIssues_automatic]
      simp only [List.mem_map, List.mem_filterMap, Planning.automaticFix?_eq_some_iff]
      constructor
      · rintro ⟨fix, ⟨issue, present, isOpen, _, other, remedy, rfl⟩, rfl⟩
        rcases remedies (whole.known.get?_id present) isOpen with ⟨fresh, listed, _, same⟩
        rcases shown.mp listed with ⟨table, known, watched, difference⟩
        exact Catalog.wants_iff.mpr
          ⟨fresh, ⟨table, known, watched, now, difference⟩, same.symm.trans remedy⟩
      · intro wants
        rcases wants.exists_difference now with
          ⟨table, known, watched, fresh, difference, remedy⟩
        have present := shown.mpr ⟨table, known, watched, difference⟩
        rcases current fresh present with ⟨issue, found, isOpen, same⟩
        refine ⟨_, ⟨issue, Keyed.mem_values_of_get? found, isOpen, ?_, statement,
          same.trans remedy, rfl⟩, rfl⟩
        intro rejected
        rcases whole.follows found with ⟨before, earlier, follows⟩
        have id : before.id = fresh.id := follows.id.symm.trans (whole.known.named found)
        have none := follows.rejected rejected
        rw [earlier.remedy?_eq_of_id_eq consistent distinct (possible fresh present) id,
          remedy] at none
        cases none
    · rw [List.map_map]
      refine List.map_congr_left fun fix present => ?_
      rw [Planning.ofIssues_automatic, List.mem_filterMap] at present
      rcases present with ⟨issue, _, applied⟩
      rcases (Planning.automaticFix?_eq_some_iff _ _).mp applied with ⟨_, _, statement, _, rfl⟩
      rfl

/-- A cycle that is published leaves a steady service steady and the catalog as it is, and gives
fixes for what the catalog wants. -/
theorem Steady.publish (steady : service.Steady settings inferred)
    (consistent : inferred.Consistent) (distinct : inferred.Distinct) (cycleId : String)
    (analysis : Analysis) (now : Moment)
    (shown : ∀ {issue}, issue ∈ analysis.detected ↔
      ∃ table ∈ Keyed.values inferred, settings.rules.watches table.name = true ∧
        Detection.Difference settings.rules now table (service.catalog.table? table.name) issue) :
    ∃ published fixes, service.publish cycleId analysis now = (published, .ok fixes) ∧
      published.Steady settings inferred ∧ published.catalog = service.catalog ∧
      ∃ statements, service.catalog.Answers settings.rules inferred statements ∧
        fixes.map (·.ddl) = statements.map (·.toDdl) := by
  rcases exists_automatic consistent distinct steady.tracked shown with
    ⟨tracked, statements, answers, texts⟩
  have saved := steady.writable.saveIssues (Planning.ofIssues settings.minEvidence true now
    (reconcile service.monitor.issues analysis.detected now)).issues.values
  unfold Service.publish
  simp only [steady.configured, steady.autoApply]
  generalize service.store.saveIssues (Planning.ofIssues settings.minEvidence true now
    (reconcile service.monitor.issues analysis.detected now)).issues.values = recorded at saved ⊢
  rcases recorded with ⟨store, error⟩
  rcases saved with ⟨rfl, writable⟩
  exact ⟨_, _, rfl, ⟨rfl, rfl, steady.going, writable, tracked⟩, rfl, statements,
    answers, texts⟩

/-- A cycle that is left to itself executes what the catalog wants, and leaves the service ready for
the next. -/
theorem Steady.runCycle (steady : service.Steady settings inferred)
    (idle : service.monitor.running = none) (distinct : inferred.Distinct)
    (isOpen : service.catalog.Open) (schema : settings.database.schema = service.catalog.schema)
    (inTime : service.catalog.latency.nanos ≤ settings.limit.nanos)
    (parses : ∀ statement ∈ inferred.remedies settings.rules, statement.Parses)
    {output : ScanOutput} (source : inferred = .ofStatements output.statements) (cycleId : String)
    (executionId : Nat → String) (now : Moment) :
    ((service.runCycle cycleId executionId (.found output) now).1.Steady settings inferred ∧
      (service.runCycle cycleId executionId (.found output) now).1.monitor.running = none) ∧
      ∃ statements, service.catalog.Answers settings.rules inferred statements ∧
        (service.runCycle cycleId executionId (.found output) now).1.catalog =
          service.catalog.applyAll statements := by
  have consistent : inferred.Consistent := source ▸ InferredSchema.consistent_ofStatements _
  have begun : ∃ started : Service, service.beginCycle cycleId = .ok started ∧
      started.Steady settings inferred ∧ started.catalog = service.catalog := by
    refine ⟨service.onMonitor fun monitor => { monitor with running := some cycleId },
      by rw [beginCycle, idle], ?_, rfl⟩
    exact ⟨steady.configured, steady.autoApply, steady.going, steady.writable, steady.tracked⟩
  rcases begun with ⟨started, begun, ready, unchanged⟩
  have same : started.monitor.introspection.schema = started.catalog.schema := by
    rw [Monitor.introspection, ready.configured, unchanged]
    exact schema
  rw [← unchanged] at isOpen inTime ⊢
  have readable : ∃ snapshot, started.monitor.introspection.capture started.catalog =
      .ok snapshot := by
    refine (Introspection.exists_capture_iff same).mpr
      ⟨?_, isOpen.available, fun name _ _ => ?_⟩
    · rw [Monitor.introspection, ready.configured]
      exact inTime
    · rw [isOpen.faults]
      rfl
  rcases readable with ⟨snapshot, captured⟩
  have analyzed : analyze started.monitor (.found output) (.ok snapshot) now =
      .ok ⟨output, inferred, snapshot, detectIssues settings.rules inferred snapshot now⟩ := by
    rw [source, ← ready.configured]
    rfl
  rcases ready.publish consistent distinct cycleId
    ⟨output, inferred, snapshot, detectIssues settings.rules inferred snapshot now⟩ now
    (mem_detectIssues_of_capture isOpen.placed same captured) with
    ⟨published, fixes, done, after, kept, statements, answers, texts⟩
  have listed : ∀ statement ∈ statements, statement.Parses := fun statement present =>
    parses statement ((answers statement).mp present).mem_remedies
  have executed := after.executeAll (kept.symm ▸ isOpen) (kept.symm ▸ inTime) executionId now texts
    answers.additions listed
  rw [kept] at executed
  rw [Service.runCycle, begun]
  simp only [ready.going, Bool.false_eq_true, if_false, captured, analyzed, done]
  refine ⟨⟨⟨?_, ?_, ?_, ?_, ?_⟩, rfl⟩, statements, answers, executed.2⟩
  · exact executed.1.configured
  · exact executed.1.autoApply
  · exact executed.1.going
  · exact executed.1.writable
  · exact executed.1.tracked

end Service

end SchemaDrift
