import SchemaDrift.Proofs.Monitor.Moves
import SchemaDrift.Proofs.Store.Contents

namespace SchemaDrift

namespace ReportSummary

/-- The issues of a report are counted once by their kinds. -/
theorem total_eq_kinds (issues : List Issue) :
    (ofIssues issues).total = (ofIssues issues).missingTables + (ofIssues issues).missingColumns +
      (ofIssues issues).typeMismatches + (ofIssues issues).missingIndexes := by
  simp only [ofIssues]
  induction issues with
  | nil => rfl
  | cons issue rest inductionHypothesis =>
      simp only [List.length_cons, List.countP_cons, inductionHypothesis]
      cases issue.kind <;> simp <;> omega

/-- The issues of a report are counted once by their risks. -/
theorem total_eq_risks (issues : List Issue) :
    (ofIssues issues).total = (ofIssues issues).additive + (ofIssues issues).destructive := by
  simp only [ofIssues]
  induction issues with
  | nil => rfl
  | cons issue rest inductionHypothesis =>
      simp only [List.length_cons, List.countP_cons, inductionHypothesis]
      cases issue.risk <;> simp <;> omega

end ReportSummary

namespace Monitor

variable {monitor : Monitor}

/-- The issues stand for health exactly when none of them is open. -/
theorem currentOutcome_healthy_iff (monitor : Monitor) :
    monitor.currentOutcome = .healthy ↔ ∀ issue ∈ monitor.issues.values, issue.isOpen = false := by
  have counted : monitor.openCount = 0 ↔
      ∀ issue ∈ monitor.issues.values, ¬ issue.isOpen = true := List.countP_eq_zero
  simp only [Bool.not_eq_true] at counted
  rw [← counted, currentOutcome, CycleOutcome.ofOpenCount]
  split
  · rename_i zero
    exact iff_of_true rfl (beq_iff_eq.mp zero)
  · rename_i zero
    exact iff_of_false (by decide) fun same => zero (beq_iff_eq.mpr same)

/-- The phase of an outcome shows just this outcome. -/
theorem ofOutcome_injective : Function.Injective Phase.ofOutcome := by
  intro first second same
  cases first <;> cases second <;> first | rfl | cases same

/-- A monitor shows what it knows: the outcome that it keeps is the one of its issues, so is the one
that its phase shows, and it is at rest while no cycle runs. -/
structure Current (monitor : Monitor) : Prop where
  kept : ∀ {outcome}, monitor.outcome = some outcome → outcome = monitor.currentOutcome
  shown : ∀ outcome, monitor.phase = .ofOutcome outcome →
    monitor.outcome = some monitor.currentOutcome ∧ outcome = monitor.currentOutcome
  idle : monitor.running = none → monitor.phase = .idle

/-- A monitor that starts shows what it knows, that is nothing. -/
theorem current_ofIssues (settings : Settings) (persisted : List Issue) :
    (ofIssues settings persisted).Current where
  kept none := by cases none
  shown outcome none := by cases outcome <;> cases none
  idle _ := rfl

/-- A monitor that shows health knows no open issue. -/
theorem Current.healthy (current : monitor.Current) (healthy : monitor.phase = .healthy) :
    ∀ issue ∈ monitor.issues.values, issue.isOpen = false := by
  have same := (current.shown .healthy healthy).2
  exact monitor.currentOutcome_healthy_iff.mp same.symm

/-- A monitor that shows issues knows an open one. -/
theorem Current.issuesFound (current : monitor.Current) (found : monitor.phase = .issuesFound) :
    ∃ issue ∈ monitor.issues.values, issue.isOpen = true := by
  have same := (current.shown .issuesFound found).2
  by_contra none
  have healthy := monitor.currentOutcome_healthy_iff.mpr fun issue present =>
    Bool.eq_false_iff.mpr fun isOpen => none ⟨issue, present, isOpen⟩
  rw [healthy] at same
  cases same

/-- A monitor shows what it knows while a cycle is in a phase of its own. -/
theorem Current.enter (current : monitor.Current) {phase : Phase}
    (apart : ∀ outcome, phase ≠ .ofOutcome outcome) (running : monitor.running.isSome = true) :
    Current { monitor with phase } where
  kept := current.kept
  shown outcome same := absurd same (apart outcome)
  idle stopped := by
    rw [stopped] at running
    cases running

/-- A monitor with a cycle in flight shows what it published. -/
theorem current_conclude (running : monitor.running.isSome = true) : monitor.conclude.Current where
  kept same := (Option.some.inj same).symm
  shown _ same := ⟨rfl, (ofOutcome_injective same).symm⟩
  idle stopped := by
    have none : monitor.running = none := stopped
    rw [none] at running
    cases running

/-- A monitor at rest shows what it knows. -/
theorem current_settle (monitor : Monitor) : monitor.settle.Current where
  kept {outcome} same := by
    obtain ⟨_, _, renewed⟩ := Option.map_eq_some_iff.mp same
    exact renewed.symm
  shown outcome same := by cases outcome <;> cases same
  idle _ := rfl

/-- A monitor that showed what it knew does so again when an issue has changed and the outcome is
renewed. -/
theorem Current.refreshOutcome (current : monitor.Current) (issues : Keyed Issue) :
    (Monitor.refreshOutcome { monitor with issues }).Current := by
  unfold Monitor.refreshOutcome
  simp only
  cases unset : monitor.outcome with
  | none =>
      refine ⟨nofun, fun outcome same => ?_, current.idle⟩
      have shown := (current.shown outcome same).1
      rw [unset] at shown
      cases shown
  | some outcome =>
      refine ⟨fun same => (Option.some.inj same).symm, fun other same => ⟨rfl, ?_⟩, fun stopped => ?_⟩
      · simp only at same
        split at same
        · exact (ofOutcome_injective same).symm
        · rename_i hidden
          cases other <;> simp only [same, Phase.ofOutcome] at hidden <;> tauto
      · have resting := current.idle stopped
        simp only [resting]
        rfl

end Monitor

/-- The record that a move brings takes every list of issues. -/
def Move.Accepts : Move → Prop
  | .edit store _ => store.Accepts
  | _ => True

namespace Service

variable {service : Service}

/-- A service whose record takes every list of issues, and whose monitor shows what it knows. -/
structure Truthful (service : Service) : Prop where
  accepts : service.store.Accepts
  current : service.monitor.Current

/-- A service stays truthful when one of its issues changes. -/
theorem Truthful.updateIssue (truthful : service.Truthful) (id : String)
    (change : Issue → Issue) : (service.updateIssue id change).1.Truthful := by
  rw [updateIssue_of_saved (truthful.accepts _)]
  exact ⟨truthful.accepts.saveIssues _, truthful.current.refreshOutcome _⟩

/-- What a cycle publishes where the record takes its issues is shown at once. -/
theorem publish_of_saved (accepts : service.store.Accepts) (cycleId : String) (analysis : Analysis)
    (now : Moment) :
    ∃ published : Monitor, published.running = service.monitor.running ∧
      (service.publish cycleId analysis now).1.monitor = published.conclude ∧
      (service.publish cycleId analysis now).1.store.Accepts := by
  unfold publish
  simp only
  split
  · rename_i store error saved
    have accepted := congrArg Prod.snd saved
    rw [accepts] at accepted
    cases accepted
  · rename_i store saved
    have kept := accepts.saveIssues (Planning.ofIssues service.monitor.settings.minEvidence
      service.monitor.autoApply now (reconcile service.monitor.issues analysis.detected now)).issues.values
    rw [saved] at kept
    refine ⟨_, ?_, rfl, kept⟩
    rfl

/-- A service stays truthful with every move that leaves it a record that takes its issues. -/
theorem Truthful.move (truthful : service.Truthful) {move : Move} (accepts : move.Accepts) :
    (service.move move).Truthful := by
  have kept : ∀ {change : Service → Service},
      (service.monitor.running.isSome = true → (change service).Truthful) →
      (service.inFlight change).Truthful := fun changed =>
    inFlight_keeps Truthful truthful changed
  cases move with
  | begin cycleId =>
      obtain same | ⟨idle, same⟩ := beginCycle_cases service cycleId
      · rw [same]
        exact truthful
      · rw [same]
        exact ⟨truthful.accepts, truthful.current.kept, truthful.current.shown, nofun⟩
  | scan =>
      refine kept fun running => ⟨truthful.accepts, truthful.current.enter ?_ running⟩
      rintro (_ | _) <;> decide
  | analyze =>
      refine kept fun running => ⟨truthful.accepts, truthful.current.enter ?_ running⟩
      rintro (_ | _) <;> decide
  | publish cycleId analysis now =>
      rw [Service.move]
      refine kept fun running => ?_
      obtain ⟨published, same, monitor, record⟩ := publish_of_saved truthful.accepts cycleId analysis now
      exact ⟨record, monitor ▸ Monitor.current_conclude (same ▸ running)⟩
  | settle cycleId analysis executions startedAt now =>
      have settled := Monitor.current_settle service.monitor
      rw [Service.move]
      exact kept fun _ => ⟨truthful.accepts, settled.kept, settled.shown, fun _ => rfl⟩
  | fail error =>
      have settled := Monitor.current_settle service.monitor
      refine kept fun _ => ⟨truthful.accepts, ?_⟩
      simp only [failCycle, onMonitor, Monitor.recordFailure]
      split <;> exact ⟨settled.kept, settled.shown, fun _ => rfl⟩
  | run executionId fix now =>
      exact ⟨truthful.accepts.appendExecution _, truthful.current⟩
  | mark id mark => exact truthful.updateIssue id _
  | restart persisted =>
      exact ⟨truthful.accepts, Monitor.current_ofIssues service.monitor.settings persisted⟩
  | edit store catalog => exact ⟨accepts, truthful.current⟩
  | occupy applying =>
      exact ⟨truthful.accepts, truthful.current.kept, truthful.current.shown, truthful.current.idle⟩
  | setAutoApply enabled =>
      exact ⟨truthful.accepts, truthful.current.kept, truthful.current.shown, truthful.current.idle⟩
  | resume =>
      exact ⟨truthful.accepts, truthful.current.kept, truthful.current.shown, truthful.current.idle⟩
  | stop =>
      exact ⟨truthful.accepts, truthful.current.kept, truthful.current.shown, truthful.current.idle⟩

/-- A service stays truthful through every run that leaves it a record that takes its issues. -/
theorem Truthful.after (truthful : service.Truthful) {moves : List Move}
    (accepts : ∀ move ∈ moves, move.Accepts) : (service.after moves).Truthful :=
  after_keeps Truthful (fun kept move present => kept.move (accepts move present)) truthful

/-- A service that has published goes on to show an outcome until it starts anew. -/
theorem concluded_move (concluded : service.monitor.outcome.isSome = true) {move : Move}
    (goesOn : ∀ persisted, move ≠ .restart persisted) :
    (service.move move).monitor.outcome.isSome = true := by
  have kept : ∀ {change : Service → Service}, (change service).monitor.outcome.isSome = true →
      (service.inFlight change).monitor.outcome.isSome = true := fun changed =>
    inFlight_keeps (fun after => after.monitor.outcome.isSome = true) concluded fun _ => changed
  have settled : service.monitor.settle.outcome.isSome = true := by
    rw [Monitor.settle, Option.isSome_map]
    exact concluded
  cases move with
  | begin cycleId =>
      obtain same | ⟨_, same⟩ := beginCycle_cases service cycleId
      · rw [same]
        exact concluded
      · rw [same]
        exact concluded
  | scan => exact kept concluded
  | analyze => exact kept concluded
  | publish cycleId analysis now =>
      refine kept ?_
      simp only [publish]
      split
      · exact concluded
      · rfl
  | settle cycleId analysis executions startedAt now => exact kept settled
  | fail error =>
      refine kept ?_
      simp only [failCycle, onMonitor, Monitor.recordFailure]
      split <;> exact settled
  | mark id mark =>
      simp only [Service.move, updateIssue]
      split
      · exact concluded
      · simp only [onMonitor, Monitor.refreshOutcome]
        split
        · exact concluded
        · rfl
  | restart persisted => exact absurd rfl (goesOn persisted)
  | run executionId fix now => exact concluded
  | occupy applying => exact concluded
  | setAutoApply enabled => exact concluded
  | resume => exact concluded
  | stop => exact concluded
  | edit store catalog => exact concluded

/-- A report says of a service what it shows: it lists the open issues, it has the outcome, and its
counts are the number of open issues, by kinds as well as by risks. -/
structure Reports (service : Service) (report : CycleReport) : Prop where
  issues : report.issues = service.monitor.issues.values.filter (·.isOpen)
  outcome : service.monitor.outcome = some report.outcome
  total : report.summary.total = service.monitor.openCount
  kinds : report.summary.total = report.summary.missingTables + report.summary.missingColumns +
    report.summary.typeMismatches + report.summary.missingIndexes
  risks : report.summary.total = report.summary.additive + report.summary.destructive
  shown : service.monitor.lastReport = some report

/-- A cycle that settles after it was published reports what the service shows. -/
theorem reports_finishCycle (concluded : service.monitor.outcome.isSome = true) (cycleId : String)
    (analysis : Analysis) (executions : List FixExecution) (startedAt now : Moment) :
    (service.finishCycle cycleId analysis executions startedAt now).1.Reports
      (service.finishCycle cycleId analysis executions startedAt now).2 where
  issues := rfl
  outcome := by
    obtain ⟨outcome, shown⟩ := Option.isSome_iff_exists.mp concluded
    simp only [finishCycle, onMonitor, Monitor.settle, Monitor.recordSuccess, shown, Option.map_some,
      Monitor.currentOutcome, Monitor.openCount, CycleReport.withScan, CycleReport.ofIssues,
      List.countP_eq_length_filter]
  total := List.countP_eq_length_filter.symm
  kinds := ReportSummary.total_eq_kinds _
  risks := ReportSummary.total_eq_risks _
  shown := rfl

/-- A service that published in a run shows an outcome from then on, unless it starts anew. -/
theorem Truthful.concluded (truthful : service.Truthful) {earlier later : List Move}
    (accepts : ∀ move ∈ earlier, move.Accepts) (cycleId : String) (analysis : Analysis)
    (published : Moment) (running : (service.after earlier).monitor.running.isSome = true)
    (goesOn : ∀ move ∈ later, ∀ known, move ≠ .restart known) :
    (service.after (earlier ++ .publish cycleId analysis published :: later)).monitor.outcome.isSome =
      true := by
  have before : (service.after earlier).Truthful := truthful.after accepts
  obtain ⟨monitor, _, shown, _⟩ := publish_of_saved before.accepts cycleId analysis published
  rw [after_append]
  show (((service.after earlier).move (.publish cycleId analysis published)).after
    later).monitor.outcome.isSome = true
  -- The outcome stays set from the publication on, since only a new start forgets it.
  refine after_keeps (fun after => after.monitor.outcome.isSome = true)
    (fun kept move present => concluded_move kept (goesOn move present)) ?_
  rw [Service.move, inFlight, if_pos running, shown]
  rfl

/-- As long as the record takes all issues, a monitor that starts with any issues shows what it knows
between any two moves of any run. The outcome is healthy exactly when no issue is open, and so is the
phase that shows it; without a cycle in flight the monitor is at rest; and a cycle that was published
reports what the monitor shows once it settles. -/
theorem status_truthful (settings : Settings) (persisted : List Issue) {store : Store}
    (catalog : Catalog) {moves : List Move} (accepts : store.Accepts)
    (others : ∀ move ∈ moves, move.Accepts) :
    let start : Service := ⟨.ofIssues settings persisted, store, catalog⟩
    let reached := start.after moves
    (∀ outcome, reached.monitor.outcome = some outcome →
      (outcome = .healthy ↔ ∀ issue ∈ reached.monitor.issues.values, issue.isOpen = false)) ∧
    (reached.monitor.phase = .healthy →
      ∀ issue ∈ reached.monitor.issues.values, issue.isOpen = false) ∧
    (reached.monitor.phase = .issuesFound →
      ∃ issue ∈ reached.monitor.issues.values, issue.isOpen = true) ∧
    (reached.monitor.running = none → reached.monitor.phase = .idle) ∧
    ∀ earlier cycleId analysis published later,
      moves = earlier ++ .publish cycleId analysis published :: later →
      (start.after earlier).monitor.running.isSome = true →
      (∀ move ∈ later, ∀ known, move ≠ .restart known) → ∀ executions startedAt now,
      (reached.finishCycle cycleId analysis executions startedAt now).1.Reports
        (reached.finishCycle cycleId analysis executions startedAt now).2 := by
  intro start reached
  have begins : start.Truthful := ⟨accepts, Monitor.current_ofIssues settings persisted⟩
  have truthful : reached.Truthful := begins.after others
  refine ⟨?_, truthful.current.healthy, truthful.current.issuesFound, truthful.current.idle, ?_⟩
  · intro outcome shown
    rw [truthful.current.kept shown]
    exact reached.monitor.currentOutcome_healthy_iff
  · intro earlier cycleId analysis published later split running goesOn executions startedAt now
    refine reports_finishCycle ?_ cycleId analysis executions startedAt now
    have before : ∀ move ∈ earlier, move.Accepts := by
      intro move present
      refine others move ?_
      rw [split]
      exact List.mem_append_left _ present
    show (start.after moves).monitor.outcome.isSome = true
    rw [split]
    exact begins.concluded before cycleId analysis published running goesOn

namespace Deployments

/-- What a cycle finds out that reads one source and misses one table. -/
def analysis : Analysis :=
  ⟨⟨[], 1, 0, []⟩, .ofStatements [], default,
    [.detected .missingTable "deployments" none (.ofSites 2 [] "2 call sites") default]⟩

/-- A monitor that knows no issues, with a record in memory and no tables. -/
def unaware : Service := ⟨.ofIssues .initial [], .empty, .empty "public" ⟨0⟩⟩

/-- A cycle misses a table and publishes it. -/
def missed : List Move := [.begin "cycle", .scan, .analyze, .publish "cycle" analysis default]

/-- The fix for the table is refused, so that the issue stays open. -/
def refused : List Move := [.mark (Issue.idOf .missingTable "deployments" none) (.rejected "denied")]

/-- The monitor shows the table that it misses while its cycle is in flight, and so does the report of
the cycle. -/
theorem status_truthful_missed :
    Store.empty.Accepts ∧ (∀ move ∈ missed ++ refused, move.Accepts) ∧
    (unaware.after (missed ++ refused)).monitor.phase = .issuesFound ∧
    (∃ issue ∈ (unaware.after (missed ++ refused)).monitor.issues.values, issue.isOpen = true) ∧
    ((unaware.after (missed ++ refused)).finishCycle "cycle" analysis [] default default).1.Reports
      ((unaware.after (missed ++ refused)).finishCycle "cycle" analysis [] default default).2 := by
  have accepts : Store.empty.Accepts := fun _ => rfl
  have others : ∀ move ∈ missed ++ refused, move.Accepts := by simp [missed, refused, Move.Accepts]
  have phase : (unaware.after (missed ++ refused)).monitor.phase = .issuesFound := by decide +kernel
  have truthful := status_truthful .initial [] (.empty "public" ⟨0⟩) accepts others
  have running : (unaware.after [.begin "cycle", .scan, .analyze]).monitor.running.isSome = true := rfl
  exact ⟨accepts, others, phase, truthful.2.2.1 phase,
    truthful.2.2.2.2 [.begin "cycle", .scan, .analyze] "cycle" analysis default refused rfl running
      (by simp [refused]) [] default default⟩

end Deployments

end Service

end SchemaDrift
