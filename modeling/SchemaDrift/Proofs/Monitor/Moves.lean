import SchemaDrift.Proofs.Monitor.Failure

/-
This file holds the moves that all work on a service consists of. A move is what one of those who work
on it does in one go, before anybody else has a turn: a cycle takes its next step, the statement of a
fix is run, an issue gets a mark, or an operator throws a switch. Whatever happens to a monitor in
time is a run of moves, so what every move keeps holds at every moment.
-/

namespace SchemaDrift

/-- What may be noted on an issue between two cycles: an operator approved its fix, or the fix was
refused, applied, or run in vain. -/
inductive Mark where
  | approved
  | rejected (reason : String)
  | applied
  | failed (error : String)

def Issue.mark (mark : Mark) (issue : Issue) : Issue :=
  match mark with
  | .approved => issue.markApproved
  | .rejected reason => issue.markRejected reason
  | .applied => issue.markApplied
  | .failed error => issue.markFailed error

/-- A mark leaves an issue its identity. -/
theorem Issue.mark_id (mark : Mark) (issue : Issue) : (issue.mark mark).id = issue.id := by
  cases mark <;> rfl

/-- What is done to a service in one go. A cycle begins, reads, analyzes, publishes, and settles or
fails; fixes are run, recorded and marked, and the fixes under way are counted; operators throw
switches; and a monitor starts anew, or the world changes. -/
inductive Move where
  | begin (cycleId : String)
  | scan
  | analyze
  | publish (cycleId : String) (analysis : Analysis) (now : Moment)
  | settle (cycleId : String) (analysis : Analysis) (executions : List FixExecution)
      (startedAt now : Moment)
  | fail (error : CycleError)
  | run (executionId : String) (fix : Fix) (now : Moment)
  | mark (id : String) (mark : Mark)
  | occupy (applying : Nat)
  | setAutoApply (enabled : Bool)
  | resume
  | stop
  | restart (persisted : List Issue)
  | edit (store : Store) (catalog : Catalog)

namespace Service

/-- The service changed by a cycle, which has to be in flight. -/
def inFlight (change : Service → Service) (service : Service) : Service :=
  if service.monitor.running.isSome then change service else service

def move (service : Service) : Move → Service
  | .begin cycleId => (service.beginCycle cycleId).toOption.getD service
  | .scan => service.inFlight (.enter .scanning)
  | .analyze => service.inFlight (.enter .analyzing)
  | .publish cycleId analysis now =>
    service.inFlight fun service => (service.publish cycleId analysis now).1
  | .settle cycleId analysis executions startedAt now =>
    service.inFlight fun service =>
      (service.finishCycle cycleId analysis executions startedAt now).1
  | .fail error => service.inFlight (.failCycle error)
  | .run executionId fix now => (service.runFix executionId fix now).1
  | .mark id mark => (service.updateIssue id (.mark mark)).1
  | .occupy applying => service.onMonitor fun monitor => { monitor with applying }
  | .setAutoApply enabled => service.onMonitor (.setAutoApply enabled)
  | .resume => service.onMonitor .resume
  | .stop => service.onMonitor .stop
  | .restart persisted => { service with monitor := .ofIssues service.monitor.settings persisted }
  | .edit store catalog => { service with store, catalog }

def after (service : Service) (moves : List Move) : Service := moves.foldl move service

/-- Some moves lead from one service to another. -/
def Reaches (first last : Service) : Prop := ∃ moves, last = first.after moves

variable {first middle last service : Service}

/-- Moves after others come after all of them. -/
theorem after_append (service : Service) (earlier later : List Move) :
    service.after (earlier ++ later) = (service.after earlier).after later :=
  List.foldl_append

/-- One more move comes after the others. -/
theorem after_concat (service : Service) (moves : List Move) (move : Move) :
    service.after (moves ++ [move]) = (service.after moves).move move :=
  service.after_append moves [move]

theorem Reaches.refl (service : Service) : service.Reaches service := ⟨[], rfl⟩

/-- What is reached in two runs is reached in one. -/
theorem Reaches.trans (left : first.Reaches middle) (right : middle.Reaches last) :
    first.Reaches last := by
  obtain ⟨earlier, rfl⟩ := left
  obtain ⟨later, rfl⟩ := right
  exact ⟨earlier ++ later, (first.after_append earlier later).symm⟩

/-- A service that is reached makes another move. -/
theorem Reaches.move (reaches : first.Reaches last) (move : Move) : first.Reaches (last.move move) :=
  reaches.trans ⟨[move], rfl⟩

/-- A cycle in flight that publishes makes one move. -/
theorem reaches_publish (running : service.monitor.running.isSome = true) (cycleId : String)
    (analysis : Analysis) (now : Moment) :
    service.Reaches (service.publish cycleId analysis now).1 :=
  ⟨[.publish cycleId analysis now], (if_pos running).symm⟩

/-- A cycle in flight that settles makes one move. -/
theorem reaches_finishCycle (running : service.monitor.running.isSome = true) (cycleId : String)
    (analysis : Analysis) (executions : List FixExecution) (startedAt now : Moment) :
    service.Reaches (service.finishCycle cycleId analysis executions startedAt now).1 :=
  ⟨[.settle cycleId analysis executions startedAt now], (if_pos running).symm⟩

/-- A cycle in flight that fails makes one move. -/
theorem reaches_failCycle (running : service.monitor.running.isSome = true) (error : CycleError) :
    service.Reaches (service.failCycle error) :=
  ⟨[.fail error], (if_pos running).symm⟩

theorem exists_mark (execution : FixExecution) : ∃ mark, markOf execution = Issue.mark mark := by
  by_cases success : execution.success = true
  · exact ⟨.applied, funext fun _ => if_pos success⟩
  · exact ⟨.failed (execution.errorMessage.getD ""), funext fun _ => if_neg success⟩

/-- A fix that is applied is run, and its attempt is marked. -/
theorem reaches_executeFix (service : Service) (executionId : String) (fix : Fix) (now : Moment) :
    service.Reaches (service.executeFix executionId fix now).1 := by
  have ran := (Reaches.refl service).move (.run executionId fix now)
  obtain same | same := executeFix_cases service executionId fix now
  · rw [same]
    exact ran
  · obtain ⟨mark, marks⟩ := exists_mark (service.runFix executionId fix now).2.1
    rw [same, marks]
    exact ran.move (.mark fix.issueId mark)

/-- A request for a fix marks the issue as refused or approved, or does nothing. -/
theorem reaches_planFix (service : Service) (id : String) (approval : Approval) (now : Moment) :
    service.Reaches (service.planFix id approval now).1 := by
  have marked := fun mark => (Reaches.refl service).move (.mark id mark)
  obtain same | ⟨reason, same⟩ | ⟨_, same⟩ := planFix_marks service id approval now
  · rw [same]
    exact .refl service
  · rw [same]
    exact marked (.rejected reason)
  · rw [same]
    exact marked .approved

/-- What holds of a service holds after a change by a cycle that keeps it while one is in flight. -/
theorem inFlight_keeps (Keeps : Service → Prop) {change : Service → Service} (holds : Keeps service)
    (changed : service.monitor.running.isSome = true → Keeps (change service)) :
    Keeps (service.inFlight change) := by
  unfold inFlight
  split
  · rename_i running
    exact changed running
  · exact holds

/-- What each move of a run keeps, the run keeps. -/
theorem after_keeps (Keeps : Service → Prop) {moves : List Move}
    (moved : ∀ {service}, Keeps service → ∀ move ∈ moves, Keeps (service.move move))
    (holds : Keeps service) : Keeps (service.after moves) :=
  List.foldlRecOn (motive := Keeps) moves move holds fun _ kept next present =>
    moved kept next present

/-- A cycle that begins only shows that it is in flight. -/
theorem beginCycle_cases (service : Service) (cycleId : String) :
    service.move (.begin cycleId) = service ∨ service.monitor.running = none ∧
      service.move (.begin cycleId) =
        service.onMonitor fun monitor => { monitor with running := some cycleId } := by
  simp only [move, beginCycle]
  split
  · exact .inl rfl
  · rename_i idle
    exact .inr ⟨idle, rfl⟩

/-- What a move does to the issues that a monitor knows and the fixes that it keeps to be shown: it
leaves them, or it publishes others, marks an issue, or starts anew. -/
inductive Moved (before after : Service) : Prop where
  | still (issues : after.monitor.issues = before.monitor.issues)
      (fixes : after.monitor.fixes = before.monitor.fixes)
      (settings : after.monitor.settings = before.monitor.settings) : Moved before after
  | published (cycleId : String) (analysis : Analysis) (now : Moment)
      (same : after = (before.publish cycleId analysis now).1) : Moved before after
  | marked (id : String) (mark : Mark) (same : after = (before.updateIssue id (.mark mark)).1) :
      Moved before after
  | restarted (persisted : List Issue)
      (same : after.monitor = .ofIssues before.monitor.settings persisted) : Moved before after

/-- Each move does one of these things. -/
theorem moved_move (service : Service) (move : Move) : service.Moved (service.move move) := by
  have still : service.Moved service := .still rfl rfl rfl
  have cycle : ∀ {change : Service → Service}, service.Moved (change service) →
      service.Moved (service.inFlight change) := fun changed =>
    inFlight_keeps service.Moved still fun _ => changed
  cases move with
  | begin cycleId =>
      obtain same | ⟨_, same⟩ := beginCycle_cases service cycleId
      · rw [same]
        exact still
      · rw [same]
        exact .still rfl rfl rfl
  | publish cycleId analysis now =>
      rw [Service.move]
      exact cycle (.published cycleId analysis now rfl)
  | fail error =>
      refine cycle ?_
      simp only [failCycle, onMonitor, Monitor.recordFailure]
      split <;> exact .still rfl rfl rfl
  | mark id mark => exact .marked id mark rfl
  | restart persisted => exact .restarted persisted rfl
  | scan => exact cycle (.still rfl rfl rfl)
  | analyze => exact cycle (.still rfl rfl rfl)
  | settle cycleId analysis executions startedAt now =>
      rw [Service.move]
      exact cycle (.still rfl rfl rfl)
  | run executionId fix now => exact .still rfl rfl rfl
  | occupy applying => exact .still rfl rfl rfl
  | setAutoApply enabled => exact .still rfl rfl rfl
  | resume => exact .still rfl rfl rfl
  | stop => exact .still rfl rfl rfl
  | edit store catalog => exact .still rfl rfl rfl

theorem move_settings (service : Service) (move : Move) :
    (service.move move).monitor.settings = service.monitor.settings := by
  cases moved_move service move with
  | still issues fixes settings => exact settings
  | published cycleId analysis now same =>
      rw [same]
      obtain ⟨_, _, kept, _⟩ | ⟨_, _, kept, _⟩ := publish_cases service cycleId analysis now
      · rw [kept]
      · exact kept
  | marked id mark same => exact same ▸ updateIssue_settings service id (.mark mark)
  | restarted persisted same =>
      rw [same]
      rfl

/-- A run of moves leaves the settings as they are. -/
theorem after_settings (service : Service) (moves : List Move) :
    (service.after moves).monitor.settings = service.monitor.settings :=
  after_keeps (fun after => after.monitor.settings = service.monitor.settings)
    (fun kept move _ => (move_settings _ move).trans kept) rfl

/-- Every move leaves a record of issues a record. -/
theorem known_move (known : KnownIssues service.monitor.issues) (move : Move) :
    KnownIssues (service.move move).monitor.issues := by
  cases moved_move service move with
  | still issues fixes settings => exact issues ▸ known
  | published cycleId analysis now same =>
      rw [same]
      obtain ⟨_, _, kept, _⟩ | ⟨_, issues, _⟩ := publish_cases service cycleId analysis now
      · exact kept ▸ known
      · exact issues ▸ Planning.ofIssues_known _ _ _ (known.reconcile _ _)
  | marked id mark same =>
      rw [same, updateIssue_issues]
      exact known.modify _ (Issue.mark_id mark)
  | restarted persisted same => exact same ▸ KnownIssues.ofList persisted

/-- Every run of moves leaves a record of issues a record. -/
theorem known_after (known : KnownIssues service.monitor.issues) (moves : List Move) :
    KnownIssues (service.after moves).monitor.issues :=
  after_keeps (fun after => KnownIssues after.monitor.issues)
    (fun kept move _ => known_move kept move) known

end Service

namespace Timeline

variable {timeline : Timeline}

/-- Fixes that are given to the catalog are counted, and nothing else happens to the service. -/
theorem reaches_submitAll (fixes : List Fix) (timeline : Timeline) :
    timeline.service.Reaches (timeline.submitAll fixes).service := by
  unfold submitAll
  refine List.foldlRecOn (motive := fun after : Timeline =>
    timeline.service.Reaches after.service) _ _ (.refl _) ?_
  intro after reached fix _
  exact reached.move (.occupy (after.service.monitor.applying + 1))

/-- A cycle in flight at the end of its reading fails, or it publishes and may settle. -/
theorem reaches_publishCycle (running : timeline.service.monitor.running.isSome = true) (id : String)
    (startedAt : Moment) (scan : ScanResult) (capture : Except IntrospectionError Snapshot) :
    timeline.service.Reaches (timeline.publishCycle id startedAt scan capture).service := by
  unfold publishCycle
  split
  · exact Service.reaches_failCycle running _
  · rename_i analysis _
    have published := Service.reaches_publish running id analysis timeline.now
    split
    · rename_i service error refused
      rw [refused] at published
      -- What could not be published left the monitor alone, so its cycle is there to fail.
      have same : service.monitor = timeline.service.monitor := by
        obtain ⟨_, _, same, _⟩ | ⟨granted, _⟩ :=
          Service.publish_cases timeline.service id analysis timeline.now
        · rwa [refused] at same
        · rw [refused] at granted
          cases granted
      exact published.trans (Service.reaches_failCycle (same ▸ running) error)
    · rename_i service fixes granted
      rw [granted] at published
      have submitted := published.trans (reaches_submitAll fixes { timeline with service })
      simp only
      split
      · exact submitted
      · refine submitted.trans (Service.reaches_finishCycle ?_ id analysis [] startedAt _)
        rw [submitAll_running]
        exact (publish_running granted).symm ▸ running

/-- A cycle in flight that goes on makes moves. -/
theorem reaches_advance (guarded : timeline.Guarded) :
    timeline.service.Reaches timeline.advance.service := by
  have reading : ∀ (timeline : Timeline) (id : String) (startedAt : Moment) (scan : ScanResult)
      (capture : Capture), timeline.service.monitor.running.isSome = true →
      timeline.service.Reaches (timeline.continueReading id startedAt scan capture).service := by
    intro timeline id startedAt scan capture running
    unfold continueReading
    split
    · exact reaches_publishCycle running id startedAt scan _
    · exact .refl _
  unfold advance
  split
  · rename_i run inFlight
    have running : timeline.service.monitor.running.isSome = true := guarded (by rw [inFlight]; rfl)
    split
    · unfold advanceCycle
      simp only
      split
      · have entered : timeline.service.Reaches (timeline.service.enter .scanning) :=
          ⟨[.scan], (if_pos running).symm⟩
        exact entered.trans (reading (timeline.onService (.enter .scanning)) _ _ _ _ running)
      · exact reading timeline _ _ _ _ running
      · exact Service.reaches_finishCycle running _ _ _ _ _
    · exact .refl _
  · exact .refl _

/-- The note of an automatic fix lets the cycle in flight settle, or does nothing to the service. -/
theorem reaches_noteExecution (guarded : timeline.Guarded)
    (result : Except MonitorError FixExecution) :
    timeline.service.Reaches (timeline.noteExecution result).service := by
  unfold noteExecution
  split
  · rename_i inFlight
    simp only
    split
    · exact .refl _
    · exact Service.reaches_finishCycle (guarded (by rw [inFlight]; rfl)) _ _ _ _ _
  · exact .refl _

/-- An answer of the catalog is a fix that was run and marked, and counted no more. -/
theorem reaches_answer (guarded : timeline.Guarded) (place : Nat) :
    timeline.service.Reaches (timeline.answer place).service := by
  unfold answer
  simp only
  split
  · rename_i application _
    have ran := Service.reaches_executeFix timeline.service application.executionId application.fix
      application.begunAt
    have kept := executeFix_running timeline.service application.executionId application.fix
      application.begunAt
    unfold finishApplication
    generalize timeline.service.executeFix application.executionId application.fix
      application.begunAt = executed at ran kept ⊢
    obtain ⟨service, result⟩ := executed
    have counted := ran.move (.occupy (service.monitor.applying - 1))
    simp only
    split
    · refine counted.trans (@reaches_noteExecution (Timeline.onMonitor _ _) ?_ result)
      intro inFlight
      exact kept.symm ▸ guarded inFlight
    · exact counted
  · exact .refl _

/-- A cycle that begins makes one move. -/
theorem Begun.reaches {before after : Service} (begun : Begun before after) :
    before.Reaches after := by
  cases begun with
  | kept same => exact same ▸ .refl before
  | begun idle cycleId same =>
      refine ⟨[.begin cycleId], ?_⟩
      simp only [Service.after, List.foldl_cons, List.foldl_nil, Service.move, Service.beginCycle, idle]
      exact same

/-- Every event is a run of moves. -/
theorem reaches_occur (guarded : timeline.Guarded) (event : Event) :
    timeline.service.Reaches (timeline.occur event).service := by
  have still : timeline.service.Reaches timeline.service := .refl _
  cases event with
  | tick time => exact still
  | answer place => exact reaches_answer guarded place
  | advance => exact reaches_advance guarded
  | hear => exact (begun_hear timeline).reaches
  | requestCycle => exact (begun_occur_requestCycle timeline).reaches
  | requestFix id approval =>
      have planned := Service.reaches_planFix timeline.service id approval timeline.now
      simp only [occur, requestFix]
      generalize timeline.service.planFix id approval timeline.now = plan at planned ⊢
      obtain ⟨service, _ | fix⟩ := plan
      · exact planned
      · exact planned.move (.occupy (service.monitor.applying + 1))
  | setAutoApply enabled => exact still.move (.setAutoApply enabled)
  | resume => exact still.move .resume
  | stop => exact still.move .stop
  | startSchedule => exact still
  | restart =>
      simp only [occur]
      cases restarted : timeline.restart with
      | error error => exact still
      | ok started =>
          unfold restart at restarted
          obtain ⟨service, begun, made⟩ := (Result.bind_ok_iff _ _ _).mp restarted
          cases made
          obtain ⟨persisted, _, made⟩ := (Result.bind_ok_iff _ _ _).mp begun
          cases made
          exact still.move (.restart persisted)
  | edit sources store catalog =>
      exact still.move (.edit store { catalog with log := timeline.service.catalog.log })

/-- Every run of events is a run of moves. -/
theorem reaches_after (guarded : timeline.Guarded) (events : List Event) :
    timeline.service.Reaches (timeline.after events).service := by
  induction events generalizing timeline with
  | nil => exact .refl _
  | cons event rest inductionHypothesis =>
      exact (reaches_occur guarded event).trans (inductionHypothesis (guarded.occur event))

/-- Whatever happens to a service at rest, in time and in whatever order, is a run of moves. -/
theorem reaches_ofService (service : Service) (sources : Sources) (ids : Nat → String)
    (events : List Event) :
    service.Reaches ((ofService service sources ids).after events).service := by
  have guarded : (ofService service sources ids).Guarded := by
    intro inFlight
    cases inFlight
  exact reaches_after guarded events

end Timeline

end SchemaDrift
