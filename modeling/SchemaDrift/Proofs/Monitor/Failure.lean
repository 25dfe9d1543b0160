import SchemaDrift.Proofs.Monitor.Events
import SchemaDrift.Proofs.Monitor.Service
import SchemaDrift.Proofs.Result
import SchemaDrift.Proofs.Store.Writable

namespace SchemaDrift

/-- The event changes the issues, the record or the catalog beside a cycle: a fix is asked for or
answered, the monitor starts anew, or the world changes. -/
def Event.intervenes : Event → Bool
  | .answer _ | .requestFix _ _ | .restart | .edit _ _ _ => true
  | _ => false

/-- The event calls the schedule, and lets it forget the failures. -/
def Event.resumes : Event → Bool
  | .resume => true
  | _ => false

/-- One more failure is counted. The number of failures grows by one as long as there is room for it
in 32 bits, and starts over at zero where there is none. -/
structure Monitor.CountsOne (before after : Monitor) : Prop where
  word : after.failureCount = before.failureCount + 1
  grows : before.failures + 1 < UInt32.size → after.failures = before.failures + 1
  startsOver : before.failures + 1 = UInt32.size → after.failures = 0

/-- A count that is one higher counts one more failure. -/
theorem Monitor.CountsOne.of_word {before after : Monitor}
    (word : after.failureCount = before.failureCount + 1) : before.CountsOne after := by
  have number : after.failures = (before.failures + 1) % UInt32.size := by
    rw [failures, word, UInt32.toNat_add]
    rfl
  refine ⟨word, fun room => number.trans (Nat.mod_eq_of_lt room), ?_⟩
  intro full
  rw [number, full, Nat.mod_self]

namespace Timeline

/-- Nothing was published, recorded or run in the catalog. -/
structure Withheld (before after : Timeline) : Prop where
  issues : after.service.monitor.issues = before.service.monitor.issues
  fixes : after.service.monitor.fixes = before.service.monitor.fixes
  snapshot : after.service.monitor.snapshot = before.service.monitor.snapshot
  lastCycleAt : after.service.monitor.lastCycleAt = before.service.monitor.lastCycleAt
  lastCycleId : after.service.monitor.lastCycleId = before.service.monitor.lastCycleId
  lastReport : after.service.monitor.lastReport = before.service.monitor.lastReport
  recorded : after.service.store.loadIssues = before.service.store.loadIssues
  executions : after.service.store.loadExecutions = before.service.store.loadExecutions
  catalog : after.service.catalog = before.service.catalog

/-- Nothing was published, and no failure was counted. -/
structure Uncounted (before after : Timeline) : Prop extends Withheld before after where
  lastError : after.service.monitor.lastError = before.service.monitor.lastError
  failureCount : after.service.monitor.failureCount = before.service.monitor.failureCount

/-- A cycle failed: nothing was published, the monitor is at rest, and the failure is counted and
kept unless it is that the cycle was cancelled. -/
structure Failed (error : CycleError) (before after : Timeline) : Prop
    extends Withheld before after where
  idle : after.service.monitor.phase = .idle
  cancelled : error = .cancelled →
    after.service.monitor.lastError = before.service.monitor.lastError ∧
      after.service.monitor.failureCount = before.service.monitor.failureCount
  counted : error ≠ .cancelled →
    after.service.monitor.lastError = some error.message ∧
      before.service.monitor.CountsOne after.service.monitor

variable {first middle last timeline : Timeline} {error : CycleError}

/-- Nothing is published, and nothing counted, where the service stays as it is. -/
theorem Uncounted.of_service (same : last.service = first.service) : Uncounted first last where
  toWithheld := by constructor <;> rw [same]
  lastError := by rw [same]
  failureCount := by rw [same]

/-- Nothing is published in two steps that publish nothing. -/
theorem Withheld.trans (left : Withheld first middle) (right : Withheld middle last) :
    Withheld first last where
  issues := right.issues.trans left.issues
  fixes := right.fixes.trans left.fixes
  snapshot := right.snapshot.trans left.snapshot
  lastCycleAt := right.lastCycleAt.trans left.lastCycleAt
  lastCycleId := right.lastCycleId.trans left.lastCycleId
  lastReport := right.lastReport.trans left.lastReport
  recorded := right.recorded.trans left.recorded
  executions := right.executions.trans left.executions
  catalog := right.catalog.trans left.catalog

/-- Nothing is counted in two steps that count nothing. -/
theorem Uncounted.trans (left : Uncounted first middle) (right : Uncounted middle last) :
    Uncounted first last where
  toWithheld := left.toWithheld.trans right.toWithheld
  lastError := right.lastError.trans left.lastError
  failureCount := right.failureCount.trans left.failureCount

/-- A failure after a step that counted nothing is one from before the step. -/
theorem Uncounted.failed (left : Uncounted first middle) (right : Failed error middle last) :
    Failed error first last where
  toWithheld := left.toWithheld.trans right.toWithheld
  idle := right.idle
  cancelled same := by
    rw [← left.lastError, ← left.failureCount]
    exact right.cancelled same
  counted different := by
    obtain ⟨lastError, counts⟩ := right.counted different
    exact ⟨lastError, .of_word (by rw [counts.word, left.failureCount])⟩

/-- A cycle in flight is known to the monitor. -/
def Guarded (timeline : Timeline) : Prop :=
  timeline.cycle.isSome = true → timeline.service.monitor.running.isSome = true

/-- The fixes of the cycle in flight are applied, so that it was published. -/
def Applying (timeline : Timeline) : Prop :=
  ∃ id due startedAt analysis executions,
    timeline.cycle = some ⟨id, due, .applying startedAt analysis executions⟩

/-- A cycle that fails withholds all and is counted. -/
theorem failCycle_failed (error : CycleError) (timeline : Timeline) :
    Failed error timeline (timeline.failCycle error) := by
  by_cases cancelled : error = .cancelled
  · have same : ∀ monitor : Monitor, monitor.recordFailure error =
        { monitor.settle with running := none } := by
      intro monitor
      unfold Monitor.recordFailure
      exact if_pos cancelled
    simp only [failCycle, endCycle, onService, Service.failCycle, Service.onMonitor, same]
    exact ⟨⟨rfl, rfl, rfl, rfl, rfl, rfl, rfl, rfl, rfl⟩, rfl, fun _ => ⟨rfl, rfl⟩,
      fun different => absurd cancelled different⟩
  · simp only [failCycle, endCycle, onService, Service.failCycle, Service.onMonitor,
      Monitor.recordFailure, if_neg cancelled]
    exact ⟨⟨rfl, rfl, rfl, rfl, rfl, rfl, rfl, rfl, rfl⟩, rfl, fun same => absurd same cancelled,
      fun _ => ⟨rfl, .of_word rfl⟩⟩

/-- A cycle whose issues cannot be recorded publishes nothing. -/
theorem uncounted_publish {id : String} {analysis : Analysis} {now : Moment} {service : Service}
    (refused : timeline.service.publish id analysis now = (service, .error error)) :
    Uncounted timeline { timeline with service } := by
  unfold Service.publish at refused
  simp only at refused
  split at refused
  · rename_i store failure saved
    obtain ⟨issues, executions⟩ := Store.saveIssues_refused (congrArg Prod.snd saved)
    rw [saved] at issues executions
    cases refused
    exact ⟨⟨rfl, rfl, rfl, rfl, rfl, rfl, issues, executions, rfl⟩, rfl, rfl⟩
  · cases refused

/-- What a step of a cycle may come to: the cycle goes on and nothing was published, it failed, it
was published and its fixes are applied, or it ended well. -/
inductive Stepped (before after : Timeline) : Prop where
  | waits (still : Uncounted before after) (inFlight : after.cycle.isSome = before.cycle.isSome)
      (running : after.service.monitor.running = before.service.monitor.running)
  | failed (error : CycleError) (failed : Failed error before after) (ended : after.cycle = none)
      (answer : after.lastCycle = some (.error error))
  | applies (applying : after.Applying) (inFlight : before.cycle.isSome = true)
      (running : after.service.monitor.running = before.service.monitor.running)
  | finished (report : CycleReport) (ended : after.cycle = none)
      (answer : after.lastCycle = some (.ok report))

/-- Fixes that are given to the catalog leave the cycle in flight as it is. -/
theorem submitAll_running (fixes : List Fix) (timeline : Timeline) :
    (timeline.submitAll fixes).service.monitor.running = timeline.service.monitor.running := by
  unfold submitAll
  simp only
  refine List.foldlRecOn (motive := fun after : Timeline =>
    after.service.monitor.running = timeline.service.monitor.running) _ _ rfl ?_
  intro after same fix _
  exact same

/-- A cycle that is published is still in flight for the monitor. -/
theorem publish_running {id : String} {analysis : Analysis} {now : Moment} {service : Service}
    {fixes : List Fix} (published : timeline.service.publish id analysis now = (service, .ok fixes)) :
    service.monitor.running = timeline.service.monitor.running := by
  unfold Service.publish at published
  simp only at published
  split at published
  · cases published
  · cases published
    rfl

/-- At the end of its reading a cycle fails, or it is published. -/
theorem publishCycle_stepped (id : String) (startedAt : Moment) (scan : ScanResult)
    (capture : Except IntrospectionError Snapshot) (inFlight : timeline.cycle.isSome = true) :
    Stepped timeline (timeline.publishCycle id startedAt scan capture) := by
  unfold publishCycle
  split
  · rename_i error analyzed
    exact .failed error (failCycle_failed error timeline) rfl rfl
  · rename_i analysis analyzed
    split
    · rename_i service error refused
      exact .failed error ((uncounted_publish refused).failed (failCycle_failed error _)) rfl rfl
    · rename_i service fixes published
      simp only
      split
      · refine .applies ⟨_, _, _, _, _, rfl⟩ inFlight ?_
        exact (submitAll_running fixes { timeline with service }).trans (publish_running published)
      · exact .finished _ rfl rfl

/-- A step of the cycle in flight comes to one of four things. -/
theorem advance_stepped (timeline : Timeline) : Stepped timeline timeline.advance := by
  have reading : ∀ (run : CycleRun) (startedAt : Moment) (scan : ScanResult) (capture : Capture)
      (timeline : Timeline), timeline.cycle = some run →
      Stepped timeline (timeline.continueReading run.id startedAt scan capture) := by
    intro run startedAt scan capture timeline inFlight
    unfold continueReading
    split
    · exact publishCycle_stepped run.id startedAt scan _ (by rw [inFlight]; rfl)
    · exact .waits (.of_service rfl) (by rw [inFlight]; rfl) rfl
  have stays : Stepped timeline timeline := .waits (.of_service rfl) rfl rfl
  unfold advance
  split
  · rename_i run inFlight
    split
    · rename_i due
      unfold advanceCycle
      simp only
      split
      · have entered : Uncounted timeline (timeline.onService (.enter .scanning)) :=
          ⟨⟨rfl, rfl, rfl, rfl, rfl, rfl, rfl, rfl, rfl⟩, rfl, rfl⟩
        cases reading run timeline.now _ _ (timeline.onService (.enter .scanning)) inFlight with
        | waits still inFlight running => exact .waits (entered.trans still) inFlight running
        | failed error failed ended answer =>
            exact .failed error (entered.failed failed) ended answer
        | applies applying began running => exact .applies applying began running
        | finished report ended answer => exact .finished report ended answer
      · exact reading run _ _ _ timeline inFlight
      · rename_i stage
        simp [cycleDue?, inFlight, stage] at due
    · exact stays
  · exact stays

/-- A step that ends the cycle in flight with an error is one at which it fails. -/
theorem failed_of_advance (inFlight : timeline.cycle.isSome = true)
    (ended : timeline.advance.cycle = none)
    (answer : timeline.advance.lastCycle = some (.error error)) :
    Failed error timeline timeline.advance := by
  cases advance_stepped timeline with
  | waits uncounted same running =>
      rw [inFlight, ended] at same
      cases same
  | failed other failed _ given =>
      rw [given, Option.some.injEq, Except.error.injEq] at answer
      exact answer ▸ failed
  | applies applying _ running =>
      obtain ⟨id, due, startedAt, analysis, executions, same⟩ := applying
      rw [same] at ended
      cases ended
  | finished report _ given =>
      rw [given] at answer
      cases answer

/-- A cycle whose fixes are applied does not go on by itself. -/
theorem Applying.advance (applying : timeline.Applying) : timeline.advance = timeline := by
  obtain ⟨id, due, startedAt, analysis, executions, inFlight⟩ := applying
  simp [Timeline.advance, cycleDue?, inFlight]

/-- What is done to a service to begin a cycle: nothing, or its monitor knows of a cycle in flight where
it knew of none. -/
inductive Begun (before after : Service) : Prop where
  | kept (same : after = before)
  | begun (idle : before.monitor.running = none) (cycleId : String)
      (same : after = before.onMonitor fun monitor => { monitor with running := some cycleId })

/-- A cycle that is asked for begins. -/
theorem requestCycle_service {requested : Timeline} (granted : timeline.requestCycle = .ok requested) :
    timeline.service.monitor.running = none ∧ ∃ cycleId, requested.service =
      timeline.service.onMonitor fun monitor => { monitor with running := some cycleId } := by
  unfold requestCycle at granted
  obtain ⟨service, begun, made⟩ := (Result.bind_ok_iff _ _ _).mp granted
  cases made
  unfold Service.beginCycle at begun
  split at begun
  · cases begun
  · rename_i idle
    cases begun
    exact ⟨idle, _, rfl⟩

/-- A cycle that is asked for is known to the monitor, and nothing was published. -/
theorem requestCycle_effect {requested : Timeline} (granted : timeline.requestCycle = .ok requested) :
    Uncounted timeline requested ∧ requested.service.monitor.running.isSome = true ∧
      timeline.service.monitor.running = none := by
  obtain ⟨idle, cycleId, same⟩ := requestCycle_service granted
  refine ⟨⟨?_, ?_, ?_⟩, by rw [same]; rfl, idle⟩
  · constructor <;> rw [same] <;> rfl
  · rw [same]
    rfl
  · rw [same]
    rfl

/-- A step of the schedule either asks for a cycle or leaves service and cycle as they are. -/
theorem advanceSchedule_cases (schedule : Schedule) (timeline : Timeline) :
    ((timeline.advanceSchedule schedule).service = timeline.service ∧
      (timeline.advanceSchedule schedule).cycle = timeline.cycle) ∨
    ∃ requested, { timeline with woken := false }.requestCycle = .ok requested ∧
      (timeline.advanceSchedule schedule).service = requested.service ∧
      (timeline.advanceSchedule schedule).cycle = requested.cycle := by
  unfold advanceSchedule
  simp only
  split
  · exact .inl ⟨rfl, rfl⟩
  · split
    · exact .inl ⟨rfl, rfl⟩
    · exact .inl ⟨rfl, rfl⟩
    · split
      · exact .inl ⟨rfl, rfl⟩
      · split
        · rename_i requested granted
          exact .inr ⟨requested, granted, rfl, rfl⟩
        · exact .inl ⟨rfl, rfl⟩

/-- The request of an operator begins a cycle, or does nothing to the service. -/
theorem begun_occur_requestCycle (timeline : Timeline) :
    Begun timeline.service (timeline.occur .requestCycle).service := by
  unfold occur
  cases granted : timeline.requestCycle with
  | error other => exact .kept rfl
  | ok requested =>
      obtain ⟨idle, cycleId, same⟩ := requestCycle_service granted
      exact .begun idle cycleId same

/-- The schedule begins a cycle, or does nothing to the service. -/
theorem begun_hear (timeline : Timeline) : Begun timeline.service timeline.hear.service := by
  unfold hear
  split
  · rename_i schedule _
    split
    · obtain ⟨same, _⟩ | ⟨requested, granted, same, _⟩ := advanceSchedule_cases schedule timeline
      · exact .kept same
      · obtain ⟨idle, cycleId, begun⟩ := requestCycle_service granted
        exact .begun idle cycleId (same.trans begun)
    · exact .kept rfl
  · exact .kept rfl

/-- What may begin a cycle: it was asked for, or nothing about the service and the cycle changed. -/
inductive Asked (before after : Timeline) : Prop where
  | begun (still : Uncounted before after)
      (running : after.service.monitor.running.isSome = true)
      (idle : before.service.monitor.running = none)
  | kept (service : after.service = before.service) (cycle : after.cycle = before.cycle)

/-- A cycle that is asked for publishes nothing. -/
theorem Asked.uncounted (asked : Asked first last) : Uncounted first last := by
  cases asked with
  | begun still running idle => exact still
  | kept service cycle => exact .of_service service

theorem asked_requestCycle (timeline : Timeline) : Asked timeline (timeline.occur .requestCycle) := by
  unfold occur
  cases granted : timeline.requestCycle with
  | error other => exact .kept rfl rfl
  | ok requested =>
      obtain ⟨still, running, idle⟩ := requestCycle_effect granted
      exact .begun still running idle

/-- A cycle is asked for by the schedule. -/
theorem asked_hear (timeline : Timeline) : Asked timeline (timeline.occur .hear) := by
  simp only [occur, hear]
  split
  · rename_i schedule _
    split
    · obtain ⟨service, cycle⟩ | ⟨requested, granted, service, cycle⟩ :=
        advanceSchedule_cases schedule timeline
      · exact .kept service cycle
      · obtain ⟨still, running, idle⟩ := requestCycle_effect granted
        have unheard : Uncounted timeline { timeline with woken := false } := .of_service rfl
        refine .begun ?_ (service ▸ running) idle
        exact unheard.trans (still.trans (.of_service service))
    · exact .kept rfl rfl
  · exact .kept rfl rfl

/-- The change of an issue leaves the cycle in flight as it is. -/
theorem updateIssue_running (service : Service) (id : String) (change : Issue → Issue) :
    (service.updateIssue id change).1.monitor.running = service.monitor.running := by
  obtain ⟨_, _, same⟩ := service.updateIssue_monitor id change
  rw [same]

/-- An answer of the catalog leaves the cycle in flight as it is, but for what it notes. -/
theorem executeFix_running (service : Service) (executionId : String) (fix : Fix) (now : Moment) :
    (service.executeFix executionId fix now).1.monitor.running = service.monitor.running := by
  obtain same | same := Service.executeFix_cases service executionId fix now
  · rw [same]
    rfl
  · rw [same, updateIssue_running]
    rfl

/-- A request for a fix leaves the cycle in flight as it is. -/
theorem planFix_running (service : Service) (id : String) (approval : Approval) (now : Moment) :
    (service.planFix id approval now).1.monitor.running = service.monitor.running := by
  obtain same | ⟨change, _, same⟩ := Service.planFix_cases service id approval now
  · rw [same]
  · rw [same, updateIssue_running]

/-- The note of an automatic fix leaves the cycle in flight, or the cycle ends. -/
theorem noteExecution_cases (result : Except MonitorError FixExecution) (timeline : Timeline) :
    (timeline.noteExecution result).cycle = none ∨
    (timeline.noteExecution result).service = timeline.service ∧
      (timeline.noteExecution result).cycle.isSome = timeline.cycle.isSome ∧
      (timeline.Applying → (timeline.noteExecution result).Applying) := by
  unfold noteExecution
  split
  · rename_i inFlight
    simp only
    split
    · refine .inr ⟨rfl, by rw [inFlight]; rfl, fun _ => ⟨_, _, _, _, _, rfl⟩⟩
    · exact .inl rfl
  · exact .inr ⟨rfl, rfl, id⟩

/-- What an event of others does to the cycle in flight: it ends, or it goes on as it was. -/
inductive Spared (before after : Timeline) : Prop where
  | ended (ended : after.cycle = none)
  | spared (inFlight : after.cycle.isSome = before.cycle.isSome)
      (running : after.service.monitor.running = before.service.monitor.running)
      (applying : before.Applying → after.Applying)

/-- An event that is neither a step of the cycle nor asks for one spares the cycle or ends it. -/
theorem spared_occur (timeline : Timeline) (event : Event) :
    Spared timeline (timeline.occur event) ∨
      event = .advance ∨ event = .requestCycle ∨ event = .hear := by
  cases event with
  | tick time => exact .inl (.spared rfl rfl id)
  | answer place =>
      left
      simp only [occur, answer]
      split
      · rename_i application _
        have ran := executeFix_running timeline.service application.executionId application.fix
          application.begunAt
        unfold finishApplication
        generalize timeline.service.executeFix application.executionId application.fix
          application.begunAt = executed at ran ⊢
        obtain ⟨service, result⟩ := executed
        simp only at ran ⊢
        split
        · obtain ended | ⟨same, inFlight, applying⟩ := noteExecution_cases result
            ({ timeline with
                service
                applications := (sortStable orderApplications timeline.applications).eraseIdx
                  place }.onMonitor fun monitor => { monitor with applying := monitor.applying - 1 })
          · exact .ended ended
          · exact .spared inFlight (by rw [same]; exact ran) applying
        · exact .spared rfl ran id
      · exact .spared rfl rfl id
  | advance => exact .inr (.inl rfl)
  | hear => exact .inr (.inr (.inr rfl))
  | requestCycle => exact .inr (.inr (.inl rfl))
  | requestFix id approval =>
      left
      have planned := planFix_running timeline.service id approval timeline.now
      simp only [occur, requestFix]
      generalize timeline.service.planFix id approval timeline.now = plan at planned ⊢
      obtain ⟨service, result⟩ := plan
      cases result with
      | error error => exact .spared rfl planned fun applying => applying
      | ok fix => exact .spared rfl planned fun applying => applying
  | setAutoApply enabled => exact .inl (.spared rfl rfl id)
  | resume => exact .inl (.spared rfl rfl id)
  | stop => exact .inl (.spared rfl rfl id)
  | startSchedule => exact .inl (.spared rfl rfl id)
  | restart =>
      left
      simp only [occur]
      cases restarted : timeline.restart with
      | error error => exact .spared rfl rfl id
      | ok started =>
          unfold restart at restarted
          obtain ⟨service, begun, made⟩ := (Result.bind_ok_iff _ _ _).mp restarted
          cases made
          exact .ended rfl
  | edit sources store catalog => exact .inl (.spared rfl rfl id)

/-- The cycle in flight stays known to the monitor through every event. -/
theorem Guarded.occur (guarded : timeline.Guarded) (event : Event) :
    (timeline.occur event).Guarded := by
  have kept : ∀ {after : Timeline}, after.service = timeline.service →
      after.cycle = timeline.cycle → after.Guarded := by
    intro after service cycle inFlight
    rw [service]
    exact guarded (cycle ▸ inFlight)
  have asked : ∀ {after : Timeline}, Asked timeline after → after.Guarded := by
    intro after asked
    cases asked with
    | begun still running idle => exact fun _ => running
    | kept service cycle => exact kept service cycle
  obtain spared | rfl | rfl | rfl := spared_occur timeline event
  · intro inFlight
    cases spared with
    | ended ended =>
        rw [ended] at inFlight
        cases inFlight
    | spared same running applying =>
        rw [running]
        exact guarded (same ▸ inFlight)
  · intro inFlight
    cases advance_stepped timeline with
    | waits still same running =>
        have before := same ▸ inFlight
        exact running ▸ guarded before
    | failed error failed ended answer =>
        simp only [Timeline.occur, ended] at inFlight
        cases inFlight
    | applies applying began running => exact running ▸ guarded began
    | finished report ended answer =>
        simp only [Timeline.occur, ended] at inFlight
        cases inFlight
  · exact asked (asked_requestCycle timeline)
  · exact asked (asked_hear timeline)

/-- A published cycle stays published as long as it is in flight. -/
theorem Applying.occur (applying : timeline.Applying) (guarded : timeline.Guarded) {event : Event}
    (inFlight : (timeline.occur event).cycle.isSome = true) : (timeline.occur event).Applying := by
  have asked : ∀ {after : Timeline}, Asked timeline after → after.Applying := by
    intro after asked
    cases asked with
    | begun still running idle =>
        obtain ⟨id, due, startedAt, analysis, executions, same⟩ := applying
        have known := guarded (by rw [same]; rfl)
        rw [idle] at known
        cases known
    | kept service cycle =>
        obtain ⟨id, due, startedAt, analysis, executions, same⟩ := applying
        exact ⟨id, due, startedAt, analysis, executions, cycle.trans same⟩
  obtain spared | rfl | rfl | rfl := spared_occur timeline event
  · cases spared with
    | ended ended =>
        rw [ended] at inFlight
        cases inFlight
    | spared same running kept => exact kept applying
  · rw [Timeline.occur, applying.advance]
    exact applying
  · exact asked (asked_requestCycle timeline)
  · exact asked (asked_hear timeline)

/-- The cycle that is in flight before some events is so all the time. -/
def InFlight (timeline : Timeline) (events : List Event) : Prop :=
  ∀ earlier later, events = earlier ++ later → (timeline.after earlier).cycle.isSome = true

/-- What is in flight all the time is so after the first event. -/
theorem InFlight.tail {event : Event} {events : List Event}
    (inFlight : timeline.InFlight (event :: events)) : (timeline.occur event).InFlight events := by
  intro earlier later same
  exact inFlight (event :: earlier) later (by rw [same]; rfl)

/-- The cycle in flight stays known to the monitor through all events. -/
theorem Guarded.after (guarded : timeline.Guarded) (events : List Event) :
    (timeline.after events).Guarded := by
  induction events generalizing timeline with
  | nil => exact guarded
  | cons event rest inductionHypothesis => exact inductionHypothesis (guarded.occur event)

/-- A published cycle stays published through all events in which it is in flight. -/
theorem Applying.after (applying : timeline.Applying) (guarded : timeline.Guarded)
    {events : List Event} (inFlight : timeline.InFlight events) :
    (timeline.after events).Applying := by
  induction events generalizing timeline with
  | nil => exact applying
  | cons event rest inductionHypothesis =>
      have next : (timeline.occur event).cycle.isSome = true := inFlight [event] rest rfl
      exact inductionHypothesis (applying.occur guarded next) (guarded.occur event) inFlight.tail

/-- What each of some events keeps, all of them keep. -/
theorem after_of_steps (Keeps : Timeline → Timeline → Prop) (refl : ∀ timeline, Keeps timeline timeline)
    (trans : ∀ {first middle last}, Keeps first middle → Keeps middle last → Keeps first last)
    {events : List Event} (steps : ∀ earlier event later, events = earlier ++ event :: later →
      Keeps (timeline.after earlier) ((timeline.after earlier).occur event)) :
    Keeps timeline (timeline.after events) := by
  induction events generalizing timeline with
  | nil => exact refl timeline
  | cons event rest inductionHypothesis =>
      refine trans (steps [] event rest rfl) (inductionHypothesis ?_)
      intro earlier other later same
      exact steps (event :: earlier) other later (by rw [same]; rfl)

/-- An event that does not intervene publishes nothing while the cycle in flight is unpublished. -/
theorem withheld_occur {event : Event} (aside : event.intervenes = false)
    (inFlight : (timeline.occur event).cycle.isSome = true)
    (unpublished : ¬ (timeline.occur event).Applying) :
    Withheld timeline (timeline.occur event) ∧
      (event.resumes = false → Uncounted timeline (timeline.occur event)) := by
  have still : ∀ {after : Timeline}, Uncounted timeline after → Withheld timeline after ∧
      (event.resumes = false → Uncounted timeline after) :=
    fun uncounted => ⟨uncounted.toWithheld, fun _ => uncounted⟩
  cases event with
  | tick time => exact still (.of_service rfl)
  | advance =>
      cases advance_stepped timeline with
      | waits uncounted same running => exact still uncounted
      | failed error failed ended answer =>
          simp only [occur, ended] at inFlight
          cases inFlight
      | applies applying began running => exact absurd applying unpublished
      | finished report ended answer =>
          simp only [occur, ended] at inFlight
          cases inFlight
  | hear => exact still (asked_hear timeline).uncounted
  | requestCycle => exact still (asked_requestCycle timeline).uncounted
  | setAutoApply enabled => exact still ⟨⟨rfl, rfl, rfl, rfl, rfl, rfl, rfl, rfl, rfl⟩, rfl, rfl⟩
  | resume => exact ⟨⟨rfl, rfl, rfl, rfl, rfl, rfl, rfl, rfl, rfl⟩, fun called => by cases called⟩
  | stop => exact still ⟨⟨rfl, rfl, rfl, rfl, rfl, rfl, rfl, rfl, rfl⟩, rfl, rfl⟩
  | startSchedule => exact still (.of_service rfl)
  | answer place => cases aside
  | requestFix id approval => cases aside
  | restart => cases aside
  | edit sources store catalog => cases aside

/-- A run of a cycle that fails: it is asked for where none is in flight, it is in flight while other
things happen, and its last step ends it with an error. -/
structure FailedRun (before : Timeline) (begun : Event) (meanwhile : List Event)
    (error : CycleError) : Prop where
  resting : before.cycle = none
  asked : begun = .requestCycle ∨ begun = .hear
  inFlight : (before.occur begun).InFlight meanwhile
  ended : (((before.occur begun).after meanwhile).occur .advance).cycle = none
  answer : (((before.occur begun).after meanwhile).occur .advance).lastCycle = some (.error error)

/-- What a run of a cycle that fails leaves behind. No step of it publishes anything, the last one
leaves the monitor at rest and counts the failure unless the cycle was cancelled, and where nobody
intervened all is as it was before the cycle. -/
structure LeavesNothing (before : Timeline) (begun : Event) (meanwhile : List Event)
    (error : CycleError) : Prop where
  begins : Uncounted before (before.occur begun)
  steps : ∀ earlier event later, meanwhile = earlier ++ event :: later →
    event.intervenes = false → Withheld ((before.occur begun).after earlier)
      (((before.occur begun).after earlier).occur event)
  fails : Failed error ((before.occur begun).after meanwhile)
    (((before.occur begun).after meanwhile).occur .advance)
  whole : (∀ event ∈ meanwhile, event.intervenes = false) →
    Withheld before (((before.occur begun).after meanwhile).occur .advance)
  counted : (∀ event ∈ meanwhile, event.intervenes = false ∧ event.resumes = false) →
    Failed error before (((before.occur begun).after meanwhile).occur .advance)

namespace FailedRun

variable {before : Timeline} {begun : Event} {meanwhile : List Event}

/-- The cycle is known to the monitor as soon as it is in flight. -/
theorem begins (run : FailedRun before begun meanwhile error) :
    Uncounted before (before.occur begun) ∧ (before.occur begun).Guarded := by
  have guarded : before.Guarded := by
    intro inFlight
    rw [run.resting] at inFlight
    cases inFlight
  refine ⟨?_, guarded.occur begun⟩
  obtain rfl | rfl := run.asked
  · exact (asked_requestCycle before).uncounted
  · exact (asked_hear before).uncounted

/-- The cycle is never published: a published one ends well. -/
theorem unpublished (run : FailedRun before begun meanwhile error) {earlier later : List Event}
    (split : meanwhile = earlier ++ later) : ¬ ((before.occur begun).after earlier).Applying := by
  intro applying
  have guarded := run.begins.2.after earlier
  have inFlight : ((before.occur begun).after earlier).InFlight later := by
    intro first second same
    rw [← after_append]
    exact run.inFlight (earlier ++ first) second (by rw [split, same, List.append_assoc])
  have last := applying.after guarded inFlight
  rw [← after_append, ← split] at last
  have ended := run.ended
  rw [occur, last.advance] at ended
  obtain ⟨id, due, startedAt, analysis, executions, same⟩ := last
  rw [same] at ended
  cases ended

/-- A step of the cycle, or of anybody who does not intervene, publishes nothing. -/
theorem withheld_step (run : FailedRun before begun meanwhile error) {earlier later : List Event}
    {event : Event} (split : meanwhile = earlier ++ event :: later)
    (aside : event.intervenes = false) :
    Withheld ((before.occur begun).after earlier) (((before.occur begun).after earlier).occur event) ∧
      (event.resumes = false → Uncounted ((before.occur begun).after earlier)
        (((before.occur begun).after earlier).occur event)) := by
  have split' : meanwhile = (earlier ++ [event]) ++ later := by rw [split, List.append_assoc]; rfl
  have inFlight := run.inFlight (earlier ++ [event]) later split'
  have unpublished := run.unpublished split'
  rw [after_concat] at inFlight unpublished
  exact withheld_occur aside inFlight unpublished

/-- The last step is where the cycle fails. -/
theorem failed (run : FailedRun before begun meanwhile error) :
    Failed error ((before.occur begun).after meanwhile)
      (((before.occur begun).after meanwhile).occur .advance) :=
  failed_of_advance (run.inFlight meanwhile [] (List.append_nil meanwhile).symm) run.ended run.answer

/-- A monitor whose sources cannot be found. -/
def rootless : Timeline :=
  .ofService ⟨.ofIssues .initial [], .empty, .empty "public" ⟨0⟩⟩ ⟨.empty, none, "src"⟩ fun _ => "id"

end FailedRun

end Timeline

end SchemaDrift
