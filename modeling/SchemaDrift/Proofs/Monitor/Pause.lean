import Mathlib.Data.List.Induction
import SchemaDrift.Proofs.Monitor.Moves

namespace SchemaDrift

/-- Neither the pause nor the count of failures changed. -/
structure Service.SameCount (before after : Service) : Prop where
  paused : after.monitor.paused = before.monitor.paused
  failureCount : after.monitor.failureCount = before.monitor.failureCount
  settings : after.monitor.settings = before.monitor.settings

namespace Service

variable {first middle last : Service}

/-- Nothing is counted where nothing happens. -/
theorem SameCount.refl (service : Service) : service.SameCount service := ⟨rfl, rfl, rfl⟩

/-- Nothing is counted in two steps that count nothing. -/
theorem SameCount.trans (left : first.SameCount middle) (right : middle.SameCount last) :
    first.SameCount last where
  paused := right.paused.trans left.paused
  failureCount := right.failureCount.trans left.failureCount
  settings := right.settings.trans left.settings

theorem sameCount_updateIssue (service : Service) (id : String) (change : Issue → Issue) :
    service.SameCount (service.updateIssue id change).1 := by
  obtain ⟨_, _, same⟩ := service.updateIssue_monitor id change
  constructor <;> rw [same]

/-- A fix that is applied is not counted, whatever comes of it. -/
theorem sameCount_executeFix (service : Service) (executionId : String) (fix : Fix) (now : Moment) :
    service.SameCount (service.executeFix executionId fix now).1 := by
  have ran : service.SameCount (service.runFix executionId fix now).1 := ⟨rfl, rfl, rfl⟩
  obtain same | same := executeFix_cases service executionId fix now
  · rw [same]
    exact ran
  · rw [same]
    exact ran.trans (sameCount_updateIssue _ _ _)

theorem sameCount_planFix (service : Service) (id : String) (approval : Approval) (now : Moment) :
    service.SameCount (service.planFix id approval now).1 := by
  obtain same | ⟨change, _, same⟩ := planFix_cases service id approval now
  · rw [same]
    exact .refl service
  · rw [same]
    exact sameCount_updateIssue _ _ _

/-- A cycle that is published, or cannot be, is not counted yet. -/
theorem sameCount_publish (service : Service) (cycleId : String) (analysis : Analysis)
    (now : Moment) : service.SameCount (service.publish cycleId analysis now).1 := by
  unfold publish
  simp only
  split <;> exact ⟨rfl, rfl, rfl⟩

end Service

namespace Timeline

/-- The event ends the cycle in flight, and well. -/
structure EndsWell (timeline : Timeline) (event : Event) : Prop where
  inFlight : timeline.cycle.isSome = true
  ended : (timeline.occur event).cycle = none
  answer : ∃ report, (timeline.occur event).lastCycle = some (.ok report)

/-- The event ends the cycle in flight with a failure, and the count has no room for another one. -/
structure RunsOver (timeline : Timeline) (event : Event) : Prop where
  inFlight : timeline.cycle.isSome = true
  ended : (timeline.occur event).cycle = none
  answer : ∃ error, error ≠ .cancelled ∧ (timeline.occur event).lastCycle = some (.error error)
  full : timeline.service.monitor.failures + 1 = UInt32.size

/-- The event ends every pause: an operator resumes the monitor, or it starts anew. -/
def Renews (timeline : Timeline) : Event → Prop
  | .resume => True
  | .restart => ∃ started, timeline.restart = .ok started
  | _ => False

/-- No event of a run ends a pause. -/
def Unrenewed (start : Timeline) (events : List Event) : Prop :=
  ∀ earlier event later, events = earlier ++ event :: later → ¬ (start.after earlier).Renews event

/-- The monitor forgot its failures while it was paused, for a cycle ended well or the count ran over,
and since then nothing ended the pause. -/
def Forgot (start : Timeline) (events : List Event) : Prop :=
  ∃ earlier event later, events = earlier ++ event :: later ∧
    (start.after earlier).service.monitor.paused = true ∧
    ((start.after earlier).EndsWell event ∨ (start.after earlier).RunsOver event) ∧
    (start.after earlier).Unrenewed (event :: later)

/-- What a step may do to the pause and the count of failures: nothing, or the cycle in flight fails
or ends well. -/
inductive Counted (before after : Timeline) : Prop where
  | kept (same : before.service.SameCount after.service)
  | failed (inFlight : before.cycle.isSome = true) (ended : after.cycle = none)
      (answer : ∃ error, error ≠ .cancelled ∧ after.lastCycle = some (.error error))
      (counts : before.service.monitor.CountsOne after.service.monitor)
      (paused : after.service.monitor.paused = (before.service.monitor.paused ||
        before.service.monitor.retryCeiling ≤ after.service.monitor.failures))
  | finished (inFlight : before.cycle.isSome = true) (ended : after.cycle = none)
      (answer : ∃ report, after.lastCycle = some (.ok report))
      (failures : after.service.monitor.failures = 0)
      (paused : after.service.monitor.paused = before.service.monitor.paused)

variable {start timeline before middle after : Timeline} {events : List Event} {event : Event}

/-- A step counts the same after one that counts nothing and leaves the cycle in flight. -/
theorem Counted.of_sameCount (counted : Counted middle after)
    (same : before.service.SameCount middle.service) (inFlight : middle.cycle = before.cycle) :
    Counted before after := by
  cases counted with
  | kept other => exact .kept (same.trans other)
  | failed present ended answer counts paused =>
      have ceiling : middle.service.monitor.retryCeiling = before.service.monitor.retryCeiling :=
        congrArg (fun settings : Settings => max 1 settings.monitor.retryCeiling) same.settings
      rw [same.paused, ceiling] at paused
      exact .failed (inFlight ▸ present) ended answer
        (.of_word (by rw [counts.word, same.failureCount])) paused
  | finished present ended answer failures paused =>
      exact .finished (inFlight ▸ present) ended answer failures (paused.trans same.paused)

/-- A cycle that fails is counted unless it was cancelled. -/
theorem counted_failCycle (timeline : Timeline) (inFlight : timeline.cycle.isSome = true)
    (error : CycleError) : Counted timeline (timeline.failCycle error) := by
  by_cases cancelled : error = .cancelled
  · refine .kept ?_
    simp only [failCycle, endCycle, onService, Service.failCycle, Service.onMonitor,
      Monitor.recordFailure, if_pos cancelled]
    exact ⟨rfl, rfl, rfl⟩
  · refine .failed inFlight rfl ⟨error, cancelled, rfl⟩ (.of_word ?_) ?_ <;>
      simp only [failCycle, endCycle, onService, Service.failCycle, Service.onMonitor,
        Monitor.recordFailure, if_neg cancelled]
    rfl

/-- A cycle that ends well lets the monitor forget its failures. -/
theorem counted_finishCycle (inFlight : timeline.cycle.isSome = true) (id : String)
    (startedAt : Moment) (analysis : Analysis) (executions : List FixExecution) :
    Counted timeline (timeline.finishCycle id startedAt analysis executions) :=
  .finished inFlight rfl ⟨_, rfl⟩ rfl rfl

/-- Fixes that are given to the catalog are not counted, and leave the cycle in flight. -/
theorem sameCount_submitAll (fixes : List Fix) (timeline : Timeline) :
    timeline.service.SameCount (timeline.submitAll fixes).service ∧
      (timeline.submitAll fixes).cycle = timeline.cycle := by
  unfold submitAll
  refine List.foldlRecOn (motive := fun after : Timeline =>
    timeline.service.SameCount after.service ∧ after.cycle = timeline.cycle) _ _
    ⟨.refl _, rfl⟩ ?_
  intro after same fix _
  exact ⟨same.1.trans ⟨rfl, rfl, rfl⟩, same.2⟩

/-- A cycle at the end of its reading counts at most as one that ended. -/
theorem counted_publishCycle (inFlight : timeline.cycle.isSome = true) (id : String)
    (startedAt : Moment) (scan : ScanResult) (capture : Except IntrospectionError Snapshot) :
    Counted timeline (timeline.publishCycle id startedAt scan capture) := by
  unfold publishCycle
  split
  · exact counted_failCycle timeline inFlight _
  · rename_i analysis _
    have published := Service.sameCount_publish timeline.service id analysis timeline.now
    generalize timeline.service.publish id analysis timeline.now = result at published ⊢
    obtain ⟨service, error | fixes⟩ := result
    · exact (counted_failCycle { timeline with service } inFlight error).of_sameCount published rfl
    · obtain ⟨same, cycle⟩ := sameCount_submitAll fixes { timeline with service }
      have submitted := published.trans same
      simp only
      split
      · exact .kept submitted
      · have ready : ({ timeline with service }.submitAll fixes).cycle.isSome = true :=
          cycle.symm ▸ inFlight
        exact (counted_finishCycle ready _ _ _ _).of_sameCount submitted cycle

/-- A step of the cycle counts at most as one that ended. -/
theorem counted_advance (timeline : Timeline) : Counted timeline timeline.advance := by
  have reading : ∀ {timeline : Timeline} (id : String) (startedAt : Moment) (scan : ScanResult)
      (capture : Capture), timeline.cycle.isSome = true →
      Counted timeline (timeline.continueReading id startedAt scan capture) := by
    intro timeline id startedAt scan capture inFlight
    unfold continueReading
    split
    · exact counted_publishCycle inFlight id startedAt scan _
    · exact .kept (.refl _)
  unfold advance
  split
  · rename_i run found
    have inFlight : timeline.cycle.isSome = true := by rw [found]; rfl
    split
    · unfold advanceCycle
      simp only
      split
      · have entered : timeline.service.SameCount (timeline.onService (.enter .scanning)).service :=
          ⟨rfl, rfl, rfl⟩
        exact Counted.of_sameCount (reading _ _ _ _ inFlight) entered rfl
      · exact reading _ _ _ _ inFlight
      · exact counted_finishCycle inFlight _ _ _ _
    · exact .kept (.refl _)
  · exact .kept (.refl _)

/-- The note of an automatic fix counts at most as a cycle that ended. -/
theorem counted_noteExecution (result : Except MonitorError FixExecution) (timeline : Timeline) :
    Counted timeline (timeline.noteExecution result) := by
  unfold noteExecution
  split
  · rename_i found
    simp only
    split
    · exact .kept (.refl _)
    · exact counted_finishCycle (by rw [found]; rfl) _ _ _ _
  · exact .kept (.refl _)

/-- An answer of the catalog counts at most as a cycle that ended. -/
theorem counted_answer (place : Nat) (timeline : Timeline) :
    Counted timeline (timeline.answer place) := by
  unfold answer
  simp only
  split
  · rename_i application _
    have ran := Service.sameCount_executeFix timeline.service application.executionId
      application.fix application.begunAt
    unfold finishApplication
    generalize timeline.service.executeFix application.executionId application.fix
      application.begunAt = executed at ran ⊢
    obtain ⟨service, result⟩ := executed
    simp only
    split
    · exact (counted_noteExecution result _).of_sameCount (ran.trans ⟨rfl, rfl, rfl⟩) rfl
    · exact .kept (ran.trans ⟨rfl, rfl, rfl⟩)
  · exact .kept (.refl _)

/-- A cycle that begins is not counted. -/
theorem Begun.sameCount {before after : Service} (begun : Begun before after) :
    before.SameCount after := by
  cases begun with
  | kept same => exact same ▸ .refl before
  | begun idle cycleId same => exact same ▸ ⟨rfl, rfl, rfl⟩

/-- Every event that ends no pause counts at most as a cycle that ended. -/
theorem counted_occur (unrenewed : ¬ timeline.Renews event) :
    Counted timeline (timeline.occur event) := by
  have still : Counted timeline timeline := .kept (.refl _)
  cases event with
  | tick time => exact .kept (.refl _)
  | answer place => exact counted_answer place timeline
  | advance => exact counted_advance timeline
  | hear => exact .kept (begun_hear timeline).sameCount
  | requestCycle => exact .kept (begun_occur_requestCycle timeline).sameCount
  | requestFix id approval =>
      have planned := Service.sameCount_planFix timeline.service id approval timeline.now
      simp only [occur, requestFix]
      generalize timeline.service.planFix id approval timeline.now = plan at planned ⊢
      obtain ⟨service, _ | fix⟩ := plan
      · exact .kept planned
      · exact .kept (planned.trans ⟨rfl, rfl, rfl⟩)
  | setAutoApply enabled => exact .kept ⟨rfl, rfl, rfl⟩
  | resume => exact absurd trivial unrenewed
  | stop => exact .kept ⟨rfl, rfl, rfl⟩
  | startSchedule => exact .kept (.refl _)
  | restart =>
      simp only [occur]
      cases restarted : timeline.restart with
      | error error => exact still
      | ok started => exact absurd ⟨started, restarted⟩ unrenewed
  | edit sources store catalog => exact .kept ⟨rfl, rfl, rfl⟩

/-- A monitor whose pause ended is not paused and counts no failure. -/
theorem unpaused_of_renews (renews : timeline.Renews event) :
    (timeline.occur event).service.monitor.paused = false ∧
      (timeline.occur event).service.monitor.failures = 0 := by
  cases event with
  | resume => exact ⟨rfl, rfl⟩
  | restart =>
      obtain ⟨started, restarted⟩ := renews
      have same : timeline.occur .restart = started := by
        simp [occur, restarted, Except.toOption]
      rw [same]
      unfold restart at restarted
      obtain ⟨service, begun, made⟩ := (Result.bind_ok_iff _ _ _).mp restarted
      cases made
      obtain ⟨persisted, _, made⟩ := (Result.bind_ok_iff _ _ _).mp begun
      cases made
      exact ⟨rfl, rfl⟩
  | _ => exact renews.elim

/-- That the failures were forgotten in a pause stands until the pause ends, also by the step that
ended the cycle. -/
theorem forgot_iff_standsSince : start.Forgot events ↔
    StandsSince (fun earlier event => ((start.after earlier).service.monitor.paused = true ∧
        ((start.after earlier).EndsWell event ∨ (start.after earlier).RunsOver event)) ∧
          ¬ (start.after earlier).Renews event)
      (fun earlier event => (start.after earlier).Renews event) events := by
  constructor
  · rintro ⟨earlier, event, later, split, paused, forgets, unrenewed⟩
    refine ⟨earlier, event, later, split, ⟨⟨paused, forgets⟩, unrenewed [] event later rfl⟩, ?_⟩
    intro first next rest same renews
    rw [after_append] at renews
    exact unrenewed (event :: first) next rest (by rw [same]; rfl) renews
  · rintro ⟨earlier, event, later, split, ⟨⟨paused, forgets⟩, lasts⟩, others⟩
    refine ⟨earlier, event, later, split, paused, forgets, ?_⟩
    intro first next rest same
    cases first with
    | nil =>
        cases same
        exact lasts
    | cons head tail =>
        obtain ⟨rfl, within⟩ := List.cons.inj same
        rw [← after_append]
        exact others tail next rest within

/-- Nothing was forgotten in a pause once an event ended every pause. -/
theorem not_forgot_concat (renews : (start.after events).Renews event) :
    ¬ start.Forgot (events ++ [event]) := by
  rw [forgot_iff_standsSince, standsSince_concat_iff]
  rintro (⟨_, lasts⟩ | ⟨_, lasts⟩) <;> exact lasts renews

/-- After an event that ends no pause, the failures were forgotten in one before, or just now. -/
theorem forgot_concat_iff (unrenewed : ¬ (start.after events).Renews event) :
    start.Forgot (events ++ [event]) ↔ start.Forgot events ∨
      (start.after events).service.monitor.paused = true ∧
        ((start.after events).EndsWell event ∨ (start.after events).RunsOver event) := by
  rw [forgot_iff_standsSince, standsSince_concat_iff, ← forgot_iff_standsSince,
    and_iff_left unrenewed, and_iff_left unrenewed, or_comm]

variable {ceiling : Nat}

/-- A monitor is paused as long as it counts as many failures as it may, or as it forgot them in its
pause. -/
def Pauses (start : Timeline) (ceiling : Nat) (events : List Event) : Prop :=
  (start.after events).service.monitor.paused = true ↔
    ceiling ≤ (start.after events).service.monitor.failures ∨ start.Forgot events

/-- The pause stays as it should be with every event. -/
theorem Pauses.concat (pauses : start.Pauses ceiling events) (positive : 1 ≤ ceiling)
    (allowed : (start.after events).service.monitor.retryCeiling = ceiling) (event : Event) :
    start.Pauses ceiling (events ++ [event]) := by
  unfold Pauses at pauses ⊢
  rw [after_concat]
  by_cases renews : (start.after events).Renews event
  · obtain ⟨unpaused, forgotten⟩ := unpaused_of_renews renews
    have never := not_forgot_concat renews
    simp only [unpaused, forgotten, never, Bool.false_eq_true, or_false, false_iff]
    omega
  · -- A failure moves the count and the pause together unless the count runs over; that parts them
    -- as a cycle that ends well does.
    rw [forgot_concat_iff renews]
    have lasts : start.Forgot events ∨ (start.after events).service.monitor.paused = true ∧
        ((start.after events).EndsWell event ∨ (start.after events).RunsOver event) →
          (start.after events).service.monitor.paused = true := by
      rintro (forgot | ⟨paused, -⟩)
      · exact pauses.mpr (.inr forgot)
      · exact paused
    have forgotten : ¬ ceiling ≤ 0 := by omega
    cases counted_occur renews with
    | kept same =>
        have failures : ((start.after events).occur event).service.monitor.failures =
            (start.after events).service.monitor.failures := congrArg UInt32.toNat same.failureCount
        rw [same.paused, failures]
        refine ⟨fun paused => (pauses.mp paused).imp_right .inl, ?_⟩
        rintro (reached | since)
        · exact pauses.mpr (.inl reached)
        · exact lasts since
    | failed inFlight ended answer counts paused =>
        rw [paused, Bool.or_eq_true, decide_eq_true_eq, allowed]
        refine ⟨?_, fun later => later.elim .inr fun since => .inl (lasts since)⟩
        rintro (before | reached)
        · have bounded : (start.after events).service.monitor.failures < UInt32.size :=
            (start.after events).service.monitor.failureCount.toNat_lt
          obtain room | full := Nat.lt_or_eq_of_le (Nat.succ_le_of_lt bounded)
          · rw [counts.grows room]
            exact (pauses.mp before).imp Nat.le_succ_of_le .inl
          · exact .inr (.inr ⟨before, .inr ⟨inFlight, ended, answer, full⟩⟩)
        · exact .inl reached
    | finished inFlight ended answer failures paused =>
        rw [failures, paused]
        refine ⟨fun before => .inr (.inr ⟨before, .inl ⟨inFlight, ended, answer⟩⟩), ?_⟩
        exact fun later => later.elim (absurd · forgotten) lasts

/-- The monitor of a service at rest pauses as it should through every run. -/
theorem pauses_after (settings : Settings) (persisted : List Issue) (store : Store)
    (catalog : Catalog) (sources : Sources) (ids : Nat → String) (events : List Event) :
    (ofService ⟨.ofIssues settings persisted, store, catalog⟩ sources ids).Pauses
      (max 1 settings.monitor.retryCeiling) events := by
  have positive : 1 ≤ max 1 settings.monitor.retryCeiling := Nat.le_max_left _ _
  induction events using List.reverseRecOn with
  | nil =>
      have never : ¬ (ofService ⟨.ofIssues settings persisted, store, catalog⟩ sources ids).Forgot
          [] := fun forgot => not_standsSince_nil (forgot_iff_standsSince.mp forgot)
      unfold Pauses
      simp only [never, or_false]
      refine iff_of_false Bool.false_ne_true (Nat.not_le.mpr ?_)
      exact positive
  | append_singleton events event inductionHypothesis =>
      refine inductionHypothesis.concat positive ?_ event
      obtain ⟨moves, reached⟩ :=
        reaches_ofService ⟨.ofIssues settings persisted, store, catalog⟩ sources ids events
      rw [reached]
      exact congrArg (fun settings : Settings => max 1 settings.monitor.retryCeiling)
        (Service.after_settings _ moves)

/-- Whatever happens to a monitor, it is paused exactly when it counts as many failures in a row as it
may, at least one, or when it forgot them in a pause that nothing ended since. -/
theorem paused_iff (settings : Settings) (persisted : List Issue) (store : Store)
    (catalog : Catalog) (sources : Sources) (ids : Nat → String) (events : List Event) :
    let start := ofService ⟨.ofIssues settings persisted, store, catalog⟩ sources ids
    let reached := start.after events
    reached.service.monitor.paused = true ↔
      max 1 settings.monitor.retryCeiling ≤ reached.service.monitor.failures ∨
        start.Forgot events :=
  pauses_after settings persisted store catalog sources ids events

namespace Outage

/-- The settings of a monitor that one failed cycle pauses. -/
def strict : Settings :=
  { Settings.initial with monitor := { MonitorSettings.initial with retryCeiling := 1 } }

/-- A monitor of no issues and no tables whose sources cannot be found. -/
def lost : Timeline :=
  ofService ⟨.ofIssues strict [], .empty, .empty "public" ⟨0⟩⟩ ⟨.empty, none, "src"⟩ fun _ => "id"

/-- A cycle fails; then the sources are there, and a cycle ends well. -/
def regained : List Request :=
  [.runCycle, .event (.edit ⟨.empty, some [], "src"⟩ .empty (.empty "public" ⟨0⟩)), .runCycle]

/-- After a cycle that ended well in a pause, the monitor is paused though it counts no failure, and a
scan is refused after no failed cycles. -/
theorem paused_regained :
    let reached := lost.serveAll regained
    ¬ (reached.service.monitor.paused = true ↔
      max 1 strict.monitor.retryCeiling ≤ reached.service.monitor.failures) ∧
    reached.requestScan.2 = .error (.paused 0) := by
  refine ⟨by decide +kernel, by rfl⟩

end Outage

end Timeline

end SchemaDrift
