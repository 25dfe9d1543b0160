import Mathlib.Data.List.Induction
import SchemaDrift.Proofs.Monitor.Steps

/-
This file holds that every statement which a monitor gives to the catalog comes from a fix that some
event before planned, in whatever order cycles, requests and answers come. What else is known of fixes
when they are planned is left open: it is a parameter of all that follows.
-/

namespace SchemaDrift.Timeline

/-- The catalog is asked to run a fix where it answers it in the next event of the run. -/
theorem mem_executions_iff {start : Timeline} {events : List Event} {execution : Execution} :
    execution ∈ start.executions events ↔ ∃ event later,
      events = execution.events ++ event :: later ∧
        (start.after execution.events).answered? event = some execution.application := by
  induction events using List.reverseRecOn with
  | nil => simp [executions, executionsFrom]
  | append_singleton events event inductionHypothesis =>
      rw [executions_concat, List.mem_append, inductionHypothesis]
      constructor
      · rintro (⟨other, later, rfl, answered⟩ | new)
        · exact ⟨other, later ++ [event], by simp, answered⟩
        · obtain ⟨application, found, rfl⟩ := List.mem_map.mp new
          exact ⟨event, [], rfl, Option.mem_toList.mp found⟩
      · rintro ⟨other, later, split, answered⟩
        obtain ⟨same, rfl, rfl⟩ | ⟨between, rfl, rfl⟩ := concat_eq_append_cons_iff.mp split
        · have found := Option.mem_toList.mpr answered
          rw [same] at found
          exact .inr (List.mem_map.mpr ⟨_, found, by rw [← same]⟩)
        · exact .inl ⟨other, between, rfl, answered⟩

/-- Some event of a run planned the item. -/
def PlannedWithin {Item : Type} (Plans : Timeline → Event → Item → Prop) (start : Timeline)
    (events : List Event) (item : Item) : Prop :=
  ∃ earlier event later, events = earlier ++ event :: later ∧ Plans (start.after earlier) event item

/-- All fixes are planned that a monitor may apply: those that a cycle has under way when it published
its planning, and the ready ones of open issues that an operator was granted. -/
structure PlansAll (Plans : Timeline → Event → Application → Prop) : Prop where
  cycle : ∀ {timeline : Timeline} {detected : List Issue} {application : Application},
    KnownIssues timeline.service.monitor.issues →
    Published (timeline.planningOf detected) timeline timeline.advance →
    application.fix ∈ (timeline.planningOf detected).automatic → application.automatic = true →
    Plans timeline .advance application
  operator : ∀ {timeline : Timeline} {id : String} {approval : Approval} {issue : Issue}
    {validated : ValidatedFix} {application : Application},
    KnownIssues timeline.service.monitor.issues →
    timeline.service.monitor.issues.get? id = some issue → issue.isOpen = true →
    Plan.ofIssue timeline.service.monitor.settings.minEvidence issue approval timeline.now =
      .ready validated → validated.fix = application.fix → application.automatic = false →
    Plans timeline (.requestFix id approval) application

/-- What holds after every run: the issues are a record, and the fixes under way were planned in it.
The catalog was asked to run nothing else than the fixes that it answered, and each of them was planned
before. -/
structure Traced (Plans : Timeline → Event → Application → Prop) (start : Timeline)
    (events : List Event) : Prop where
  known : KnownIssues (start.after events).service.monitor.issues
  pending : ∀ application ∈ (start.after events).applications,
    PlannedWithin Plans start events application
  asked : ∃ added,
    (start.after events).service.catalog.log = start.service.catalog.log ++ added ∧
    added.map (·.statements) =
      (start.executions events).map fun execution => [execution.application.fix.ddl]
  executed : ∀ execution ∈ start.executions events,
    PlannedWithin Plans start execution.events execution.application

section PlannedWithin

variable {Item : Type} {Plans : Timeline → Event → Item → Prop} {start : Timeline}
  {events : List Event} {event : Event} {item : Item}

/-- What was planned in a run was planned in every longer one. -/
theorem PlannedWithin.append (within : PlannedWithin Plans start events item) (others : List Event) :
    PlannedWithin Plans start (events ++ others) item := by
  obtain ⟨earlier, planning, later, rfl, planned⟩ := within
  exact ⟨earlier, planning, later ++ others, by simp, planned⟩

/-- What the last event planned was planned in the run. -/
theorem PlannedWithin.last (planned : Plans (start.after events) event item) :
    PlannedWithin Plans start (events ++ [event]) item :=
  ⟨events, event, [], rfl, planned⟩

end PlannedWithin

variable {Plans : Timeline → Event → Application → Prop} {start : Timeline} {events : List Event}
  {event : Event}

namespace Traced

/-- A run stays traced by an event that gives nothing to the catalog. -/
theorem unasked (traced : Traced Plans start events)
    (known : KnownIssues ((start.after events).occur event).service.monitor.issues)
    (pending : ∀ application ∈ ((start.after events).occur event).applications,
      application ∈ (start.after events).applications ∨
        Plans (start.after events) event application)
    (log : ((start.after events).occur event).service.catalog.log =
      (start.after events).service.catalog.log)
    (unanswered : (start.after events).answered? event = none) :
    Traced Plans start (events ++ [event]) := by
  have same : start.executions (events ++ [event]) = start.executions events := by
    rw [executions_concat, unanswered]
    exact List.append_nil _
  refine ⟨?_, ?_, ?_, ?_⟩
  · rw [after_concat]
    exact known
  · intro application present
    rw [after_concat] at present
    obtain old | new := pending application present
    · exact (traced.pending application old).append [event]
    · exact .last new
  · rw [after_concat, log, same]
    exact traced.asked
  · rw [same]
    exact traced.executed

/-- A run stays traced by a quiet event. -/
theorem quiet (traced : Traced Plans start events)
    (quiet : Quiet (start.after events) ((start.after events).occur event))
    (unanswered : (start.after events).answered? event = none) :
    Traced Plans start (events ++ [event]) :=
  traced.unasked (quiet.issues ▸ traced.known)
    (fun _ present => .inl (quiet.applications ▸ present)) (by rw [quiet.catalog]) unanswered

/-- A run stays traced by a step of the cycle. -/
theorem advance (traced : Traced Plans start events) (plans : PlansAll Plans) :
    Traced Plans start (events ++ [Event.advance]) := by
  obtain quiet | ⟨detected, _, published⟩ := advance_cases (start.after events)
  · exact traced.quiet quiet rfl
  · refine traced.unasked ?_ ?_ (congrArg Catalog.log published.catalog) rfl
    · have planned := Planning.ofIssues_known
        (start.after events).service.monitor.settings.minEvidence
        (start.after events).service.monitor.autoApply (start.after events).now
        (traced.known.reconcile detected (start.after events).now)
      exact published.issues ▸ planned
    · intro application present
      exact (published.applications application present).imp_right fun ⟨applied, automatic⟩ =>
        plans.cycle traced.known published applied automatic

/-- A run stays traced by an answer of the catalog. -/
theorem answer (traced : Traced Plans start events) (place : Nat) :
    Traced Plans start (events ++ [Event.answer place]) := by
  obtain ⟨unanswered, quiet⟩ | ⟨application, found, answered⟩ :=
    answer_cases place (start.after events)
  · exact traced.quiet quiet unanswered
  · have executions : start.executions (events ++ [Event.answer place]) =
        start.executions events ++ [⟨events, application⟩] := by
      rw [executions_concat, found]
      rfl
    obtain ⟨added, before, texts⟩ := traced.asked
    obtain ⟨success, log⟩ : ∃ success,
        ((start.after events).occur (.answer place)).service.catalog.log =
          (start.after events).service.catalog.log ++ [⟨[application.fix.ddl], success⟩] :=
      ⟨_, (congrArg Catalog.log answered.catalog).trans (Catalog.execute_log _ _ _)⟩
    refine ⟨?_, ?_, ⟨added ++ [⟨[application.fix.ddl], success⟩], ?_, ?_⟩, ?_⟩
    · rw [after_concat]
      exact answered.known traced.known
    · intro other present
      rw [after_concat] at present
      exact (traced.pending other (answered.applications other present)).append _
    · rw [after_concat, log, before, List.append_assoc]
    · rw [executions, List.map_append, List.map_append, texts]
      rfl
    · intro execution present
      rw [executions] at present
      obtain old | new := List.mem_append.mp present
      · exact traced.executed execution old
      · -- The fix was under way until now, so some event before planned it.
        rw [List.mem_singleton.mp new]
        exact traced.pending application answered.present

/-- A run stays traced by a request for a fix. -/
theorem requestFix (traced : Traced Plans start events) (plans : PlansAll Plans) (id : String)
    (approval : Approval) : Traced Plans start (events ++ [Event.requestFix id approval]) := by
  have granted := granted_requestFix id approval (start.after events)
  refine traced.unasked (granted.known traced.known) ?_ (congrArg Catalog.log granted.catalog) rfl
  intro application present
  refine (granted.applications application present).imp_right ?_
  rintro ⟨requested, issue, validated, found, isOpen, ready, same⟩
  exact plans.operator traced.known found isOpen ready same requested

/-- A run stays traced by every event. -/
theorem occur (traced : Traced Plans start events) (plans : PlansAll Plans) (event : Event) :
    Traced Plans start (events ++ [event]) := by
  cases event with
  | tick time => exact traced.quiet ⟨rfl, rfl, rfl, rfl⟩ rfl
  | answer place => exact traced.answer place
  | advance => exact traced.advance plans
  | hear => exact traced.quiet (quiet_hear _) rfl
  | requestCycle => exact traced.quiet (quiet_occur_requestCycle _) rfl
  | requestFix id approval => exact traced.requestFix plans id approval
  | setAutoApply enabled => exact traced.quiet ⟨rfl, rfl, rfl, rfl⟩ rfl
  | resume => exact traced.quiet ⟨rfl, rfl, rfl, rfl⟩ rfl
  | stop => exact traced.quiet ⟨rfl, rfl, rfl, rfl⟩ rfl
  | startSchedule => exact traced.quiet ⟨rfl, rfl, rfl, rfl⟩ rfl
  | restart =>
      cases restarted : (start.after events).restart with
      | error error =>
          refine traced.quiet ?_ rfl
          simp only [Timeline.occur, restarted]
          exact .refl _
      | ok started =>
          have same : (start.after events).occur .restart = started := by
            simp [Timeline.occur, restarted, Except.toOption]
          obtain ⟨known, _, catalog, applications⟩ := restart_ok restarted
          refine traced.unasked (same ▸ known) ?_ (by rw [same, catalog]) rfl
          intro application present
          rw [same, applications] at present
          cases present
  | edit sources store catalog =>
      exact traced.unasked traced.known (fun _ present => .inl present) rfl rfl

end Traced

/-- A service at rest is traced before anything happens. -/
theorem traced_ofService (Plans : Timeline → Event → Application → Prop) (settings : Settings)
    (persisted : List Issue) (store : Store) (catalog : Catalog) (sources : Sources)
    (ids : Nat → String) :
    Traced Plans (ofService ⟨.ofIssues settings persisted, store, catalog⟩ sources ids) [] where
  known := KnownIssues.ofList persisted
  pending := List.forall_mem_nil _
  asked := ⟨[], (List.append_nil _).symm, rfl⟩
  executed := List.forall_mem_nil _

/-- Every run of events is traced when it starts so. -/
theorem traced_after (plans : PlansAll Plans) (traced : Traced Plans start []) (events : List Event) :
    Traced Plans start events := by
  induction events using List.reverseRecOn with
  | nil => exact traced
  | append_singleton events event inductionHypothesis => exact inductionHypothesis.occur plans event

/-- A monitor that starts with any issues keeps a record of them in every run of events. -/
theorem known_after_ofService (settings : Settings) (persisted : List Issue) (store : Store)
    (catalog : Catalog) (sources : Sources) (ids : Nat → String) (events : List Event) :
    KnownIssues ((ofService ⟨.ofIssues settings persisted, store, catalog⟩ sources ids).after
      events).service.monitor.issues := by
  have anyhow : PlansAll fun _ _ _ => True := ⟨fun _ _ _ _ => trivial, fun _ _ _ _ _ _ => trivial⟩
  exact (traced_after anyhow (traced_ofService _ settings persisted store catalog sources ids)
    events).known

end SchemaDrift.Timeline
