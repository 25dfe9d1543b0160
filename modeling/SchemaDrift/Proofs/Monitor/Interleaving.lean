import SchemaDrift.Proofs.Issue.Reconciliation
import SchemaDrift.Proofs.Monitor.Provenance

namespace SchemaDrift

/-- What a cycle saw before it publishes: the scan of the sources and the snapshot of the database. -/
structure Sight where
  output : ScanOutput
  snapshot : Snapshot

/-- What a cycle makes of what it saw. -/
def Sight.analysis (sight : Sight) (monitor : Monitor) (now : Moment) : Analysis :=
  let inferred := InferredSchema.ofStatements sight.output.statements
  ⟨sight.output, inferred, sight.snapshot, detectIssues monitor.rules inferred sight.snapshot now⟩

/-- A service that several operators and cycles work on: the fixes that are planned, the attempts that
are recorded but not yet marked, and what cycles saw but did not yet publish. -/
structure Workshop where
  service : Service
  planned : List Fix
  attempts : List FixExecution
  sights : List Sight

/-- A step of an operator or of a cycle: a fix is planned, the statement of a planned fix is run and
the attempt recorded, an attempt is marked on its issue, or a cycle sees the database or publishes
what it saw. Automatic fixes may be turned on, and others may change the database. -/
inductive Step where
  | plan (id : String) (approval : Approval) (now : Moment)
  | execute (place : Nat) (executionId : String) (now : Moment)
  | mark (place : Nat)
  | capture (output : ScanOutput)
  | publish (place : Nat) (cycleId : String) (now : Moment)
  | setAutoApply (enabled : Bool)
  | drift (catalog : Catalog)

namespace Workshop

/-- A service that nobody works on yet. -/
def ofService (service : Service) : Workshop := ⟨service, [], [], []⟩

/-- The attempt that a step records. -/
def executed? (workshop : Workshop) : Step → Option FixExecution
  | .execute place executionId now =>
    workshop.planned[place]?.bind fun fix =>
      match workshop.service.runFix executionId fix now with
      | (_, execution, none) => some execution
      | (_, _, some _) => none
  | _ => none

def seen? (workshop : Workshop) : Step → Option Sight
  | .capture output =>
    (workshop.service.monitor.introspection.capture workshop.service.catalog).toOption.map
      fun snapshot => ⟨output, snapshot⟩
  | _ => none

/-- What a cycle publishes in a step, with what it saw. -/
def published? (workshop : Workshop) : Step → Option (Sight × Analysis)
  | .publish place cycleId now =>
    workshop.sights[place]?.bind fun sight =>
      let analysis := sight.analysis workshop.service.monitor now
      match (workshop.service.publish cycleId analysis now).2 with
      | .ok _ => some (sight, analysis)
      | .error _ => none
  | _ => none

def occur (workshop : Workshop) : Step → Workshop
  | .plan id approval now =>
    let (service, result) := workshop.service.planFix id approval now
    { workshop with service, planned := workshop.planned ++ result.toOption.toList }
  | .execute place executionId now =>
    match workshop.planned[place]? with
    | none => workshop
    | some fix =>
      { workshop with
        service := (workshop.service.runFix executionId fix now).1
        planned := workshop.planned.eraseIdx place
        attempts :=
          workshop.attempts ++ (workshop.executed? (.execute place executionId now)).toList }
  | .mark place =>
    match workshop.attempts[place]? with
    | none => workshop
    | some execution =>
      { workshop with
        service := (workshop.service.updateIssue execution.issueId (Service.markOf execution)).1
        attempts := workshop.attempts.eraseIdx place }
  | .capture output =>
    { workshop with sights := workshop.sights ++ (workshop.seen? (.capture output)).toList }
  | .publish place cycleId now =>
    match workshop.sights[place]? with
    | none => workshop
    | some sight =>
      let (service, result) :=
        workshop.service.publish cycleId (sight.analysis workshop.service.monitor now) now
      { workshop with
        service
        planned := workshop.planned ++ result.toOption.getD []
        sights := workshop.sights.eraseIdx place }
  | .setAutoApply enabled =>
    { workshop with service := workshop.service.onMonitor (.setAutoApply enabled) }
  | .drift catalog => { workshop with service := { workshop.service with catalog } }

def after (workshop : Workshop) (steps : List Step) : Workshop := steps.foldl occur workshop

/-- One more step comes after the others. -/
theorem after_concat (workshop : Workshop) (steps : List Step) (step : Step) :
    workshop.after (steps ++ [step]) = (workshop.after steps).occur step :=
  List.foldl_append

/-- A step heals an issue: it records an attempt for it that succeeded. -/
def heals (workshop : Workshop) (step : Step) (id : String) : Bool :=
  (workshop.executed? step).any fun execution => execution.issueId == id && execution.success

/-- A step detects an issue from what a cycle saw. -/
def Detects (workshop : Workshop) (step : Step) (id : String) (sight : Sight) : Prop :=
  ∃ analysis, workshop.published? step = some (sight, analysis) ∧
    ∃ issue ∈ analysis.detected, issue.id = id

/-- A step plans the fix of an issue for an operator. -/
def Grants (workshop : Workshop) (step : Step) (id : String) : Prop :=
  ∃ approval now fix, step = .plan id approval now ∧
    (workshop.service.planFix id approval now).2 = .ok fix

/-- A cycle saw something in some steps. -/
def Saw (start : Workshop) (steps : List Step) (sight : Sight) : Prop :=
  ∃ earlier step later, steps = earlier ++ step :: later ∧
    (start.after earlier).seen? step = some sight

/-- In some steps an issue was detected from what a cycle saw in them. -/
def Renewed (start : Workshop) (steps : List Step) (id : String) : Prop :=
  ∃ earlier step later sight, steps = earlier ++ step :: later ∧ start.Saw earlier sight ∧
    (start.after earlier).Detects step id sight

/-- Why an issue that a step healed may be healed again after more steps. It was detected again from
what a cycle saw since, or from what a cycle had seen before; another fix of it was under way
already; or an operator was granted one before the success was marked. -/
inductive Reason (before : Workshop) (healing : Step) (steps : List Step) (id : String) : Prop where
  | renewed (renewed : (before.occur healing).Renewed steps id)
  | outdated (earlier later : List Step) (step : Step) (sight : Sight)
      (split : steps = earlier ++ step :: later) (old : sight ∈ before.sights)
      (detects : ((before.occur healing).after earlier).Detects step id sight)
  | rival (rival : (∃ fix ∈ (before.occur healing).planned, fix.issueId = id) ∨
      ∃ execution ∈ before.attempts, execution.issueId = id)
  | hasty (earlier later : List Step) (step : Step) (split : steps = earlier ++ step :: later)
      (granted : ((before.occur healing).after earlier).Grants step id)
      (unmarked : ∃ execution ∈ ((before.occur healing).after earlier).attempts,
        execution.issueId = id)

variable {workshop before start : Workshop} {healing step : Step} {steps : List Step} {id : String}
  {sight : Sight}

/-- What a cycle saw in some steps it saw in more of them. -/
theorem Saw.concat (saw : start.Saw steps sight) (step : Step) : start.Saw (steps ++ [step]) sight := by
  obtain ⟨earlier, seeing, later, rfl, seen⟩ := saw
  exact ⟨earlier, seeing, later ++ [step], by simp, seen⟩

/-- What a cycle sees in the last step it saw in all of them. -/
theorem Saw.last (seen : (start.after steps).seen? step = some sight) :
    start.Saw (steps ++ [step]) sight :=
  ⟨steps, step, [], rfl, seen⟩

/-- A reason after some steps is one after more of them. -/
theorem Reason.concat (reason : Reason before healing steps id) (step : Step) :
    Reason before healing (steps ++ [step]) id := by
  cases reason with
  | renewed renewed =>
      obtain ⟨earlier, publishing, later, sight, rfl, saw, detects⟩ := renewed
      exact .renewed ⟨earlier, publishing, later ++ [step], sight, by simp, saw, detects⟩
  | outdated earlier later publishing sight split old detects =>
      exact .outdated earlier (later ++ [step]) publishing sight (by simp [split]) old detects
  | rival rival => exact .rival rival
  | hasty earlier later planning split granted unmarked =>
      exact .hasty earlier (later ++ [step]) planning (by simp [split]) granted unmarked

/-- An attempt is one to apply a planned fix. -/
theorem exists_planned {execution : FixExecution} (executed : workshop.executed? step = some execution) :
    ∃ place executionId now fix, step = .execute place executionId now ∧
      workshop.planned[place]? = some fix ∧ execution.issueId = fix.issueId := by
  cases step with
  | execute place executionId now =>
      obtain ⟨fix, found, ran⟩ := Option.bind_eq_some_iff.mp executed
      refine ⟨place, executionId, now, fix, rfl, found, ?_⟩
      have owner : (workshop.service.runFix executionId fix now).2.1.issueId = fix.issueId := rfl
      split at ran
      · rename_i made
        rw [made, Option.some.inj ran] at owner
        exact owner
      · cases ran
  | plan id approval now => cases executed
  | mark place => cases executed
  | capture output => cases executed
  | publish place cycleId now => cases executed
  | setAutoApply enabled => cases executed
  | drift catalog => cases executed

/-- A step heals an issue when it records an attempt for it that succeeded. -/
theorem heals_iff : workshop.heals step id = true ↔ ∃ execution,
    workshop.executed? step = some execution ∧ execution.issueId = id ∧ execution.success = true := by
  simp only [heals, Option.any_eq_true, Bool.and_eq_true, beq_iff_eq]

/-- Every step leaves a record of issues a record. -/
theorem known_occur (known : KnownIssues workshop.service.monitor.issues) (step : Step) :
    KnownIssues (workshop.occur step).service.monitor.issues := by
  cases step with
  | plan id approval now => exact Service.planFix_known known id approval now
  | execute place executionId now =>
      simp only [occur]
      split
      · exact known
      · exact known
  | mark place =>
      simp only [occur]
      split
      · exact known
      · rw [Service.updateIssue_issues]
        exact known.modify _ (Service.markOf_id _)
  | capture output => exact known
  | publish place cycleId now =>
      simp only [occur]
      split
      · exact known
      · rename_i sight _
        obtain ⟨error, _, same, _⟩ | ⟨_, issues, _⟩ := Service.publish_cases workshop.service cycleId
          (sight.analysis workshop.service.monitor now) now
        · rw [same]
          exact known
        · rw [issues]
          exact Planning.ofIssues_known _ _ _ (known.reconcile _ _)
  | setAutoApply enabled => exact known
  | drift catalog => exact known

/-- Nobody knows better of an issue that was healed: no fix of it is planned, all its attempts under
way succeeded, it is closed unless one of them is still to be marked, and whatever a cycle saw is old
or was seen since. -/
structure Calm (before : Workshop) (healing : Step) (steps : List Step) (id : String)
    (workshop : Workshop) : Prop where
  known : KnownIssues workshop.service.monitor.issues
  unplanned : ∀ fix ∈ workshop.planned, fix.issueId ≠ id
  succeeded : ∀ execution ∈ workshop.attempts, execution.issueId = id → execution.success = true
  closed : (∃ execution ∈ workshop.attempts, execution.issueId = id) ∨
    ∀ issue, workshop.service.monitor.issues.get? id = some issue → issue.isOpen = false
  seen : ∀ sight ∈ workshop.sights, sight ∈ before.sights ∨ (before.occur healing).Saw steps sight

/-- A request that is granted plans the fix of the issue that was asked for. -/
theorem planFix_owner {service : Service} (known : KnownIssues service.monitor.issues) {id : String}
    {approval : Approval} {now : Moment} {fix : Fix}
    (granted : (service.planFix id approval now).2 = .ok fix) :
    fix.issueId = id ∧ ∃ issue, service.monitor.issues.get? id = some issue ∧
      issue.isOpen = true := by
  have planned : service.planFix id approval now =
      ((service.planFix id approval now).1, .ok fix) := Prod.ext rfl granted
  obtain ⟨issue, validated, found, isOpen, ready, rfl⟩ := Service.planFix_ok planned
  obtain ⟨_, statement, _, _, rfl, _⟩ := (Plan.ofIssue_ready_iff _ _ _ _ _).mp ready
  exact ⟨known.named found, issue, found, isOpen⟩

/-- A request for another issue leaves an issue as it is. -/
theorem planFix_get?_of_ne (service : Service) {id other : String} (different : other ≠ id)
    (approval : Approval) (now : Moment) :
    (service.planFix other approval now).1.monitor.issues.get? id =
      service.monitor.issues.get? id := by
  obtain same | ⟨change, _, same⟩ := Service.planFix_cases service other approval now
  · rw [same]
  · rw [same, Service.updateIssue_issues, Keyed.get?_modify, if_neg different]

/-- A request for a closed issue changes nothing. -/
theorem planFix_closed (service : Service) {id : String}
    (closed : ∀ issue, service.monitor.issues.get? id = some issue → issue.isOpen = false)
    (approval : Approval) (now : Moment) : (service.planFix id approval now).1 = service := by
  unfold Service.planFix
  cases asked : service.monitor.openIssue id with
  | error error => rfl
  | ok issue =>
      obtain ⟨found, isOpen⟩ := (Monitor.openIssue_ok_iff _ _ _).mp asked
      rw [closed issue found] at isOpen
      cases isOpen

/-- The fixes planned after a request are those from before, and the one that was granted. -/
theorem mem_planned_plan (workshop : Workshop) (id : String) (approval : Approval) (now : Moment)
    (fix : Fix) : fix ∈ (workshop.occur (.plan id approval now)).planned ↔
      fix ∈ workshop.planned ∨ (workshop.service.planFix id approval now).2 = .ok fix := by
  simp only [occur, List.mem_append]
  cases (workshop.service.planFix id approval now).2 <;> simp [Except.toOption, eq_comm]

/-- An issue that a cycle did not detect is closed when it is published. -/
theorem closed_of_undetected {previous : Keyed Issue} {detected : List Issue} (minEvidence : Nat)
    (autoApply : Bool) (now : Moment) (known : KnownIssues previous)
    (undetected : ¬ ∃ issue ∈ detected, issue.id = id) :
    ∀ issue, (Planning.ofIssues minEvidence autoApply now
      (reconcile previous detected now)).issues.get? id = some issue → issue.isOpen = false := by
  intro issue published
  rw [Planning.ofIssues_get? _ _ _ (known.reconcile detected now)] at published
  obtain ⟨base, present, rfl⟩ := Option.map_eq_some_iff.mp published
  have closed : base.isOpen = false := by
    rw [← Bool.not_eq_true]
    exact fun isOpen => undetected (detected_of_isOpen known present isOpen)
  have skipped : Planning.proposal? minEvidence now base = none := by
    rw [Planning.proposal?, closed]
    rfl
  rw [Planning.reviewed, skipped]
  exact closed

namespace Calm

variable (calm : Calm before healing steps id workshop)

include calm

/-- What is seen in some steps is so in more of them. -/
theorem seen_concat (step : Step) : ∀ sight ∈ workshop.sights,
    sight ∈ before.sights ∨ (before.occur healing).Saw (steps ++ [step]) sight :=
  fun sight present => (calm.seen sight present).imp_right fun saw => saw.concat step

/-- A request for a fix keeps the calm, unless it is granted before the success was marked. -/
theorem plan (other : String) (approval : Approval) (now : Moment) :
    (workshop.Grants (.plan other approval now) id ∧
      ∃ execution ∈ workshop.attempts, execution.issueId = id) ∨
    Calm before healing (steps ++ [Step.plan other approval now]) id
      (workshop.occur (.plan other approval now)) := by
  have seen := calm.seen_concat (.plan other approval now)
  have known := known_occur calm.known (.plan other approval now)
  by_cases same : other = id
  · subst same
    cases result : (workshop.service.planFix other approval now).2 with
    | ok fix =>
        left
        obtain ⟨_, issue, found, isOpen⟩ := planFix_owner calm.known result
        refine ⟨⟨approval, now, fix, rfl, result⟩, ?_⟩
        obtain unmarked | closed := calm.closed
        · exact unmarked
        · rw [closed issue found] at isOpen
          cases isOpen
    | error error =>
        right
        refine ⟨known, ?_, calm.succeeded, ?_, seen⟩
        · intro fix present
          rw [mem_planned_plan, result] at present
          exact calm.unplanned fix (present.resolve_right fun impossible => by cases impossible)
        · refine calm.closed.imp_right fun closed => ?_
          simp only [occur, planFix_closed workshop.service closed]
          exact closed
  · right
    refine ⟨known, ?_, calm.succeeded, ?_, seen⟩
    · intro fix present
      obtain old | new := (mem_planned_plan workshop other approval now fix).mp present
      · exact calm.unplanned fix old
      · rw [(planFix_owner calm.known new).1]
        exact same
    · refine calm.closed.imp_right fun closed => ?_
      intro issue found
      refine closed issue ?_
      rw [← planFix_get?_of_ne workshop.service same approval now]
      exact found

/-- A fix that is run keeps the calm: it is one of another issue. -/
theorem execute (place : Nat) (executionId : String) (now : Moment) :
    Calm before healing (steps ++ [Step.execute place executionId now]) id
      (workshop.occur (.execute place executionId now)) := by
  have seen := calm.seen_concat (.execute place executionId now)
  have known := known_occur calm.known (.execute place executionId now)
  have other : ∀ execution, workshop.executed? (.execute place executionId now) = some execution →
      execution.issueId ≠ id := by
    intro execution executed
    obtain ⟨_, _, _, fix, _, found, owner⟩ := exists_planned executed
    rw [owner]
    exact calm.unplanned fix (List.mem_of_getElem? found)
  simp only [occur] at known ⊢
  split
  · exact ⟨calm.known, calm.unplanned, calm.succeeded, calm.closed, seen⟩
  · rename_i fix found
    refine ⟨calm.known, ?_, ?_, ?_, seen⟩
    · intro other present
      exact calm.unplanned other (List.mem_of_mem_eraseIdx present)
    · intro execution present same
      obtain old | new := List.mem_append.mp present
      · exact calm.succeeded execution old same
      · exact absurd same (other execution (Option.mem_toList.mp new))
    · obtain ⟨execution, present, same⟩ | closed := calm.closed
      · exact .inl ⟨execution, List.mem_append_left _ present, same⟩
      · exact .inr closed

/-- A mark keeps the calm: it closes the issue, or is on another one. -/
theorem mark (place : Nat) : Calm before healing (steps ++ [Step.mark place]) id
    (workshop.occur (.mark place)) := by
  have seen := calm.seen_concat (.mark place)
  have known := known_occur calm.known (.mark place)
  simp only [occur] at known ⊢
  split
  · exact ⟨calm.known, calm.unplanned, calm.succeeded, calm.closed, seen⟩
  · rename_i execution found
    simp only [found] at known
    have present := List.mem_of_getElem? found
    have marked : ∀ other,
        (workshop.service.updateIssue execution.issueId
          (Service.markOf execution)).1.monitor.issues.get? other =
        if execution.issueId = other then
          (workshop.service.monitor.issues.get? other).map (Service.markOf execution)
        else workshop.service.monitor.issues.get? other := by
      intro other
      rw [Service.updateIssue_issues, Keyed.get?_modify]
    refine ⟨known, calm.unplanned, ?_, ?_, seen⟩
    · intro other left same
      exact calm.succeeded other (List.mem_of_mem_eraseIdx left) same
    · by_cases same : execution.issueId = id
      · right
        intro issue published
        rw [marked, if_pos same] at published
        obtain ⟨known, _, rfl⟩ := Option.map_eq_some_iff.mp published
        rw [Service.markOf, if_pos (calm.succeeded execution present same)]
        simp [Issue.isOpen, Issue.markApplied]
      · obtain ⟨other, left, owner⟩ | closed := calm.closed
        · refine .inl ⟨other, ?_, owner⟩
          obtain ⟨index, located⟩ := List.mem_iff_getElem?.mp left
          refine List.mem_eraseIdx_iff_getElem?.mpr ⟨index, ?_, located⟩
          intro equal
          rw [equal, found] at located
          cases located
          exact same owner
        · right
          intro issue published
          rw [marked, if_neg same] at published
          exact closed issue published

/-- A cycle that sees the database keeps the calm. -/
theorem capture (split : workshop = (before.occur healing).after steps) (output : ScanOutput) :
    Calm before healing (steps ++ [Step.capture output]) id (workshop.occur (.capture output)) := by
  refine ⟨calm.known, calm.unplanned, calm.succeeded, calm.closed, ?_⟩
  intro sight present
  obtain old | new := List.mem_append.mp present
  · exact calm.seen_concat (.capture output) sight old
  · right
    refine .last ?_
    rw [← split]
    exact Option.mem_toList.mp new

/-- A cycle that publishes keeps the calm, unless it detects the issue again. -/
theorem publish (place : Nat) (cycleId : String) (now : Moment) :
    (∃ sight ∈ workshop.sights, workshop.Detects (.publish place cycleId now) id sight) ∨
    Calm before healing (steps ++ [Step.publish place cycleId now]) id
      (workshop.occur (.publish place cycleId now)) := by
  have seen := calm.seen_concat (.publish place cycleId now)
  have known := known_occur calm.known (.publish place cycleId now)
  simp only [occur] at known ⊢
  split
  · exact .inr ⟨calm.known, calm.unplanned, calm.succeeded, calm.closed, seen⟩
  · rename_i sight found
    simp only [found] at known
    have left : ∀ other ∈ workshop.sights.eraseIdx place, other ∈ before.sights ∨
        (before.occur healing).Saw (steps ++ [Step.publish place cycleId now]) other :=
      fun other present => seen other (List.mem_of_mem_eraseIdx present)
    obtain ⟨error, refused, monitor, _⟩ | ⟨granted, issues, _⟩ := Service.publish_cases
      workshop.service cycleId (sight.analysis workshop.service.monitor now) now
    · right
      refine ⟨known, ?_, calm.succeeded, ?_, left⟩
      · rw [refused]
        simpa [Except.toOption] using calm.unplanned
      · rw [monitor]
        exact calm.closed
    · by_cases detects :
          ∃ issue ∈ (sight.analysis workshop.service.monitor now).detected, issue.id = id
      · left
        refine ⟨sight, List.mem_of_getElem? found, _, ?_, detects⟩
        simp only [published?, found, Option.bind_some, granted]
      · right
        have closed := closed_of_undetected workshop.service.monitor.settings.minEvidence
          workshop.service.monitor.autoApply now calm.known detects
        rw [← issues] at closed
        refine ⟨known, ?_, calm.succeeded, .inr closed, left⟩
        intro fix present
        rw [granted] at present
        obtain old | new := List.mem_append.mp present
        · exact calm.unplanned fix old
        · intro same
          obtain ⟨_, issue, validated, found, isOpen, _, ready, _, rfl⟩ :=
            Planning.automatic_origin (calm.known.reconcile _ _) new
          obtain ⟨_, statement, _, _, rfl, _⟩ := (Plan.ofIssue_ready_iff _ _ _ _ _).mp ready
          rw [← issues, show issue.id = id from same] at found
          rw [closed issue found] at isOpen
          cases isOpen

/-- Every step keeps the calm, or there is a reason for which the issue may be healed again. -/
theorem occur (split : workshop = (before.occur healing).after steps) (step : Step) :
    Reason before healing (steps ++ [step]) id ∨
      Calm before healing (steps ++ [step]) id (workshop.occur step) := by
  cases step with
  | plan other approval now =>
      obtain ⟨granted, unmarked⟩ | kept := calm.plan other approval now
      · left
        rw [split] at granted unmarked
        exact .hasty steps [] _ rfl granted unmarked
      · exact .inr kept
  | execute place executionId now => exact .inr (calm.execute place executionId now)
  | mark place => exact .inr (calm.mark place)
  | capture output => exact .inr (calm.capture split output)
  | publish place cycleId now =>
      obtain ⟨sight, present, detects⟩ | kept := calm.publish place cycleId now
      · left
        rw [split] at detects
        obtain old | saw := calm.seen sight present
        · exact .outdated steps [] _ sight rfl old detects
        · exact .renewed ⟨steps, _, [], sight, rfl, saw, detects⟩
      · exact .inr kept
  | setAutoApply enabled =>
      exact .inr ⟨calm.known, calm.unplanned, calm.succeeded, calm.closed, calm.seen_concat _⟩
  | drift catalog =>
      exact .inr ⟨calm.known, calm.unplanned, calm.succeeded, calm.closed, calm.seen_concat _⟩

end Calm

/-- Once an issue was healed, nobody knows better of it, or another fix of it was under way. -/
theorem calm_of_heals (known : KnownIssues before.service.monitor.issues)
    (healed : before.heals healing id = true) :
    Reason before healing [] id ∨ Calm before healing [] id (before.occur healing) := by
  obtain ⟨success, executed, owner, succeeded⟩ := heals_iff.mp healed
  obtain ⟨place, executionId, now, fix, rfl, found, _⟩ := exists_planned executed
  by_cases rival : (∃ fix ∈ (before.occur (.execute place executionId now)).planned,
      fix.issueId = id) ∨ ∃ execution ∈ before.attempts, execution.issueId = id
  · exact .inl (.rival rival)
  · rw [not_or] at rival
    obtain ⟨unplanned, untried⟩ := rival
    right
    have attempts : (before.occur (.execute place executionId now)).attempts =
        before.attempts ++ [success] := by
      simp only [occur, found, executed, Option.toList_some]
    have sights : (before.occur (.execute place executionId now)).sights = before.sights := by
      simp only [occur, found]
    refine ⟨known_occur known _, ?_, ?_, .inl ⟨success, ?_, owner⟩, ?_⟩
    · exact fun fix present same => unplanned ⟨fix, present, same⟩
    · intro execution present same
      rw [attempts] at present
      obtain old | new := List.mem_append.mp present
      · exact absurd ⟨execution, old, same⟩ untried
      · rw [List.mem_singleton.mp new]
        exact succeeded
    · rw [attempts]
      exact List.mem_append_right _ (List.mem_singleton.mpr rfl)
    · intro sight present
      rw [sights] at present
      exact .inl present

/-- Until an issue is healed again, nobody knows better of it, or there is a reason. -/
theorem calm_after (known : KnownIssues before.service.monitor.issues)
    (healed : before.heals healing id = true) (steps : List Step) :
    Reason before healing steps id ∨
      Calm before healing steps id ((before.occur healing).after steps) := by
  induction steps using List.reverseRecOn with
  | nil => exact calm_of_heals known healed
  | append_singleton steps step inductionHypothesis =>
      obtain reason | calm := inductionHypothesis
      · exact .inl (reason.concat step)
      · rw [after_concat]
        exact calm.occur rfl step

/-- Every run leaves a record of issues a record. -/
theorem known_after (known : KnownIssues workshop.service.monitor.issues) (steps : List Step) :
    KnownIssues (workshop.after steps).service.monitor.issues := by
  induction steps using List.reverseRecOn with
  | nil => exact known
  | append_singleton steps step inductionHypothesis =>
      rw [after_concat]
      exact known_occur inductionHypothesis step

/-- Whatever issues a service starts with, and in whatever order operators and cycles take their
steps: an issue that was healed is healed again only for a reason. -/
theorem healed_again (settings : Settings) (persisted : List Issue) (store : Store)
    (catalog : Catalog) (earlier steps : List Step) (healing again : Step) (id : String)
    (healed : ((ofService ⟨.ofIssues settings persisted, store, catalog⟩).after earlier).heals
      healing id = true)
    (healedAgain : ((ofService ⟨.ofIssues settings persisted, store, catalog⟩).after
      (earlier ++ healing :: steps)).heals again id = true) :
    Reason ((ofService ⟨.ofIssues settings persisted, store, catalog⟩).after earlier) healing steps
      id := by
  have started : KnownIssues
      (ofService ⟨.ofIssues settings persisted, store, catalog⟩).service.monitor.issues :=
    KnownIssues.ofList persisted
  obtain reason | calm := calm_after (known_after started earlier) healed steps
  · exact reason
  · rw [after, List.foldl_append, List.foldl_cons] at healedAgain
    obtain ⟨execution, executed, owner, _⟩ := heals_iff.mp healedAgain
    obtain ⟨_, _, _, fix, _, found, same⟩ := exists_planned executed
    exact absurd (same.symm.trans owner) (calm.unplanned fix (List.mem_of_getElem? found))

namespace Deployments

def read : SourceStatement where
  text := "SELECT * FROM deployment_test"
  location := ⟨"health.py", 1, none⟩
  usage := ⟨.select, some "deployment_test", ["deployment_test"], []⟩

/-- The sources read a table that is not there. -/
def output : ScanOutput := ⟨[read], 1, 0, []⟩

/-- The issue that the table is missing. -/
def missing : String := "iss_c5bc88956d77ea16"

/-- A service that knows no issues, with a database without tables. -/
def idle : Workshop := ofService ⟨.ofIssues .initial [], .empty, .empty "public" ⟨0⟩⟩

/-- A cycle finds that the table is missing. Then automatic fixes are turned on; another cycle sees the
database, and before it publishes an operator asks for the fix. -/
def asked : List Step :=
  [.capture output, .publish 0 "first" default, .setAutoApply true, .capture output,
    .plan missing .automatic default]

/-- The fix that is run next. -/
def run : Step := .execute 0 "execution" default

/-- The success is marked; then the cycle publishes what it saw. -/
def late : List Step := [.mark 0, .publish 0 "second" default]

/-- The fix of the operator creates the table, and that of the cycle is for the same table. -/
theorem heals_twice : (idle.after asked).heals run missing = true ∧
    (((idle.after asked).occur run).after late).heals run missing = true := by
  decide +kernel

/-- The fix of the operator creates the table. -/
theorem heals_asked : (idle.after asked).heals run missing = true := heals_twice.1

/-- The fix of the cycle is for the same table. -/
theorem heals_late : (idle.after (asked ++ run :: late)).heals run missing = true := by
  rw [after, List.foldl_append, List.foldl_cons]
  exact heals_twice.2

/-- The table is created twice for a reason. -/
theorem healed_again_late :
    (idle.after asked).heals run missing = true ∧
    (idle.after (asked ++ run :: late)).heals run missing = true ∧
    Reason (idle.after asked) run late missing :=
  ⟨heals_asked, heals_late, healed_again .initial [] .empty (.empty "public" ⟨0⟩) asked late run run
    missing heals_asked heals_late⟩

/-- Not every issue that is healed twice was detected again from what a cycle saw in between. -/
theorem healed_unrenewed :
    ¬ ∀ (earlier steps : List Step) (healing again : Step) (id : String),
      (idle.after earlier).heals healing id = true →
      (idle.after (earlier ++ healing :: steps)).heals again id = true →
      ((idle.after earlier).occur healing).Renewed steps id := by
  intro fresh
  obtain ⟨earlier, publishing, later, sight, split, ⟨first, seeing, others, same, seen⟩, _⟩ :=
    fresh asked late run run missing heals_asked heals_late
  have captures : ∃ output, seeing = .capture output := by
    cases seeing with
    | capture output => exact ⟨output, rfl⟩
    | _ => cases seen
  obtain ⟨output, rfl⟩ := captures
  have present : Step.capture output ∈ late := by
    rw [split, same]
    simp
  simp [late] at present

end Deployments

end Workshop

end SchemaDrift
