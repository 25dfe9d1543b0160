import SchemaDrift.Proofs.Monitor.Moves
import SchemaDrift.Proofs.Monitor.Provenance

namespace SchemaDrift

/-- A fix that passes all checks is given back as it is. -/
theorem Validation.validate_ok {minEvidence : Nat} {issue : Issue} {fix : Fix} {approval : Approval}
    {validated : ValidatedFix} (passed : validate minEvidence issue fix approval = .ok validated) :
    validated.fix = fix := by
  unfold validate at passed
  simp only at passed
  split at passed
  · cases passed
  · obtain ⟨_, _, named⟩ := (Result.bind_ok_iff _ _ _).mp passed
    obtain ⟨_, _, clean⟩ := (Result.bind_ok_iff _ _ _).mp named
    split at clean
    · cases clean
    · split at clean <;> cases clean
      rfl

/-- The text of the statement that corrects an issue, which has to pass the screen. -/
def Issue.text? (minEvidence : Nat) (issue : Issue) : Option String :=
  match Validation.screen minEvidence issue, DdlStatement.ofIssue issue with
  | .ok (), .ok statement => some statement.toDdl
  | _, _ => none

/-- A mark changes nothing that the text for an issue depends on. -/
theorem Issue.text?_mark (minEvidence : Nat) (mark : Mark) (issue : Issue) :
    (issue.mark mark).text? minEvidence = issue.text? minEvidence := by
  cases mark <;> rfl

namespace Plan

variable {minEvidence : Nat} {issue : Issue} {approval : Approval} {now : Moment} {fix : Fix}

/-- The fix of a plan, whether or not it may be applied. -/
def fix? : Plan → Option Fix
  | .ready validated => some validated.fix
  | .needsApproval fix => some fix
  | .rejected _ => none

theorem preview_of_fix? (planned : (ofIssue minEvidence issue approval now).fix? = some fix) :
    preview minEvidence issue now = .ok fix := by
  unfold ofIssue at planned
  unfold preview
  split at planned
  · cases planned
  · split at planned
    · cases planned
    · rename_i proposed made
      have same : proposed = fix := by
        split at planned
        · rename_i validated passed
          exact (Validation.validate_ok passed).symm.trans (Option.some.inj planned)
        · exact Option.some.inj planned
        · cases planned
      simp only [made, same, Except.mapError]

/-- The fix that is shown for an issue has its text, whenever it is made up and wherever it is read. -/
theorem preview_text (minEvidence : Nat) (issue : Issue) (now : Moment) (text : Fix → String)
    (worded : ∀ statement, text (Fix.ofStatement issue statement now) = statement.toDdl) :
    (preview minEvidence issue now).toOption.map text = issue.text? minEvidence := by
  unfold preview Issue.text? Fix.ofIssue
  cases Validation.screen minEvidence issue with
  | error error => rfl
  | ok passed =>
      cases DdlStatement.ofIssue issue with
      | error error => rfl
      | ok statement => exact congrArg some (worded statement)

/-- A fix that is planned for an issue has its text, to be run and to be shown. -/
theorem text?_of_fix? (planned : (ofIssue minEvidence issue approval now).fix? = some fix) :
    issue.text? minEvidence = some fix.ddl ∧ issue.text? minEvidence = some fix.preview := by
  have shown := preview_of_fix? planned
  constructor
  · rw [← preview_text minEvidence issue now (·.ddl) fun _ => rfl, shown]
    rfl
  · rw [← preview_text minEvidence issue now (·.preview) fun _ => rfl, shown]
    rfl

end Plan

/-- A cycle shows a fix for an issue that it leaves as it is, with the text for it. -/
theorem Planning.text?_of_shownFix? {minEvidence : Nat} {now : Moment} {issue : Issue} {fix : Fix}
    (shown : shownFix? minEvidence now issue = some fix) :
    reviewed minEvidence now issue = issue ∧ issue.text? minEvidence = some fix.preview := by
  have planned : ∀ {plan}, proposal? minEvidence now issue = some plan → plan.fix? = some fix →
      issue.text? minEvidence = some fix.preview := by
    intro plan proposed made
    unfold proposal? at proposed
    split at proposed
    · cases proposed
    · cases proposed
      exact (Plan.text?_of_fix? made).2
  unfold shownFix? at shown
  unfold reviewed
  split at shown
  · rename_i validated proposed
    rw [proposed]
    exact ⟨rfl, planned proposed shown⟩
  · rename_i fix proposed
    rw [proposed]
    exact ⟨rfl, planned proposed shown⟩
  · cases shown

namespace Monitor

/-- The fixes that a monitor keeps to be shown have the texts of their issues. -/
structure Foretold (monitor : Monitor) : Prop where
  known : KnownIssues monitor.issues
  kept : ∀ {id issue fix}, monitor.issues.get? id = some issue → monitor.fixes.get? id = some fix →
    issue.text? monitor.settings.minEvidence = some fix.preview

/-- A monitor that starts keeps no fixes. -/
theorem Foretold.ofIssues (settings : Settings) (persisted : List Issue) :
    (Monitor.ofIssues settings persisted).Foretold where
  known := KnownIssues.ofList persisted
  kept _ none := by cases none

variable {monitor : Monitor} {issue : Issue} {id : String}

theorem previewFix_text (found : monitor.issues.get? id = some issue) (isOpen : issue.isOpen = true)
    (now : Moment) :
    (monitor.previewFix id now).toOption.map (·.ddl) = issue.text? monitor.settings.minEvidence := by
  have stands : monitor.openIssue id = .ok issue := (openIssue_ok_iff _ _ _).mpr ⟨found, isOpen⟩
  have worded := Plan.preview_text monitor.settings.minEvidence issue now (·.ddl) fun _ => rfl
  rw [← worded, previewFix, stands]
  simp only [bind, Except.bind]
  cases Plan.preview monitor.settings.minEvidence issue now <;> rfl

/-- A fix that is ready for an open issue has the text of the one made up for it at any time. -/
theorem previewFix_of_ready (found : monitor.issues.get? id = some issue)
    (isOpen : issue.isOpen = true) {approval : Approval} {asked : Moment} {validated : ValidatedFix}
    (ready : Plan.ofIssue monitor.settings.minEvidence issue approval asked = .ready validated)
    (now : Moment) :
    (monitor.previewFix id now).toOption.map (·.ddl) = some validated.fix.ddl := by
  have planned := congrArg Plan.fix? ready
  exact (previewFix_text found isOpen now).trans (Plan.text?_of_fix? planned).1

/-- A fix that a cycle applies has the text of the one made up right after the planning was
published. -/
theorem previewFix_of_automatic {issues : Keyed Issue} (known : KnownIssues issues)
    {autoApply : Bool} {planned : Moment} {fix : Fix}
    (published : monitor.issues =
      (Planning.ofIssues monitor.settings.minEvidence autoApply planned issues).issues)
    (applied : fix ∈
      (Planning.ofIssues monitor.settings.minEvidence autoApply planned issues).automatic)
    (now : Moment) : (monitor.previewFix fix.issueId now).toOption.map (·.ddl) = some fix.ddl := by
  obtain ⟨_, issue, validated, found, isOpen, _, ready, _, rfl⟩ :=
    Planning.automatic_origin known applied
  obtain ⟨_, _, _, _, made, _⟩ := (Plan.ofIssue_ready_iff _ _ _ _ _).mp ready
  have owner : validated.fix.issueId = issue.id := made ▸ rfl
  rw [← published, ← owner] at found
  exact previewFix_of_ready found isOpen ready now

/-- The text shown for an open issue that nobody rejected is the one for it. -/
theorem Foretold.previewText (foretold : monitor.Foretold)
    (found : monitor.issues.get? id = some issue) (isOpen : issue.isOpen = true)
    (standing : issue.status ≠ .rejected) (now : Moment) :
    monitor.previewText issue now = issue.text? monitor.settings.minEvidence := by
  have shown : (issue.isOpen && issue.status != .rejected) = true := by simp [isOpen, standing]
  unfold Monitor.previewText
  rw [if_pos shown, foretold.known.named found]
  cases cached : monitor.fixes.get? id with
  | none => exact Plan.preview_text _ issue now (·.preview) fun _ => rfl
  | some fix => exact (foretold.kept found cached).symm

end Monitor

namespace Service

variable {service : Service}

/-- A cycle that publishes keeps the fixes with the texts of its issues. -/
theorem foretold_publish (foretold : service.monitor.Foretold) (cycleId : String)
    (analysis : Analysis) (now : Moment) :
    (service.publish cycleId analysis now).1.monitor.Foretold := by
  have known := foretold.known.reconcile analysis.detected now
  unfold publish
  simp only
  split
  · exact foretold
  · refine ⟨Planning.ofIssues_known _ _ _ known, ?_⟩
    intro id issue fix found shown
    -- The fixes are replaced as a whole, so this one belongs to an issue that was planned just now.
    obtain ⟨planned, present, same, proposed⟩ := Planning.exists_of_fixes _ _ _ shown
    obtain ⟨unchanged, text⟩ := Planning.text?_of_shownFix? proposed
    have published := Planning.ofIssues_get? service.monitor.settings.minEvidence
      service.monitor.autoApply now known planned.id
    rw [known.get?_id present, Option.map_some, unchanged, same] at published
    cases found.symm.trans published
    exact text

/-- A mark on an issue leaves the fixes with the texts of their issues. -/
theorem foretold_mark (foretold : service.monitor.Foretold) (id : String) (mark : Mark) :
    (service.updateIssue id (.mark mark)).1.monitor.Foretold := by
  obtain ⟨_, _, monitor⟩ := service.updateIssue_monitor id (.mark mark)
  rw [monitor]
  refine ⟨foretold.known.modify id (Issue.mark_id mark), ?_⟩
  intro other issue fix found shown
  simp only [Keyed.get?_modify] at found
  split at found
  · obtain ⟨earlier, present, rfl⟩ := Option.map_eq_some_iff.mp found
    rw [Issue.text?_mark]
    exact foretold.kept present shown
  · exact foretold.kept found shown

/-- Every move leaves the fixes that are kept with the texts of their issues. -/
theorem foretold_move (foretold : service.monitor.Foretold) (move : Move) :
    (service.move move).monitor.Foretold := by
  cases moved_move service move with
  | still issues fixes settings =>
      refine ⟨issues ▸ foretold.known, ?_⟩
      rw [issues, fixes, settings]
      exact foretold.kept
  | published cycleId analysis now same => exact same ▸ foretold_publish foretold cycleId analysis now
  | marked id mark same => exact same ▸ foretold_mark foretold id mark
  | restarted persisted same =>
      rw [same]
      exact .ofIssues service.monitor.settings persisted

/-- A monitor that starts keeps the fixes with the texts of their issues after every run of moves. -/
theorem foretold_after (settings : Settings) (persisted : List Issue) (store : Store)
    (catalog : Catalog) (moves : List Move) :
    (after ⟨.ofIssues settings persisted, store, catalog⟩ moves).monitor.Foretold :=
  after_keeps (fun after => after.monitor.Foretold) (fun kept move _ => foretold_move kept move)
    (.ofIssues settings persisted)

/-- A service does what it shows, whenever it is asked. Every open issue is listed, with the text of
the fix that is made up for it if nobody rejected it, and without one if there is none; a request for a
fix gives nothing to the catalog but this text; and a cycle that publishes applies the texts of the
fixes that are made up right after it. -/
structure Faithful (service : Service) : Prop where
  listed : ∀ all now, ∀ issue ∈ service.monitor.issues.values, issue.isOpen = true →
    ∃ view ∈ service.monitor.views all now, view.issue = issue
  previewed : ∀ all now, ∀ view ∈ service.monitor.views all now, view.issue.isOpen = true →
    view.issue.status ≠ .rejected → ∀ asked,
    view.preview = (service.monitor.previewFix view.issue.id asked).toOption.map (·.ddl)
  applied : ∀ id approval executionId asked ran, ∃ added,
    (service.applyLater id approval executionId asked ran).1.catalog.log =
      service.catalog.log ++ added ∧
    ∀ record ∈ added, ∀ now, ∃ text, record.statements = [text] ∧
      (service.monitor.previewFix id now).toOption.map (·.ddl) = some text
  answered : ∀ id approval executionId asked ran execution,
    (service.applyLater id approval executionId asked ran).2 = .ok execution →
    ∀ now, (service.monitor.previewFix id now).toOption.map (·.ddl) = some execution.ddl
  automatic : ∀ cycleId analysis planned after fixes,
    service.publish cycleId analysis planned = (after, .ok fixes) → ∀ fix ∈ fixes, ∀ now,
    (after.monitor.previewFix fix.issueId now).toOption.map (·.ddl) = some fix.ddl

/-- A request that is granted plans the text of the fix that is made up at any time. -/
theorem previewFix_of_granted {planned : Service} {id : String} {approval : Approval}
    {asked : Moment} {fix : Fix} (granted : service.planFix id approval asked = (planned, .ok fix))
    (now : Moment) : (service.monitor.previewFix id now).toOption.map (·.ddl) = some fix.ddl := by
  obtain ⟨issue, validated, found, isOpen, ready, rfl⟩ := planFix_ok granted
  exact Monitor.previewFix_of_ready found isOpen ready now

/-- A service whose fixes have the texts of their issues does what it shows. -/
theorem faithful_of_foretold (foretold : service.monitor.Foretold) : service.Faithful where
  listed all now issue present isOpen := by
    refine ⟨_, List.mem_map_of_mem (List.mem_filter.mpr ⟨present, ?_⟩), rfl⟩
    rw [isOpen, Bool.or_true]
  previewed all now view shown isOpen standing asked := by
    obtain ⟨issue, listed, rfl⟩ := List.mem_map.mp shown
    have found := foretold.known.get?_id (List.mem_of_mem_filter listed)
    rw [Monitor.previewFix_text found isOpen]
    exact foretold.previewText found isOpen standing now
  applied id approval executionId asked ran := by
    have still := service.planFix_catalog id approval asked
    rcases granted : service.planFix id approval asked with ⟨planned, error | fix⟩
    · rw [granted] at still
      refine ⟨[], ?_, fun record none => by cases none⟩
      rw [applyLater_refused granted, List.append_nil, still]
    · rw [granted] at still
      have log := planned.catalog.execute_log [fix.ddl] planned.monitor.executionLimit
      rw [← executeFix_catalog planned executionId fix ran, still,
        ← applyLater_granted granted] at log
      refine ⟨_, log, ?_⟩
      intro record present now
      rw [List.mem_singleton.mp present]
      exact ⟨fix.ddl, rfl, previewFix_of_granted granted now⟩
  answered id approval executionId asked ran execution answered now := by
    rcases granted : service.planFix id approval asked with ⟨planned, error | fix⟩
    · rw [applyLater_refused granted] at answered
      cases answered
    · rw [applyLater_granted granted] at answered
      rw [previewFix_of_granted granted, executeFix_ok (Prod.ext rfl answered)]
      rfl
  automatic cycleId analysis planned after fixes granted fix applied now := by
    have known := foretold.known.reconcile analysis.detected planned
    obtain ⟨_, refused, _⟩ | ⟨same, issues, settings, _⟩ :=
      publish_cases service cycleId analysis planned
    · rw [granted] at refused
      cases refused
    · rw [granted] at same issues settings
      cases same
      rw [← settings] at issues applied
      exact Monitor.previewFix_of_automatic known issues applied now

end Service

namespace Timeline

/-- An event plans a fix whose text could be seen: right after the cycle published, where it is a
fix that the cycle applies, and right before the request, where an operator asked for it. -/
inductive Announced (timeline : Timeline) : Event → Fix → Prop where
  | cycle {fix : Fix} (shown : ∀ now, ((timeline.occur .advance).service.monitor.previewFix
      fix.issueId now).toOption.map (·.ddl) = some fix.ddl) : Announced timeline .advance fix
  | operator {fix : Fix} (approval : Approval) (shown : ∀ now,
      (timeline.service.monitor.previewFix fix.issueId now).toOption.map (·.ddl) = some fix.ddl) :
      Announced timeline (.requestFix fix.issueId approval) fix

theorem plansAll_announced :
    PlansAll fun timeline event application => Announced timeline event application.fix where
  cycle {timeline detected application} known published applied _ := by
    have issues := published.issues
    rw [planningOf, ← published.settings] at issues applied
    exact .cycle (Monitor.previewFix_of_automatic (known.reconcile detected timeline.now) issues applied)
  operator {timeline id approval issue validated application} known found isOpen ready same _ := by
    obtain ⟨_, _, _, _, made, _⟩ := (Plan.ofIssue_ready_iff _ _ _ _ _).mp ready
    have owner : validated.fix.issueId = id := made ▸ known.named found
    subst owner
    exact same ▸ .operator approval (Monitor.previewFix_of_ready found isOpen ready)

/-- Whatever issues a monitor starts with, and whatever has happened to it in whatever order: it does
what it shows, and each batch that it has given to the catalog is the text of a fix that could be seen
when some event before planned it. -/
theorem executed_announced (settings : Settings) (persisted : List Issue) (store : Store)
    (catalog : Catalog) (sources : Sources) (ids : Nat → String) (events : List Event) :
    let start := ofService ⟨.ofIssues settings persisted, store, catalog⟩ sources ids
    (start.after events).service.Faithful ∧
      ∃ added, (start.after events).service.catalog.log = catalog.log ++ added ∧
        ∀ record ∈ added, ∃ fix, record.statements = [fix.ddl] ∧
          PlannedWithin Announced start events fix := by
  intro start
  obtain ⟨moves, reached⟩ :=
    reaches_ofService ⟨.ofIssues settings persisted, store, catalog⟩ sources ids events
  have foretold := Service.foretold_after settings persisted store catalog moves
  have traced := traced_after plansAll_announced
    (traced_ofService _ settings persisted store catalog sources ids) events
  obtain ⟨added, log, texts⟩ := traced.asked
  refine ⟨Service.faithful_of_foretold ?_, added, log, ?_⟩
  · rw [reached]
    exact foretold
  · intro record present
    obtain ⟨execution, ran, text⟩ :=
      List.mem_map.mp (texts ▸ List.mem_map_of_mem (f := BatchRecord.statements) present)
    obtain ⟨event, later, split, _⟩ := mem_executions_iff.mp ran
    rw [split]
    exact ⟨execution.application.fix, text.symm, (traced.executed execution ran).append _⟩

end Timeline

end SchemaDrift
