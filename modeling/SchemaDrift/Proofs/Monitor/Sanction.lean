import SchemaDrift.Proofs.Monitor.Provenance

namespace SchemaDrift

namespace Timeline

/-- Where a fix for an issue comes from: from a cycle that published the issue while automatic fixes
were on, not rejected and with the evidence that its kind needs, or from an operator who asked for
the fix of a known issue. -/
inductive Origin (timeline : Timeline) (issue : Issue) (application : Application) : Event → Prop where
  | cycle (automatic : application.automatic = true)
      (enabled : timeline.service.monitor.autoApply = true)
      (published : (timeline.occur .advance).service.monitor.issues.get? issue.id = some issue)
      (standing : issue.status ≠ .rejected)
      (evident : Validation.required timeline.service.monitor.settings.minEvidence issue.kind ≤
        issue.evidence.count) : Origin timeline issue application .advance
  | operator (requested : application.automatic = false) (approval : Approval)
      (known : timeline.service.monitor.issues.get? issue.id = some issue) :
      Origin timeline issue application (.requestFix issue.id approval)

/-- An event plans a fix as it should be: for an open issue, by the statement that corrects it, with
valid names and without denied words, and with a change of type only when an operator approved. -/
structure Sanctioned (timeline : Timeline) (event : Event) (issue : Issue)
    (application : Application) : Prop where
  origin : Origin timeline issue application event
  isOpen : issue.isOpen = true
  owner : application.fix.issueId = issue.id
  corrects : DdlStatement.ofIssue issue = .ok application.fix.statement
  rendered : application.fix.ddl = application.fix.statement.toDdl
  valid : ∀ identifier ∈ application.fix.statement.identifiers, isValidName identifier.name = true
  allowed : ∀ word ∈ Validation.deniedWords,
    ¬ Validation.HoldsWord word application.fix.ddl.toList
  additive : event ≠ .requestFix issue.id .manual →
    ∀ table column type previous,
      application.fix.statement ≠ .alterColumnType table column type previous

/-- A fix that the catalog was asked to run was planned before as it should be, while one of the
requests was served. A change of type was planned at an approved request for the fix. -/
def SanctionedWithin (start : Timeline) (requests : List Request) (execution : Execution) : Prop :=
  ∃ earlier event later issue request, execution.events = earlier ++ event :: later ∧
    (start.after earlier).Sanctioned event issue execution.application ∧
    start.During requests earlier request event ∧
    ((∃ table column type previous,
        execution.application.fix.statement = .alterColumnType table column type previous) →
      execution.application.automatic = false ∧
        (request = .applyFix issue.id .manual ∨ request = .event (.requestFix issue.id .manual)))

/-- A ready fix is as it should be, wherever it comes from. -/
theorem sanctioned_of_ready {timeline : Timeline} {event : Event} {minEvidence : Nat}
    {issue : Issue} {approval : Approval} {now : Moment} {validated : ValidatedFix}
    {application : Application} (origin : Origin timeline issue application event)
    (isOpen : issue.isOpen = true)
    (ready : Plan.ofIssue minEvidence issue approval now = .ready validated)
    (same : validated.fix = application.fix)
    (cautious : validated.safe = true ∨ event = .requestFix issue.id .manual) :
    timeline.Sanctioned event issue application := by
  obtain ⟨_, statement, corrects, clean, rfl, _⟩ := (Plan.ofIssue_ready_iff _ _ _ _ _).mp ready
  refine ⟨origin, isOpen, ?_, ?_, ?_, fun identifier _ => identifier.valid, ?_, ?_⟩
  · rw [← same]
    rfl
  · rw [← same]
    exact corrects
  · rw [← same]
    rfl
  · rw [← same]
    exact (Validation.deniedWord?_eq_none_iff _).mp clean
  · intro unapproved table column type previous changes
    have safe := cautious.resolve_right unapproved
    rw [Validation.isAdditive_ofStatement] at safe
    rw [← same] at changes
    have retyped : statement = .alterColumnType table column type previous := changes
    rw [retyped] at safe
    exact Bool.noConfusion safe.1

/-- A fix that a cycle has under way after it published is as it should be. -/
theorem sanctioned_advance {timeline : Timeline} (known : KnownIssues timeline.service.monitor.issues)
    {detected : List Issue}
    (published : Published (timeline.planningOf detected) timeline timeline.advance)
    {application : Application}
    (applied : application.fix ∈ (timeline.planningOf detected).automatic)
    (automatic : application.automatic = true) :
    ∃ issue, timeline.Sanctioned .advance issue application := by
  obtain ⟨enabled, issue, validated, found, isOpen, standing, ready, safe, same⟩ :=
    Planning.automatic_origin (known.reconcile detected timeline.now) applied
  have evident := ((Validation.screen_ok_iff _ _).mp
    ((Plan.ofIssue_ready_iff _ _ _ _ _).mp ready).1).1
  have origin : Origin timeline issue application .advance :=
    .cycle automatic enabled (published.issues ▸ found) standing evident
  exact ⟨issue, sanctioned_of_ready origin isOpen ready same (.inl safe)⟩

/-- A fix that an operator was granted is as it should be. -/
theorem sanctioned_requestFix {timeline : Timeline} {id : String} {approval : Approval}
    {issue : Issue} {validated : ValidatedFix} {application : Application}
    (known : KnownIssues timeline.service.monitor.issues)
    (found : timeline.service.monitor.issues.get? id = some issue) (isOpen : issue.isOpen = true)
    (ready : Plan.ofIssue timeline.service.monitor.settings.minEvidence issue approval
      timeline.now = .ready validated)
    (same : validated.fix = application.fix) (requested : application.automatic = false) :
    timeline.Sanctioned (.requestFix id approval) issue application := by
  have named := known.named found
  subst named
  refine sanctioned_of_ready (.operator requested approval found) isOpen ready same ?_
  obtain ⟨_, _, _, _, _, safe | approved⟩ := (Plan.ofIssue_ready_iff _ _ _ _ _).mp ready
  · exact .inl safe
  · exact .inr (approved ▸ rfl)

/-- All fixes are planned as they should be. -/
theorem plansAll_sanctioned :
    PlansAll fun timeline event application =>
      ∃ issue, timeline.Sanctioned event issue application where
  cycle known published applied automatic := sanctioned_advance known published applied automatic
  operator known found isOpen ready same requested :=
    ⟨_, sanctioned_requestFix known found isOpen ready same requested⟩

/-- A change of type is planned for an operator, at a request with approval. -/
theorem Sanctioned.approved {timeline : Timeline} {event : Event} {issue : Issue}
    {application : Application} (sanctioned : timeline.Sanctioned event issue application)
    (retyped : ∃ table column type previous,
      application.fix.statement = .alterColumnType table column type previous) :
    application.automatic = false ∧ event = .requestFix issue.id .manual := by
  obtain ⟨table, column, type, previous, changes⟩ := retyped
  have approved : event = .requestFix issue.id .manual :=
    not_not.mp fun unapproved => sanctioned.additive unapproved table column type previous changes
  refine ⟨?_, approved⟩
  cases sanctioned.origin with
  | cycle => cases approved
  | operator requested => exact requested

/-- Whatever issues a monitor starts with, and whatever is asked of it in whatever order, its requests
come to runs of events. In all of them, what the catalog was asked to run are the single statements of
the fixes that it answered, one after the other, and each of these was planned before as it should
be. -/
theorem executed_sanctioned (settings : Settings) (persisted : List Issue) (store : Store)
    (catalog : Catalog) (sources : Sources) (ids : Nat → String) (requests : List Request) :
    let start := ofService ⟨.ofIssues settings persisted, store, catalog⟩ sources ids
    (∃ events, start.Unfolds requests events) ∧
    ∀ events, start.Unfolds requests events →
      start.serveAll requests = start.after events ∧
      (∃ added, (start.serveAll requests).service.catalog.log = catalog.log ++ added ∧
        added.map (·.statements) =
          (start.executions events).map fun execution => [execution.application.fix.ddl]) ∧
      ∀ execution ∈ start.executions events, start.SanctionedWithin requests execution := by
  intro start
  refine ⟨start.exists_unfolds requests, ?_⟩
  intro events unfolds
  have traced := traced_after plansAll_sanctioned
    (traced_ofService _ settings persisted store catalog sources ids) events
  have served := unfolds.serveAll
  refine ⟨served, served ▸ traced.asked, ?_⟩
  intro execution ran
  obtain ⟨earlier, event, later, split, issue, sanctioned⟩ := traced.executed execution ran
  obtain ⟨answering, rest, whole, _⟩ := mem_executions_iff.mp ran
  have planning : events = earlier ++ event :: (later ++ answering :: rest) := by
    rw [whole, split]
    simp
  obtain ⟨request, during⟩ := unfolds.during planning
  refine ⟨earlier, event, later, issue, request, split, sanctioned, during, ?_⟩
  intro retyped
  obtain ⟨requested, rfl⟩ := sanctioned.approved retyped
  obtain ⟨_, _, _, _, _, _, _, _, raises⟩ := during
  exact ⟨requested, Request.raises_requestFix_iff.mp raises⟩

end Timeline

end SchemaDrift
