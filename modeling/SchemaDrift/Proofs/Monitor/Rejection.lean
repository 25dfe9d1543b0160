import SchemaDrift.Proofs.Issue.Detection
import SchemaDrift.Proofs.Issue.Reconciliation
import SchemaDrift.Proofs.Issue.Rejection
import SchemaDrift.Proofs.Monitor.Steps

namespace SchemaDrift

variable {now : Moment}

/-- What is detected is fresh, and nobody has rejected it. -/
theorem fresh_of_mem_detectIssues {rules : DetectionRules} {inferred : InferredSchema}
    {snapshot : Snapshot} {issue : Issue}
    (present : issue ∈ detectIssues rules inferred snapshot now) :
    issue.Fresh now ∧ issue.rejectionReason = none := by
  obtain ⟨table, _, _, difference⟩ := mem_detectIssues_iff.mp present
  generalize snapshot.table? table.name = shown at difference
  cases difference with
  | missingTable => exact ⟨⟨rfl, rfl, rfl⟩, rfl⟩
  | missingColumn used absent => exact ⟨⟨rfl, rfl, rfl⟩, rfl⟩
  | missingIndex used there enough without => exact ⟨⟨rfl, rfl, rfl⟩, rfl⟩
  | typeMismatch used there made =>
      rw [Detection.typeMismatch?, Option.bind_eq_bind, Option.bind_eq_some_iff] at made
      obtain ⟨proposed, _, rest⟩ := made
      split at rest
      · cases rest
      · cases rest
        exact ⟨⟨rfl, rfl, rfl⟩, rfl⟩

/-- An issue that is detected again keeps its standing if it was open, and is like new otherwise. -/
theorem Issue.standing_detectAgain (known fresh : Issue) (now : Moment) :
    (known.detectAgain fresh now).standing =
      if known.isOpen = true then known.standing else (.pending, none) := by
  rw [Issue.detectAgain_eq]
  split <;> rfl

/-- What a cycle makes of the standing of an issue before it plans anything: it keeps it and opens
nothing, or the issue is new or opened again and has no reason for a rejection. -/
inductive Renewed (previous result : Option Issue) : Prop where
  | kept (same : result.map Issue.standing = previous.map Issue.standing)
      (stays : previous.map Issue.isOpen = some false → result.map Issue.isOpen = some false)
  | opened (new : previous = none ∨ previous.map Issue.isOpen = some false) (issue : Issue)
      (found : result = some issue) (isOpen : issue.isOpen = true)
      (standing : issue.standing = (.pending, none))

/-- A cycle renews the issues that it detects, and keeps the others. -/
theorem renewed_reconcile {previous : Keyed Issue} {detected : List Issue}
    (known : KnownIssues previous)
    (fresh : ∀ issue ∈ detected, issue.Fresh now ∧ issue.rejectionReason = none) (id : String) :
    Renewed (previous.get? id) ((reconcile previous detected now).get? id) := by
  rw [get?_reconcile known fun issue present => (fresh issue present).1]
  cases last : lastDetected detected id with
  | none =>
      refine .kept ?_ ?_
      · cases previous.get? id with
        | none => rfl
        | some before => simp [Issue.resolve_eq, Issue.standing]
      · cases previous.get? id with
        | none => exact fun closed => closed
        | some before => simp [Issue.isOpen_resolve]
  | some seen =>
      simp only [continued]
      cases before : previous.get? id with
      | some issue =>
          have standing := Issue.standing_detectAgain issue seen now
          by_cases isOpen : issue.isOpen = true
          · rw [if_pos isOpen] at standing
            exact .kept (congrArg some standing) (by simp [isOpen])
          · rw [if_neg isOpen] at standing
            rw [Bool.not_eq_true] at isOpen
            exact .opened (.inr (congrArg some isOpen)) _ rfl (Issue.isOpen_detectAgain _ _ _) standing
      | none =>
          -- Nothing is known under the identity, so the first detection was taken as it is.
          obtain ⟨first, continues⟩ := exists_continued previous last
          rw [continued, before, Option.none_or] at continues
          have found := fresh first (List.mem_of_find?_eq_some continues)
          have standing := Issue.standing_detectAgain first seen now
          rw [if_pos found.1.isOpen] at standing
          rw [continues]
          refine .opened (.inl rfl) _ rfl (Issue.isOpen_detectAgain _ _ _) (standing.trans ?_)
          rw [Issue.standing, found.1.pending, found.2]

/-- The planning of a cycle leaves an issue as it is, or rejects it for a reason. -/
theorem Planning.reviewed_cases (minEvidence : Nat) (now : Moment) (issue : Issue) :
    reviewed minEvidence now issue = issue ∨
      ∃ reason, reviewed minEvidence now issue = issue.markRejected reason := by
  unfold reviewed
  split
  · exact .inr ⟨_, rfl⟩
  · exact .inl rfl

namespace Timeline

/-- The issue that the monitor knows under an identity. -/
def issue? (timeline : Timeline) (id : String) : Option Issue :=
  timeline.service.monitor.issues.get? id

/-- The status of the issue that the monitor knows under an identity. -/
def status? (timeline : Timeline) (id : String) : Option IssueStatus :=
  (timeline.issue? id).map (·.status)

/-- The event is about the fix of an issue: an operator asks for it and approves it, or the catalog
answers it. -/
def Treats (timeline : Timeline) (id : String) : Event → Prop
  | .requestFix other approval => other = id ∧ approval = .manual
  | .answer place => ∃ application,
      (sortStable orderApplications timeline.applications)[place]? = some application ∧
        application.fix.issueId = id
  | _ => False

/-- The event is a step of a cycle that opens an issue again. -/
def Reopens (timeline : Timeline) (id : String) (event : Event) : Prop :=
  event = .advance ∧ (timeline.issue? id).map Issue.isOpen = some false ∧
    ((timeline.occur event).issue? id).map Issue.isOpen = some true

/-- The event is about the fix of a rejected issue, which is not rejected after it. -/
structure Overtakes (timeline : Timeline) (id : String) (event : Event) : Prop where
  treats : timeline.Treats id event
  rejected : timeline.status? id = some .rejected
  left : (timeline.occur event).status? id ≠ some .rejected

/-- The issue is rejected after the event, or a cycle opens it again. -/
def Clears (timeline : Timeline) (id : String) (event : Event) : Prop :=
  (timeline.occur event).status? id = some .rejected ∨ timeline.Reopens id event

/-- An approval or an answer of the catalog took an issue that was rejected, and since then it was
neither rejected nor opened again. -/
def Overtaken (start : Timeline) (id : String) : List Event → Prop :=
  StandsSince (fun earlier event => (start.after earlier).Overtakes id event)
    fun earlier event => (start.after earlier).Clears id event

/-- What an event may do to the standing of an issue: nothing, or the issue is rejected, new or opened
again, or its fix is approved or answered. -/
inductive Turned (timeline : Timeline) (id : String) (event : Event) : Prop where
  | kept (same : ((timeline.occur event).issue? id).map Issue.standing =
        (timeline.issue? id).map Issue.standing)
      (still : ¬ timeline.Reopens id event)
  | rejected (issue : Issue) (found : (timeline.occur event).issue? id = some issue)
      (status : issue.status = .rejected) (reason : issue.rejectionReason.isSome = true)
  | opened (cycle : event = .advance) (new : timeline.issue? id = none ∨ timeline.Reopens id event)
      (issue : Issue) (found : (timeline.occur event).issue? id = some issue)
      (standing : issue.standing = (.pending, none))
  | treated (treats : timeline.Treats id event) (before after : Issue)
      (known : timeline.issue? id = some before)
      (found : (timeline.occur event).issue? id = some after) (left : after.status ≠ .rejected)
      (reason : after.rejectionReason = before.rejectionReason)

variable {timeline start : Timeline} {id : String} {event : Event} {events : List Event}

theorem status?_eq_map_standing :
    timeline.status? id = ((timeline.issue? id).map Issue.standing).map Prod.fst := by
  rw [Option.map_map]
  rfl

namespace Turned

/-- An event that leaves an issue as it is does nothing to its standing. -/
theorem of_same (same : (timeline.occur event).issue? id = timeline.issue? id) :
    timeline.Turned id event := by
  refine .kept (by rw [same]) ?_
  rintro ⟨_, closed, opened⟩
  rw [same, closed] at opened
  cases opened

/-- A quiet event does nothing to the standing of an issue. -/
theorem of_quiet (quiet : Quiet timeline (timeline.occur event)) : timeline.Turned id event :=
  of_same (by rw [issue?, issue?, quiet.issues])

/-- A mark on one issue turns that issue only. -/
theorem of_modify {other : String} {change : Issue → Issue}
    (issues : (timeline.occur event).service.monitor.issues =
      timeline.service.monitor.issues.modify other change)
    (turned : ∀ {before}, other = id → timeline.issue? id = some before →
      (timeline.occur event).issue? id = some (change before) → timeline.Turned id event) :
    timeline.Turned id event := by
  have found : (timeline.occur event).issue? id =
      if other = id then (timeline.issue? id).map change else timeline.issue? id := by
    rw [issue?, issues, Keyed.get?_modify]
    rfl
  by_cases same : other = id
  · rw [if_pos same] at found
    cases known : timeline.issue? id with
    | none =>
        rw [known, Option.map_none] at found
        exact of_same (found.trans known.symm)
    | some before =>
        rw [known, Option.map_some] at found
        exact turned same known found
  · rw [if_neg same] at found
    exact of_same found

end Turned

/-- A request for a fix rejects the issue, or an operator approves it. -/
theorem turned_requestFix (other : String) (approval : Approval) :
    timeline.Turned id (.requestFix other approval) := by
  have issues : (timeline.occur (.requestFix other approval)).service.monitor.issues =
      (timeline.service.planFix other approval timeline.now).1.monitor.issues := by
    simp only [occur, requestFix]
    rcases timeline.service.planFix other approval timeline.now with ⟨service, _ | fix⟩ <;> rfl
  obtain same | ⟨reason, same⟩ | ⟨approved, same⟩ :=
    Service.planFix_marks timeline.service other approval timeline.now
  · exact .of_same (by rw [issue?, issues, same, issue?])
  · rw [same, Service.updateIssue_issues] at issues
    exact .of_modify issues fun _ _ found => .rejected _ found rfl rfl
  · rw [same, Service.updateIssue_issues] at issues
    refine .of_modify issues fun sameId known found => ?_
    exact .treated ⟨sameId, approved⟩ _ _ known found (by simp [Issue.markApproved]) rfl

/-- An answer of the catalog is about the issue whose fix it answers. -/
theorem turned_answer (place : Nat) : timeline.Turned id (.answer place) := by
  cases pending : (sortStable orderApplications timeline.applications)[place]? with
  | none => exact .of_same (by simp only [occur, answer, pending])
  | some application =>
      have issues : (timeline.occur (.answer place)).service.monitor.issues =
          (timeline.service.executeFix application.executionId application.fix
            application.begunAt).1.monitor.issues := by
        simp only [occur, answer, pending]
        exact (finishApplication_effect application _ timeline).1
      obtain same | same := Service.executeFix_cases timeline.service application.executionId
        application.fix application.begunAt
      · exact .of_same (by rw [issue?, issues, same]; rfl)
      · rw [same, Service.updateIssue_issues] at issues
        refine .of_modify issues fun sameId known found => ?_
        refine .treated ⟨application, pending, sameId⟩ _ _ known found ?_ ?_
        · unfold Service.markOf
          split <;> simp [Issue.markApplied, Issue.markFailed]
        · unfold Service.markOf
          split <;> rfl

/-- A cycle that renewed the issues and then planned them kept an issue, rejected it, or opened it for
the first time or again. -/
theorem Turned.of_renewed {merged : Option Issue} {minEvidence : Nat}
    (renewed : Renewed (timeline.issue? id) merged)
    (planned : (timeline.occur .advance).issue? id =
      merged.map (Planning.reviewed minEvidence now)) :
    timeline.Turned id .advance := by
  by_cases refused : merged.map (Planning.reviewed minEvidence now) = merged
  · rw [refused] at planned
    cases renewed with
    | kept same stays =>
        refine .kept (planned ▸ same) ?_
        rintro ⟨_, closed, opened⟩
        rw [planned, stays closed] at opened
        cases opened
    | opened new issue found isOpen standing =>
        rw [found] at planned
        refine .opened rfl (new.imp_right fun closed => ⟨rfl, closed, ?_⟩) issue planned standing
        rw [planned, Option.map_some, isOpen]
  · cases merged with
    | none => exact absurd rfl refused
    | some issue =>
        obtain same | ⟨reason, same⟩ := Planning.reviewed_cases minEvidence now issue
        · exact absurd (congrArg some same) refused
        · rw [Option.map_some, same] at planned
          exact .rejected _ planned rfl rfl

/-- A step of a cycle changes nothing, or it renews the issues and plans them. -/
theorem turned_advance (known : KnownIssues timeline.service.monitor.issues) :
    timeline.Turned id .advance := by
  obtain quiet | ⟨_, ⟨inferred, snapshot, rfl⟩, published⟩ := advance_cases timeline
  · exact .of_quiet quiet
  · have renewed := renewed_reconcile known (fun issue present => fresh_of_mem_detectIssues
      (show issue ∈ detectIssues timeline.service.monitor.rules inferred snapshot timeline.now
        from present)) id
    have planned : (timeline.occur .advance).issue? id = _ :=
      (congrArg (fun issues : Keyed Issue => issues.get? id) published.issues).trans
        (Planning.ofIssues_get? _ _ _ (known.reconcile _ _) id)
    exact .of_renewed renewed planned

/-- Every event but a new start turns an issue in one of these ways. -/
theorem turned_occur (known : KnownIssues timeline.service.monitor.issues)
    (goesOn : event ≠ .restart) : timeline.Turned id event := by
  cases event with
  | tick time => exact .of_same rfl
  | answer place => exact turned_answer place
  | advance => exact turned_advance known
  | hear => exact .of_quiet (quiet_hear timeline)
  | requestCycle => exact .of_quiet (quiet_occur_requestCycle timeline)
  | requestFix other approval => exact turned_requestFix other approval
  | setAutoApply enabled => exact .of_same rfl
  | resume => exact .of_same rfl
  | stop => exact .of_same rfl
  | startSchedule => exact .of_same rfl
  | restart => exact absurd rfl goesOn
  | edit sources store catalog => exact .of_same rfl

/-- One more event overtakes a rejection, or leaves one overtaken that it does not clear. -/
theorem overtaken_concat_iff : start.Overtaken id (events ++ [event]) ↔
    (start.after events).Overtakes id event ∨
      start.Overtaken id events ∧ ¬ (start.after events).Clears id event :=
  standsSince_concat_iff

/-- The reasons for rejections follow the status of an issue through a run: nothing was overtaken as
long as the issue is not known, and once it is known, its reason follows its status unless a rejection
was overtaken. -/
structure Explained (start : Timeline) (id : String) (events : List Event) : Prop where
  unknown : (start.after events).issue? id = none → ¬ start.Overtaken id events
  reasoned : ∀ {issue}, (start.after events).issue? id = some issue →
    issue.Reasoned (start.Overtaken id events)

namespace Explained

/-- An issue that is known after one more event is explained if its reason follows its status. -/
theorem of_known {issue : Issue}
    (found : ((start.after events).occur event).issue? id = some issue)
    (reasoned : issue.Reasoned (start.Overtaken id (events ++ [event]))) :
    Explained start id (events ++ [event]) where
  unknown absent := by
    rw [after_concat, found] at absent
    cases absent
  reasoned {other} same := by
    rw [after_concat, found, Option.some.injEq] at same
    exact same ▸ reasoned

/-- An event that keeps the standing of an issue overtakes nothing and clears nothing. -/
theorem kept (explained : Explained start id events)
    (same : (((start.after events).occur event).issue? id).map Issue.standing =
      ((start.after events).issue? id).map Issue.standing)
    (still : ¬ (start.after events).Reopens id event) : Explained start id (events ++ [event]) := by
  have status : ((start.after events).occur event).status? id = (start.after events).status? id := by
    rw [status?_eq_map_standing, same, ← status?_eq_map_standing]
  have overtakes : ¬ (start.after events).Overtakes id event := fun overtakes =>
    overtakes.left (status.trans overtakes.rejected)
  cases known : (start.after events).issue? id with
  | none =>
      constructor
      · intro _ past
        obtain now | ⟨earlier, _⟩ := overtaken_concat_iff.mp past
        · exact overtakes now
        · exact explained.unknown known earlier
      · intro issue found
        rw [after_concat] at found
        rw [known, found] at same
        cases same
  | some before =>
      have reasoned := explained.reasoned known
      rw [known, Option.map_some] at same
      obtain ⟨after, found, standing⟩ := Option.map_eq_some_iff.mp same
      refine of_known found (reasoned.of_standing standing ?_)
      rw [overtaken_concat_iff, or_iff_right overtakes, and_iff_left_iff_imp]
      rintro past (rejected | reopens)
      · rw [status, status?, known, Option.map_some, Option.some.injEq] at rejected
        exact reasoned.ne_rejected past rejected
      · exact still reopens

/-- An approval or an answer overtakes the rejection of an issue that is rejected. -/
theorem treated (explained : Explained start id events) {before after : Issue}
    (treats : (start.after events).Treats id event)
    (known : (start.after events).issue? id = some before)
    (found : ((start.after events).occur event).issue? id = some after)
    (left : after.status ≠ .rejected) (reason : after.rejectionReason = before.rejectionReason) :
    Explained start id (events ++ [event]) := by
  have unrejected : ((start.after events).occur event).status? id ≠ some .rejected := by
    simpa [status?, found] using left
  have unopened : ¬ (start.after events).Reopens id event := by
    rintro ⟨rfl, _⟩
    exact treats
  refine of_known found ((explained.reasoned known).leave left reason ?_)
  rw [overtaken_concat_iff]
  refine or_congr ⟨fun overtakes => ?_, fun rejected => ⟨treats, ?_, unrejected⟩⟩
    (and_iff_left fun clears => clears.elim unrejected unopened)
  · have rejected := overtakes.rejected
    rwa [status?, known, Option.map_some, Option.some.injEq] at rejected
  · rw [status?, known, Option.map_some, rejected]

/-- Every event but a new start keeps an issue explained. -/
theorem concat (explained : Explained start id events)
    (known : KnownIssues (start.after events).service.monitor.issues) (goesOn : event ≠ .restart) :
    Explained start id (events ++ [event]) := by
  have turned : (start.after events).Turned id event := turned_occur known goesOn
  cases turned with
  | kept same still => exact explained.kept same still
  | treated treats before after known found left reason =>
      exact explained.treated treats known found left reason
  | rejected issue found status reason =>
      have rejected : ((start.after events).occur event).status? id = some .rejected := by
        rw [status?, found, Option.map_some, status]
      refine of_known found (Issue.reasoned_of_rejected status reason fun past => ?_)
      obtain overtakes | ⟨_, kept⟩ := overtaken_concat_iff.mp past
      · exact overtakes.left rejected
      · exact kept (.inl rejected)
  | opened cycle new issue found standing =>
      obtain ⟨status, reason⟩ := Prod.mk.inj standing
      refine of_known found (Issue.reasoned_of_cleared (by simp [status]) reason fun past => ?_)
      obtain overtakes | ⟨earlier, kept⟩ := overtaken_concat_iff.mp past
      · exact (cycle ▸ overtakes.treats : (start.after events).Treats id .advance)
      · obtain unknown | reopens := new
        · exact explained.unknown unknown earlier
        · exact kept (.inr reopens)

end Explained

/-- Every issue is explained through every run of a monitor that starts without issues and goes
on. -/
theorem explained_after (settings : Settings) (store : Store) (catalog : Catalog)
    (sources : Sources) (ids : Nat → String) (id : String) {events : List Event}
    (goesOn : ∀ event ∈ events, event ≠ .restart) :
    Explained (ofService ⟨.ofIssues settings [], store, catalog⟩ sources ids) id events := by
  induction events using List.reverseRecOn with
  | nil => exact ⟨fun _ => not_standsSince_nil, nofun⟩
  | append_singleton events event inductionHypothesis =>
      have before := inductionHypothesis fun other present =>
        goesOn other (List.mem_append_left _ present)
      refine before.concat ?_ (goesOn event (by simp))
      obtain ⟨moves, reached⟩ :=
        reaches_ofService ⟨.ofIssues settings [], store, catalog⟩ sources ids events
      rw [reached]
      exact Service.known_after KnownIssues.nil moves

/-- Whatever is done to a new issue, and whatever happens to a monitor that starts without issues and
goes on, in time and in whatever order: a rejected issue has the reason for its rejection, and it is
just an issue whose rejection was overtaken that has one without being rejected. -/
theorem reason_follows_status (kind : IssueKind) (table : String) (column : Option String)
    (evidence : Evidence) (now : Moment) (handlings : List Handling) (settings : Settings)
    (store : Store) (catalog : Catalog) (sources : Sources) (ids : Nat → String)
    (events : List Event) :
    let new := Issue.detected kind table column evidence now
    let start := ofService ⟨.ofIssues settings [], store, catalog⟩ sources ids
    (new.handleAll handlings).Reasoned (new.Overtaken handlings) ∧
      ((∀ event ∈ events, event ≠ .restart) → ∀ {id : String} {issue : Issue},
        (start.after events).issue? id = some issue → issue.Reasoned (start.Overtaken id events)) := by
  intro new start
  constructor
  · exact Issue.reasoned_handleAll (by simp [new, Issue.detected]) rfl handlings
  · intro goesOn id issue found
    exact (explained_after settings store catalog sources ids id goesOn).reasoned found

namespace Renaming

/-- Sources that read a column of a missing table whose name no statement can write. -/
def hyphenated : Sources :=
  ⟨FileTree.empty.writeText "a.py" "cur.execute('SELECT \"order-id\" AS i FROM orders')\n",
    some [], "."⟩

/-- Sources that read a column of this table with another name. -/
def underscored : Sources :=
  ⟨FileTree.empty.writeText "a.py" "cur.execute('SELECT order_id AS i FROM orders')\n", some [], "."⟩

/-- A monitor that knows no issues, with a record in memory and no tables. -/
def shop : Timeline :=
  ofService ⟨.ofIssues .initial [], .empty, .empty "public" ⟨0⟩⟩ hyphenated fun _ => "id"

/-- The identity of the missing table. -/
def orders : String := "iss_a878f2b64edc3c6b"

def wholeCycle : List Event := [.requestCycle, .advance, .advance]

/-- A cycle rejects the missing table for the name of its column, the column gets another name, and the
next cycle still has the table rejected. -/
def renamed : List Event :=
  wholeCycle ++
    [Event.edit underscored (shop.after wholeCycle).service.store (.empty "public" ⟨0⟩)] ++ wholeCycle

/-- An operator approves the fix that can be planned by now. -/
def approved : List Event := renamed ++ [Event.requestFix orders .manual]

/-- The approved issue tells why it was rejected. -/
theorem standing_approved : ((shop.after approved).issue? orders).map Issue.standing =
    some (.approved, some
      "invalid identifier: identifier 'order-id' contains characters outside [A-Za-z0-9_]") := by
  decide +kernel

/-- The approval overtook the rejection of the missing table. -/
theorem reason_follows_status_renamed :
    (∀ event ∈ approved, event ≠ .restart) ∧
    ∃ issue, (shop.after approved).issue? orders = some issue ∧
      issue.Reasoned (shop.Overtaken orders approved) ∧ shop.Overtaken orders approved := by
  have goesOn : ∀ event ∈ approved, event ≠ .restart := by
    simp [approved, renamed, wholeCycle]
  obtain ⟨issue, found, standing⟩ := Option.map_eq_some_iff.mp standing_approved
  obtain ⟨status, reason⟩ := Prod.mk.inj standing
  have reasoned := (reason_follows_status .missingTable orders none default default [] .initial .empty
    (.empty "public" ⟨0⟩) hyphenated (fun _ => "id") approved).2 goesOn found
  refine ⟨goesOn, issue, found, reasoned, reasoned.fails_iff.mp ?_⟩
  simp [status, reason]

/-- A rejected issue that is marked as applied has a reason for a rejection, and so has one that a monitor
rejected and an operator then approved; yet neither of them is rejected. -/
theorem reason_outlasts_rejection :
    let handled := (Issue.detected .missingTable "orders" none default default).handleAll
      [.marked (.rejected "not wanted"), .marked .applied]
    ¬ (handled.rejectionReason.isSome = true ↔ handled.status = .rejected) ∧
    ∃ issue, (shop.after approved).issue? orders = some issue ∧
      ¬ (issue.rejectionReason.isSome = true ↔ issue.status = .rejected) := by
  refine ⟨by decide, ?_⟩
  obtain ⟨issue, found, standing⟩ := Option.map_eq_some_iff.mp standing_approved
  obtain ⟨status, reason⟩ := Prod.mk.inj standing
  exact ⟨issue, found, by simp [status, reason]⟩

end Renaming

end Timeline

end SchemaDrift
