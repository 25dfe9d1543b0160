import SchemaDrift.Monitor.Cycle
import SchemaDrift.Proofs.Issue.Known

namespace SchemaDrift.Planning

/-- The plan that a cycle makes for an issue; a closed or rejected issue has none. -/
def proposal? (minEvidence : Nat) (now : Moment) (issue : Issue) : Option Plan :=
  if !issue.isOpen || issue.status = .rejected then none
  else some (Plan.ofIssue minEvidence issue .automatic now)

def reviewed (minEvidence : Nat) (now : Moment) (issue : Issue) : Issue :=
  match proposal? minEvidence now issue with
  | some (.rejected error) => issue.markRejected error.message
  | _ => issue

/-- The fix that a cycle applies for an issue. -/
def automaticFix? (minEvidence : Nat) (autoApply : Bool) (now : Moment) (issue : Issue) :
    Option Fix :=
  match proposal? minEvidence now issue with
  | some (.ready validated) => if autoApply && validated.safe then some validated.fix else none
  | _ => none

/-- The fix that a cycle shows for an issue. -/
def shownFix? (minEvidence : Nat) (now : Moment) (issue : Issue) : Option Fix :=
  match proposal? minEvidence now issue with
  | some (.ready validated) => some validated.fix
  | some (.needsApproval fix) => some fix
  | _ => none

variable (minEvidence : Nat) (autoApply : Bool) (now : Moment)

/-- An issue keeps its identity in its planning. -/
theorem reviewed_id (issue : Issue) : (reviewed minEvidence now issue).id = issue.id := by
  unfold reviewed
  split <;> rfl

/-- An issue adds its own fix to those applied. -/
theorem addIssue_automatic (planning : Planning) (issue : Issue) :
    (addIssue minEvidence autoApply now planning issue).automatic =
      planning.automatic ++ (automaticFix? minEvidence autoApply now issue).toList := by
  unfold addIssue automaticFix? proposal?
  split
  · simp
  · cases Plan.ofIssue minEvidence issue .automatic now with
    | ready validated => by_cases applied : autoApply && validated.safe <;> simp [applied]
    | needsApproval fix => simp
    | rejected error => simp

theorem addIssue_fixes (planning : Planning) (issue : Issue) (id : String) :
    (addIssue minEvidence autoApply now planning issue).fixes.get? id =
      if issue.id = id then (shownFix? minEvidence now issue).or (planning.fixes.get? id)
      else planning.fixes.get? id := by
  unfold addIssue shownFix? proposal?
  split
  · simp
  · cases Plan.ofIssue minEvidence issue .automatic now with
    | ready validated => simp [Keyed.get?_insert]
    | needsApproval fix => simp [Keyed.get?_insert]
    | rejected error => simp

/-- An issue is reviewed under its own identity. -/
theorem addIssue_issues (planning : Planning) (issue : Issue)
    (present : planning.issues.get? issue.id = some issue) (id : String) :
    (addIssue minEvidence autoApply now planning issue).issues.get? id =
      if issue.id = id then some (reviewed minEvidence now issue)
      else planning.issues.get? id := by
  unfold addIssue reviewed proposal?
  split
  · by_cases same : issue.id = id
    · simp [← same, present]
    · simp [same]
  · cases Plan.ofIssue minEvidence issue .automatic now with
    | ready validated =>
        by_cases same : issue.id = id
        · simp [← same, present]
        · simp [same]
    | needsApproval fix =>
        by_cases same : issue.id = id
        · simp [← same, present]
        · simp [same]
    | rejected error =>
        by_cases same : issue.id = id
        · simp [← same, present, Keyed.get?_modify]
        · simp [same, Keyed.get?_modify]

/-- The planning of a list of issues applies the fix of each. -/
theorem foldl_automatic (listed : List Issue) (planning : Planning) :
    (listed.foldl (addIssue minEvidence autoApply now) planning).automatic =
      planning.automatic ++ listed.filterMap (automaticFix? minEvidence autoApply now) := by
  induction listed generalizing planning with
  | nil => simp
  | cons issue rest inductionHypothesis =>
      rw [List.foldl_cons, inductionHypothesis, addIssue_automatic, List.append_assoc,
        List.filterMap_cons]
      cases automaticFix? minEvidence autoApply now issue <;> rfl

theorem foldl_issues (listed : List Issue) (distinct : (listed.map (·.id)).Nodup)
    (planning : Planning) (present : ∀ issue ∈ listed, planning.issues.get? issue.id = some issue)
    (id : String) :
    (listed.foldl (addIssue minEvidence autoApply now) planning).issues.get? id =
      match listed.find? (·.id == id) with
      | some issue => some (reviewed minEvidence now issue)
      | none => planning.issues.get? id := by
  induction listed generalizing planning with
  | nil => rfl
  | cons issue rest inductionHypothesis =>
      rcases List.nodup_cons.mp distinct with ⟨fresh, others⟩
      have step := addIssue_issues minEvidence autoApply now planning issue
        (present issue List.mem_cons_self)
      have kept : ∀ other ∈ rest,
          (addIssue minEvidence autoApply now planning issue).issues.get? other.id =
            some other := by
        intro other found
        have different : issue.id ≠ other.id := by
          intro same
          exact fresh (List.mem_map.mpr ⟨other, found, same.symm⟩)
        rw [step, if_neg different]
        exact present other (List.mem_cons_of_mem _ found)
      rw [List.foldl_cons, inductionHypothesis others _ kept, List.find?_cons]
      by_cases same : issue.id = id
      · have absent : rest.find? (·.id == id) = none := by
          rw [List.find?_eq_none]
          intro other found equal
          exact fresh (List.mem_map.mpr ⟨other, found, (eq_of_beq equal).trans same.symm⟩)
        simp [absent, step, same]
      · have unequal : (issue.id == id) = false := beq_eq_false_iff_ne.mpr same
        simp [unequal, step, same]

/-- The issues of a record have distinct identities. -/
theorem nodup_ids {issues : Keyed Issue} (known : KnownIssues issues) :
    (issues.values.map (·.id)).Nodup := by
  have same : issues.values.map (·.id) = issues.keys := by
    rw [Keyed.values, Keyed.keys, List.map_map]
    refine List.map_congr_left fun record present => ?_
    exact known.named (Keyed.get?_of_mem known.ordered present)
  rw [same]
  refine ((Keyed.ordered_iff_keys issues).mp known.ordered).imp ?_
  rintro first second less rfl
  exact compareText_irrefl _ less

/-- A cycle applies the fixes of its issues in their order. -/
theorem ofIssues_automatic (issues : Keyed Issue) :
    (ofIssues minEvidence autoApply now issues).automatic =
      issues.values.filterMap (automaticFix? minEvidence autoApply now) := by
  rw [ofIssues, foldl_automatic, List.nil_append]

/-- A cycle publishes each issue as reviewed. -/
theorem ofIssues_get? {issues : Keyed Issue} (known : KnownIssues issues) (id : String) :
    (ofIssues minEvidence autoApply now issues).issues.get? id =
      (issues.get? id).map (reviewed minEvidence now) := by
  rw [ofIssues, foldl_issues minEvidence autoApply now issues.values (nodup_ids known) _
    (fun issue present => known.get?_id present)]
  cases found : issues.values.find? (·.id == id) with
  | some issue =>
      have same := List.find?_some found
      rw [beq_iff_eq] at same
      simp [← same, known.get?_id (List.mem_of_find?_eq_some found)]
  | none =>
      cases present : issues.get? id with
      | none => rfl
      | some issue =>
          have absent := List.find?_eq_none.mp found issue (Keyed.mem_values_of_get? present)
          exact absurd (beq_iff_eq.mpr (known.named present)) absent

/-- A cycle shows no fix but that of an issue under its identity. -/
theorem exists_of_fixes {issues : Keyed Issue} {id : String} {fix : Fix}
    (found : (ofIssues minEvidence autoApply now issues).fixes.get? id = some fix) :
    ∃ issue ∈ issues.values, issue.id = id ∧ shownFix? minEvidence now issue = some fix := by
  revert found
  unfold ofIssues
  refine List.foldlRecOn (motive := fun planning : Planning => planning.fixes.get? id = some fix →
    ∃ issue ∈ issues.values, issue.id = id ∧ shownFix? minEvidence now issue = some fix) _ _ ?_ ?_
  · intro found
    cases found
  · intro planning shown issue present found
    rw [addIssue_fixes] at found
    split at found
    · rename_i same
      obtain own | ⟨_, other⟩ := Option.or_eq_some_iff.mp found
      · exact ⟨issue, present, same, own⟩
      · exact shown other
    · exact shown found

/-- The issues that a cycle publishes are a record again. -/
theorem ofIssues_known {issues : Keyed Issue} (known : KnownIssues issues) :
    KnownIssues (ofIssues minEvidence autoApply now issues).issues := by
  have grows : ∀ (listed : List Issue) (planning : Planning), KnownIssues planning.issues →
      KnownIssues (listed.foldl (addIssue minEvidence autoApply now) planning).issues := by
    intro listed
    induction listed with
    | nil => exact fun planning present => present
    | cons issue rest inductionHypothesis =>
        intro planning present
        refine inductionHypothesis _ ?_
        unfold addIssue
        split
        · exact present
        · split
          · exact present
          · exact present
          · exact present.modify _ fun issue => rfl
  exact grows _ _ known

/-- A cycle publishes the reviewed issues. -/
theorem ofIssues_issues {issues : Keyed Issue} (known : KnownIssues issues) :
    (ofIssues minEvidence autoApply now issues).issues =
      issues.mapValues (reviewed minEvidence now) := by
  refine Keyed.ext_get? (ofIssues_known minEvidence autoApply now known).ordered
    (Keyed.ordered_mapValues known.ordered _) fun id => ?_
  rw [ofIssues_get? minEvidence autoApply now known, Keyed.get?_mapValues]

variable {minEvidence autoApply now}

/-- A cycle applies the fix of an issue that it publishes as it stands: an open one that nobody
rejected, with a ready plan that is safe. -/
theorem automatic_origin {issues : Keyed Issue} (known : KnownIssues issues) {fix : Fix}
    (applied : fix ∈ (ofIssues minEvidence autoApply now issues).automatic) :
    autoApply = true ∧ ∃ issue validated,
      (ofIssues minEvidence autoApply now issues).issues.get? issue.id = some issue ∧
      issue.isOpen = true ∧ issue.status ≠ .rejected ∧
      Plan.ofIssue minEvidence issue .automatic now = .ready validated ∧
      validated.safe = true ∧ validated.fix = fix := by
  rw [ofIssues_automatic] at applied
  rcases List.mem_filterMap.mp applied with ⟨issue, present, chosen⟩
  have published := ofIssues_get? minEvidence autoApply now known issue.id
  rw [known.get?_id present, Option.map_some] at published
  unfold automaticFix? at chosen
  split at chosen
  · rename_i validated proposed
    split at chosen
    · rename_i allowed
      rw [Bool.and_eq_true] at allowed
      cases chosen
      have unchanged : reviewed minEvidence now issue = issue := by
        unfold reviewed
        rw [proposed]
      rw [unchanged] at published
      unfold proposal? at proposed
      split at proposed
      · cases proposed
      · rename_i considered
        simp only [Bool.or_eq_true, Bool.not_eq_true', decide_eq_true_eq, not_or,
          Bool.not_eq_false] at considered
        exact ⟨allowed.1, issue, validated, published, considered.1, considered.2,
          Option.some.inj proposed, allowed.2, rfl⟩
    · cases chosen
  · cases chosen

end SchemaDrift.Planning
