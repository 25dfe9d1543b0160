import SchemaDrift.Proofs.Issue.Known

namespace SchemaDrift

/-- The issue is as a detection builds it: pending, unresolved and seen at its own time. -/
structure Issue.Fresh (now : Moment) (issue : Issue) : Prop where
  pending : issue.status = .pending
  unresolved : issue.resolvedAt = none
  seen : issue.lastSeenAt = now

def firstDetected (detected : List Issue) (id : String) : Option Issue :=
  detected.find? fun fresh => fresh.id == id

def lastDetected (detected : List Issue) (id : String) : Option Issue :=
  detected.reverse.find? fun fresh => fresh.id == id

/-- The issue that detections continue: the known one, or else the first that was detected. -/
def continued (previous : Keyed Issue) (detected : List Issue) (id : String) : Option Issue :=
  (previous.get? id).or (firstDetected detected id)

/-- What a detection at a time makes of an issue: it is open and has the data of the detection, and
its past decides its station. -/
structure Issue.Redetected (issue before last : Issue) (now : Moment) : Prop where
  isOpen : issue.isOpen = true
  kind : issue.kind = before.kind
  table : issue.table = before.table
  column : issue.column = before.column
  detectedAt : issue.detectedAt = before.detectedAt
  rejected : before.status = .rejected → before.resolvedAt = none →
    issue.status = .rejected ∧ issue.rejectionReason = before.rejectionReason
  reopened : before.status = .applied ∨ before.resolvedAt ≠ none → issue.status = .pending
  kept : before.status ≠ .applied → before.resolvedAt = none → issue.status = before.status
  seen : issue.lastSeenAt = now
  evidence : issue.evidence = last.evidence
  expected : issue.expected = last.expected
  actual : issue.actual = last.actual
  expectedType : issue.expectedType = last.expectedType
  actualType : issue.actualType = last.actualType
  expectedColumns : issue.expectedColumns = last.expectedColumns

namespace Issue

variable {now : Moment}

theorem isOpen_iff (issue : Issue) :
    issue.isOpen = true ↔ issue.resolvedAt = none ∧ issue.status ≠ .applied := by
  simp [isOpen]

theorem Fresh.isOpen {issue : Issue} (fresh : issue.Fresh now) : issue.isOpen = true := by
  rw [isOpen_iff, fresh.pending]
  exact ⟨fresh.unresolved, by decide⟩

/-- A detection is taken over by the known issue, which opens first if it is closed. -/
theorem detectAgain_eq (known fresh : Issue) (now : Moment) :
    known.detectAgain fresh now =
      (if known.isOpen = true then known else known.reopen now).refresh fresh now := by
  unfold detectAgain
  by_cases unresolved : known.resolvedAt = none <;> by_cases applied : known.status = .applied <;>
    simp [isOpen_iff, unresolved, applied, Option.isSome_iff_ne_none]

theorem isOpen_detectAgain (known fresh : Issue) (now : Moment) :
    (known.detectAgain fresh now).isOpen = true := by
  rw [detectAgain_eq]
  split
  · assumption
  · rfl

/-- Of two detections of a known issue only the second is seen. -/
theorem detectAgain_detectAgain (known first second : Issue) (now : Moment) :
    (known.detectAgain first now).detectAgain second now = known.detectAgain second now := by
  rw [detectAgain_eq _ second, if_pos (isOpen_detectAgain known first now)]
  rw [detectAgain_eq, detectAgain_eq, refresh, refresh, refresh]

/-- A fresh issue has taken its own detection over. -/
theorem Fresh.detectAgain_self {issue : Issue} (fresh : issue.Fresh now) :
    issue.detectAgain issue now = issue := by
  rw [detectAgain_eq, if_pos fresh.isOpen, refresh, ← fresh.seen]

/-- The station of an issue that was detected again is its own if it was open. -/
theorem status_detectAgain (known fresh : Issue) (now : Moment) :
    (known.detectAgain fresh now).status =
      if known.isOpen = true then known.status else .pending := by
  rw [detectAgain_eq]
  split <;> rfl

theorem redetected_detectAgain (known fresh : Issue) (now : Moment) :
    (known.detectAgain fresh now).Redetected known fresh now where
  isOpen := isOpen_detectAgain known fresh now
  kind := by rw [detectAgain_eq]; split <;> rfl
  table := by rw [detectAgain_eq]; split <;> rfl
  column := by rw [detectAgain_eq]; split <;> rfl
  detectedAt := by rw [detectAgain_eq]; split <;> rfl
  rejected rejected unresolved := by
    have isOpen : known.isOpen = true := (isOpen_iff known).mpr ⟨unresolved, by rw [rejected]; decide⟩
    rw [detectAgain_eq, if_pos isOpen]
    exact ⟨rejected, rfl⟩
  reopened closed := by
    rw [status_detectAgain, if_neg]
    intro isOpen
    obtain ⟨unresolved, unapplied⟩ := (isOpen_iff known).mp isOpen
    exact closed.elim unapplied fun resolved => resolved unresolved
  kept unapplied unresolved := by
    rw [status_detectAgain, if_pos ((isOpen_iff known).mpr ⟨unresolved, unapplied⟩)]
  seen := by rw [detectAgain_eq]; rfl
  evidence := by rw [detectAgain_eq]; rfl
  expected := by rw [detectAgain_eq]; rfl
  actual := by rw [detectAgain_eq]; rfl
  expectedType := by rw [detectAgain_eq]; rfl
  actualType := by rw [detectAgain_eq]; rfl
  expectedColumns := by rw [detectAgain_eq]; rfl

/-- An issue that a cycle did not detect is resolved from then on, or stays resolved. -/
theorem resolve_eq (now : Moment) (issue : Issue) :
    issue.resolve now = { issue with resolvedAt := some (issue.resolvedAt.getD now) } := by
  unfold resolve
  split
  · rename_i unresolved
    rw [Option.isNone_iff_eq_none.mp unresolved]
    rfl
  · rename_i resolved
    rw [Bool.not_eq_true, Option.isNone_eq_false_iff, Option.isSome_iff_exists] at resolved
    obtain ⟨moment, found⟩ := resolved
    rw [found, Option.getD_some, ← found]

/-- An issue that was resolved is closed. -/
theorem isOpen_resolve (now : Moment) (issue : Issue) : (issue.resolve now).isOpen = false := by
  rw [resolve_eq]
  rfl

end Issue

/-- The last detection of an issue is the last of the later ones, or else the first. -/
theorem lastDetected_cons (fresh : Issue) (rest : List Issue) (id : String) :
    lastDetected (fresh :: rest) id =
      (lastDetected rest id).or (if fresh.id = id then some fresh else none) := by
  by_cases same : fresh.id = id <;> simp [lastDetected, List.find?_append, same]

/-- The first detection of an issue is the first of all, or else the first of the later ones. -/
theorem firstDetected_cons (fresh : Issue) (rest : List Issue) (id : String) :
    firstDetected (fresh :: rest) id =
      if fresh.id = id then some fresh else firstDetected rest id := by
  by_cases same : fresh.id = id <;> simp [firstDetected, same]

/-- There is a last detection of an issue when its identity was detected. -/
theorem isSome_lastDetected (detected : List Issue) (id : String) :
    (lastDetected detected id).isSome = true ↔ ∃ fresh ∈ detected, fresh.id = id := by
  simp [lastDetected]

theorem exists_continued (previous : Keyed Issue) {detected : List Issue} {id : String}
    {last : Issue} (found : lastDetected detected id = some last) :
    ∃ before, continued previous detected id = some before := by
  have first : (firstDetected detected id).isSome = (lastDetected detected id).isSome := by
    rw [Bool.eq_iff_iff]
    simp [firstDetected, lastDetected]
  rw [found, Option.isSome_some] at first
  rw [← Option.isSome_iff_exists, continued, Option.isSome_or, first, Bool.or_true]

variable {previous : Keyed Issue} {detected : List Issue} {now : Moment}

/-- A detection is seen under its own identity only. -/
theorem get?_mergeIssue (known : Keyed Issue) {fresh : Issue} (new : fresh.Fresh now)
    (id : String) : (mergeIssue now known fresh).get? id =
      if fresh.id = id then some (((known.get? id).getD fresh).detectAgain fresh now)
      else known.get? id := by
  unfold mergeIssue
  split
  · rename_i absent
    rw [Keyed.get?_insert]
    split
    · rename_i same
      rw [← same, absent, Option.getD_none, new.detectAgain_self]
    · rfl
  · rename_i issue found
    rw [Keyed.get?_insert]
    split
    · rename_i same
      rw [← same, found, Option.getD_some]
    · rfl

/-- After all detections an issue is the one they continue with the data of the last of them. -/
theorem get?_mergeAll (known : Keyed Issue) (fresh : ∀ issue ∈ detected, issue.Fresh now)
    (id : String) : (detected.foldl (mergeIssue now) known).get? id =
      match lastDetected detected id with
      | none => known.get? id
      | some last => (continued known detected id).map (·.detectAgain last now) := by
  induction detected generalizing known with
  | nil => rfl
  | cons head rest inductionHypothesis =>
      have new := fresh head List.mem_cons_self
      rw [List.foldl_cons, inductionHypothesis _ fun issue present =>
        fresh issue (List.mem_cons_of_mem _ present)]
      rw [continued, continued, get?_mergeIssue known new, lastDetected_cons, firstDetected_cons]
      by_cases same : head.id = id
      · -- The head was taken over first; a later detection leaves nothing of it to be seen.
        have base : (known.get? id).or (some head) = some ((known.get? id).getD head) := by
          cases known.get? id <;> rfl
        simp only [same, if_true, base]
        cases lastDetected rest id with
        | none => rfl
        | some last => exact congrArg some (Issue.detectAgain_detectAgain _ head last now)
      · simp only [same, if_false, Option.or_none]

/-- After a cycle an issue that it detected has the data of the last detection, and every other is
resolved. -/
theorem get?_reconcile (known : KnownIssues previous)
    (fresh : ∀ issue ∈ detected, issue.Fresh now) (id : String) :
    (reconcile previous detected now).get? id =
      match lastDetected detected id with
      | none => (previous.get? id).map (Issue.resolve now)
      | some last => (continued previous detected id).map (·.detectAgain last now) := by
  have merged := get?_mergeAll previous fresh id
  have named : ∀ {issue}, (detected.foldl (mergeIssue now) previous).get? id = some issue →
      (detected.any (fun fresh => fresh.id == issue.id) = true ↔
        (lastDetected detected id).isSome = true) := by
    intro issue found
    rw [(known.mergeAll detected now).named found, isSome_lastDetected]
    simp
  rw [reconcile, Keyed.get?_mapValues]
  cases last : lastDetected detected id with
  | none =>
      simp only [last] at merged ⊢
      rw [merged]
      cases found : previous.get? id with
      | none => rfl
      | some issue =>
          rw [Option.map_some, Option.map_some, if_neg]
          rw [named (merged.trans found), last]
          exact Bool.false_ne_true
  | some fresh =>
      simp only [last] at merged ⊢
      rw [merged]
      cases base : continued previous detected id with
      | none => rfl
      | some issue =>
          rw [base, Option.map_some] at merged
          rw [Option.map_some, Option.map_some, if_pos ((named merged).mpr (by rw [last]; rfl))]

/-- What is open after a cycle was detected by it. -/
theorem detected_of_isOpen (known : KnownIssues previous) {id : String} {issue : Issue}
    (found : (reconcile previous detected now).get? id = some issue) (isOpen : issue.isOpen = true) :
    ∃ fresh ∈ detected, fresh.id = id := by
  rw [reconcile, Keyed.get?_mapValues] at found
  obtain ⟨base, present, same⟩ := Option.map_eq_some_iff.mp found
  split at same
  · rename_i seen
    obtain ⟨fresh, listed, named⟩ := List.any_eq_true.mp seen
    rw [(known.mergeAll detected now).named present, beq_iff_eq] at named
    exact ⟨fresh, listed, named⟩
  · rw [← same, Issue.isOpen_resolve] at isOpen
    cases isOpen

/-- What a cycle makes of a record of issues: those detected are open and tell of their last
detection, the others are resolved, and none is lost. -/
structure Reconciled (now : Moment) (previous : Keyed Issue) (detected : List Issue)
    (result : Keyed Issue) : Prop where
  known : KnownIssues result
  identities : ∀ id, (result.get? id).isSome = true ↔
    (previous.get? id).isSome = true ∨ ∃ fresh ∈ detected, fresh.id = id
  isOpen_iff : ∀ id, (∃ issue, result.get? id = some issue ∧ issue.isOpen = true) ↔
    ∃ fresh ∈ detected, fresh.id = id
  redetected : ∀ {id before last}, continued previous detected id = some before →
    lastDetected detected id = some last →
    ∃ issue, result.get? id = some issue ∧ issue.Redetected before last now
  undetected : ∀ {id before}, previous.get? id = some before → lastDetected detected id = none →
    result.get? id = some { before with resolvedAt := some (before.resolvedAt.getD now) }

/-- A cycle reconciles the record with its detections. -/
theorem reconciled (known : KnownIssues previous)
    (fresh : ∀ issue ∈ detected, issue.Fresh now) :
    Reconciled now previous detected (reconcile previous detected now) where
  known := known.reconcile detected now
  identities id := by
    rw [get?_reconcile known fresh, ← isSome_lastDetected]
    cases last : lastDetected detected id with
    | none => simp
    | some issue =>
        obtain ⟨before, base⟩ := exists_continued previous last
        simp [base]
  isOpen_iff id := by
    rw [get?_reconcile known fresh, ← isSome_lastDetected]
    cases last : lastDetected detected id with
    | none =>
        simp only [Option.isSome_none, Bool.false_eq_true, iff_false]
        intro ⟨issue, found, isOpen⟩
        obtain ⟨before, _, same⟩ := Option.map_eq_some_iff.mp found
        rw [← same, Issue.isOpen_resolve] at isOpen
        exact Bool.false_ne_true isOpen
    | some issue =>
        obtain ⟨before, base⟩ := exists_continued previous last
        simp [base, Issue.isOpen_detectAgain]
  redetected {id before last} base found := by
    refine ⟨before.detectAgain last now, ?_, Issue.redetected_detectAgain before last now⟩
    rw [get?_reconcile known fresh, found, base]
    rfl
  undetected {id before} found absent := by
    rw [get?_reconcile known fresh, absent, found]
    exact congrArg some (Issue.resolve_eq now before)

/-- A missing table under an identity of its own, at a station and seen a number of times. -/
def tableIssue (table : String) (status : IssueStatus) (count : Nat) (now : Moment) : Issue :=
  { Issue.detected .missingTable table none ⟨count, [], "referenced"⟩ now with
    id := table
    status := status
    rejectionReason := if status = .rejected then some "not wanted" else none }

/-- Of an applied, a rejected and a pending issue the first two are detected again, one of them
twice, with a new one beside them. -/
theorem reconciled_tables :
    let previous := Keyed.ofList ([tableIssue "items" .applied 1 ⟨1, 0, 0⟩,
      tableIssue "orders" .rejected 1 ⟨1, 0, 0⟩,
      tableIssue "users" .pending 1 ⟨1, 0, 0⟩].map fun issue => (issue.id, issue))
    let detected := [tableIssue "orders" .pending 2 ⟨2, 0, 0⟩,
      tableIssue "items" .pending 3 ⟨2, 0, 0⟩, tableIssue "tags" .pending 4 ⟨2, 0, 0⟩,
      tableIssue "orders" .pending 5 ⟨2, 0, 0⟩]
    let result := reconcile previous detected ⟨2, 0, 0⟩
    KnownIssues previous ∧ (∀ issue ∈ detected, issue.Fresh ⟨2, 0, 0⟩) ∧
      Reconciled ⟨2, 0, 0⟩ previous detected result ∧
      (result.values.map fun issue => (issue.id, issue.status, issue.isOpen, issue.evidence.count)) =
        [("items", .pending, true, 3), ("orders", .rejected, true, 5), ("tags", .pending, true, 4),
          ("users", .pending, false, 1)] := by
  intro previous detected result
  have known : KnownIssues previous := KnownIssues.ofList _
  have fresh : ∀ issue ∈ detected, issue.Fresh ⟨2, 0, 0⟩ := by
    intro issue present
    simp only [detected, List.mem_cons, List.not_mem_nil, or_false] at present
    obtain rfl | rfl | rfl | rfl := present <;> exact ⟨rfl, rfl, rfl⟩
  exact ⟨known, fresh, reconciled known fresh, by decide⟩

/-- What was resolved at a time is resolved already when it is to be resolved then again. -/
theorem Issue.resolve_resolve (now : Moment) (issue : Issue) :
    (issue.resolve now).resolve now = issue.resolve now := by
  rw [resolve_eq, resolve_eq, Option.getD_some]

theorem continued_of_get? {id : String} {issue : Issue} (found : previous.get? id = some issue) :
    continued previous detected id = some issue := by
  rw [continued, found, Option.some_or]

/-- A cycle that is reconciled once more with the detections it had changes nothing. -/
theorem reconcile_reconcile (known : KnownIssues previous)
    (fresh : ∀ issue ∈ detected, issue.Fresh now) :
    reconcile (reconcile previous detected now) detected now = reconcile previous detected now := by
  have once := known.reconcile detected now
  apply Keyed.ext_get? (once.reconcile detected now).ordered once.ordered
  intro id
  have before := get?_reconcile known fresh id
  have again := get?_reconcile once fresh id
  cases last : lastDetected detected id with
  | none =>
      simp only [last] at before again
      rw [again, before]
      cases previous.get? id with
      | none => rfl
      | some issue => exact congrArg some (Issue.resolve_resolve now issue)
  | some latest =>
      simp only [last] at before again
      obtain ⟨base, continues⟩ := exists_continued previous last
      rw [continues, Option.map_some] at before
      -- The second run finds the issue as the first one left it, so it refreshes what it refreshed.
      rw [again, continued_of_get? before, before, Option.map_some]
      rw [Issue.detectAgain_detectAgain]

/-- Of an applied, a resolved and an open issue the first is detected twice and the last not at
all, with a new one beside them: the first run changes each of them, and the second none. -/
theorem reconcile_reconcile_tables :
    let previous := Keyed.ofList ([tableIssue "items" .applied 1 ⟨1, 0, 0⟩,
      (tableIssue "orders" .rejected 1 ⟨1, 0, 0⟩).resolve ⟨1, 0, 0⟩,
      tableIssue "users" .approved 1 ⟨1, 0, 0⟩].map fun issue => (issue.id, issue))
    let detected := [tableIssue "items" .pending 2 ⟨2, 0, 0⟩,
      tableIssue "orders" .pending 3 ⟨2, 0, 0⟩, tableIssue "tags" .pending 4 ⟨2, 0, 0⟩,
      tableIssue "items" .pending 5 ⟨2, 0, 0⟩]
    let result := reconcile previous detected ⟨2, 0, 0⟩
    KnownIssues previous ∧ (∀ issue ∈ detected, issue.Fresh ⟨2, 0, 0⟩) ∧
      reconcile result detected ⟨2, 0, 0⟩ = result ∧
      (result.values.map fun issue => (issue.id, issue.status, issue.resolvedAt,
        issue.evidence.count)) =
        [("items", .pending, none, 5), ("orders", .pending, none, 3), ("tags", .pending, none, 4),
          ("users", .approved, some ⟨2, 0, 0⟩, 1)] := by
  intro previous detected result
  have known : KnownIssues previous := KnownIssues.ofList _
  have fresh : ∀ issue ∈ detected, issue.Fresh ⟨2, 0, 0⟩ := by
    intro issue present
    simp only [detected, List.mem_cons, List.not_mem_nil, or_false] at present
    obtain rfl | rfl | rfl | rfl := present <;> exact ⟨rfl, rfl, rfl⟩
  exact ⟨known, fresh, reconcile_reconcile known fresh, by decide⟩

end SchemaDrift
