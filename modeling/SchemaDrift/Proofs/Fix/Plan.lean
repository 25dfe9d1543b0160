import SchemaDrift.Fix.Plan
import SchemaDrift.Proofs.Fix.Denylist
import SchemaDrift.Proofs.Result

namespace SchemaDrift

/-- A check that a name is an identifier passes exactly for valid names. -/
theorem Validation.checkName_ok_iff (name : String) :
    Validation.checkName name = .ok () ↔ isValidName name = true := by
  unfold Validation.checkName Identifier.ofName
  by_cases valid : isValidName name = true <;> simp [valid]

namespace Validation

/-- The screen passes an issue that has the evidence its kind needs and only valid names. -/
theorem screen_ok_iff (minEvidence : Nat) (issue : Issue) :
    screen minEvidence issue = .ok () ↔
      required minEvidence issue.kind ≤ issue.evidence.count ∧
      isValidName issue.table = true ∧
      (∀ column ∈ issue.column, isValidName column = true) ∧
      ∀ column ∈ issue.expectedColumns, isValidName column.name = true := by
  unfold screen
  by_cases few : issue.evidence.count < required minEvidence issue.kind
  · simp [few, Nat.not_le.mpr few, Result.bind_ok_iff, Result.throw_ok_iff]
  · have column : (∀ column ∈ issue.column, isValidName column = true) ↔
        forM issue.column.toList checkName = .ok () := by
      simp [Result.forM_ok_iff, checkName_ok_iff]
    have others : (∀ column ∈ issue.expectedColumns, isValidName column.name = true) ↔
        forM issue.expectedColumns (fun column => checkName column.name) = .ok () := by
      simp [Result.forM_ok_iff, checkName_ok_iff]
    rw [column, others, ← checkName_ok_iff]
    simp [few, Nat.not_lt.mp few, Result.check_bind_ok_iff]

/-- A fix by a statement only adds when the statement does and the issue counts as additive. -/
theorem isAdditive_ofStatement (issue : Issue) (statement : DdlStatement) (now : Moment) :
    isAdditive (Fix.ofStatement issue statement now) = true ↔
      statement.isDestructive = false ∧ issue.risk = .additive := by
  unfold isAdditive Fix.ofStatement Fix.riskOf
  cases statement.isDestructive <;> cases issue.risk <;> simp

/-- The names of a statement pass the check, since a statement holds valid names only. -/
theorem identifiers_checked (statement : DdlStatement) :
    statement.identifiers.forM (fun identifier => checkName identifier.name) = .ok () := by
  rw [List.forM_eq_forM, Result.forM_ok_iff]
  intro identifier _
  exact (checkName_ok_iff identifier.name).mpr identifier.valid

/-- For a screened issue the checks of the fix made for it come down to the denied words and the
approval. -/
theorem validate_ofStatement {minEvidence : Nat} {issue : Issue}
    (screened : screen minEvidence issue = .ok ()) (statement : DdlStatement) (approval : Approval)
    (now : Moment) :
    validate minEvidence issue (Fix.ofStatement issue statement now) approval =
      match deniedWord? statement.toDdl with
      | some word => .error (.deniedKeyword word)
      | none =>
        if isAdditive (Fix.ofStatement issue statement now) = true ∨ approval = .manual then
          .ok ⟨Fix.ofStatement issue statement now,
            isAdditive (Fix.ofStatement issue statement now)⟩
        else .error .approvalRequired := by
  have named : (Fix.ofStatement issue statement now).statement.identifiers.forM
      (fun identifier => checkName identifier.name) = .ok () := identifiers_checked statement
  have text : (Fix.ofStatement issue statement now).ddl = statement.toDdl := rfl
  have owner : (Fix.ofStatement issue statement now).issueId = issue.id := rfl
  unfold validate
  simp only [owner, bne_self_eq_false, Bool.false_eq_true, if_false, screened, named, text]
  cases deniedWord? statement.toDdl with
  | some word => rfl
  | none =>
      cases isAdditive (Fix.ofStatement issue statement now) <;> cases approval <;> rfl

end Validation

/-- An issue has a fix that is ready exactly when it passes the screen, a statement can be made for
it that holds no denied word, and the fix only adds or an operator approved it. -/
theorem Plan.ofIssue_ready_iff (minEvidence : Nat) (issue : Issue) (approval : Approval)
    (now : Moment) (validated : ValidatedFix) :
    Plan.ofIssue minEvidence issue approval now = .ready validated ↔
      Validation.screen minEvidence issue = .ok () ∧
      ∃ statement, DdlStatement.ofIssue issue = .ok statement ∧
        Validation.deniedWord? statement.toDdl = none ∧
        validated = ⟨Fix.ofStatement issue statement now,
          Validation.isAdditive (Fix.ofStatement issue statement now)⟩ ∧
        (validated.safe = true ∨ approval = .manual) := by
  unfold Plan.ofIssue Fix.ofIssue
  cases screened : Validation.screen minEvidence issue with
  | error error => simp
  | ok passed =>
      cases made : DdlStatement.ofIssue issue with
      | error error => simp [bind, Except.bind]
      | ok statement =>
          simp only [bind, Except.bind, pure, Except.pure,
            Validation.validate_ofStatement screened]
          cases denied : Validation.deniedWord? statement.toDdl with
          | some word => simp [denied]
          | none =>
              by_cases allowed : Validation.isAdditive (Fix.ofStatement issue statement now) = true ∨
                  approval = .manual
              · simp only [allowed, if_true, Plan.ready.injEq, true_and]
                constructor
                · rintro rfl
                  exact ⟨statement, rfl, denied, rfl, allowed⟩
                · rintro ⟨other, same, _, rfl, _⟩
                  cases same
                  rfl
              · simp only [allowed, if_false, reduceCtorEq, true_and, false_iff]
                rintro ⟨other, same, _, rfl, approved⟩
                cases same
                exact allowed approved

end SchemaDrift
