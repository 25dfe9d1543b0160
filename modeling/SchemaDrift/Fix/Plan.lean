import SchemaDrift.Fix.Synthesis
import SchemaDrift.Fix.Validation

namespace SchemaDrift

/-- Why there is no fix for an issue. -/
inductive PlanError where
  | validation (error : ValidationError)
  | synthesis (error : SynthesisError)
  deriving DecidableEq

def PlanError.message : PlanError → String
  | validation error => error.message
  | synthesis error => error.message

/-- What is to be done about an issue. -/
inductive Plan where
  | ready (fix : ValidatedFix)
  | needsApproval (fix : Fix)
  | rejected (error : PlanError)
  deriving DecidableEq

def Plan.ofIssue (minEvidence : Nat) (issue : Issue) (approval : Approval) (now : Moment) : Plan :=
  match Validation.screen minEvidence issue with
  | .error error => .rejected (.validation error)
  | .ok () =>
    match Fix.ofIssue issue now with
    | .error error => .rejected (.synthesis error)
    | .ok fix =>
      match Validation.validate minEvidence issue fix approval with
      | .ok validated => .ready validated
      | .error .approvalRequired => .needsApproval fix
      | .error error => .rejected (.validation error)

/-- The fix that is shown for an issue; nothing is checked but the issue itself. -/
def Plan.preview (minEvidence : Nat) (issue : Issue) (now : Moment) : Except PlanError Fix :=
  match Validation.screen minEvidence issue with
  | .error error => .error (.validation error)
  | .ok () => (Fix.ofIssue issue now).mapError .synthesis

end SchemaDrift
