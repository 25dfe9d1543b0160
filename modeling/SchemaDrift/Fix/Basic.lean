import SchemaDrift.Ddl.Basic
import SchemaDrift.Issue.Basic

namespace SchemaDrift

/-- A statement proposed for one issue, with its text, its undoing and its reasons. -/
structure Fix where
  id : String
  issueId : String
  table : String
  statement : DdlStatement
  ddl : String
  preview : String
  justification : String
  rollback : Option String
  risk : Risk
  requiresManualReview : Bool
  evidenceCount : Nat
  createdAt : Moment
  deriving DecidableEq

/-- The record of one attempt to apply a fix. -/
structure FixExecution where
  id : String
  fixId : String
  issueId : String
  table : String
  ddl : String
  appliedAt : Moment
  durationMillis : Nat
  success : Bool
  rollback : Option String
  errorMessage : Option String
  deriving DecidableEq, Inhabited

namespace Fix

/-- The identity of a fix: the same text for the same issue has it always. -/
def idOf (issueId ddl : String) : String :=
  "fix_" ++ Digest.shortHash 16 (issueId.toList ++ Char.ofNat 0 :: ddl.toList)

/-- The risk of a fix is that of its issue, unless the statement changes data. -/
def riskOf (issue : Issue) (statement : DdlStatement) : Risk :=
  if statement.isDestructive then .destructive else issue.risk

def ofStatement (issue : Issue) (statement : DdlStatement) (now : Moment) : Fix where
  id := idOf issue.id statement.toDdl
  issueId := issue.id
  table := issue.table
  statement := statement
  ddl := statement.toDdl
  preview := statement.toDdl
  justification := issue.justification
  rollback := statement.compensating
  risk := riskOf issue statement
  requiresManualReview := riskOf issue statement == .destructive
  evidenceCount := issue.evidence.count
  createdAt := now

end Fix

namespace FixExecution

/-- The record of an attempt that succeeded when it has no error. -/
def record (id : String) (fix : Fix) (appliedAt : Moment) (durationMillis : Nat)
    (error : Option String) : FixExecution where
  id := id
  fixId := fix.id
  issueId := fix.issueId
  table := fix.table
  ddl := fix.ddl
  appliedAt := appliedAt
  durationMillis := durationMillis
  success := error.isNone
  rollback := fix.rollback
  errorMessage := error

end FixExecution

end SchemaDrift
