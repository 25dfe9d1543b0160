import SchemaDrift.Digest.Sha256
import SchemaDrift.Location
import SchemaDrift.LogicalType.Spelling
import SchemaDrift.Time.Moment

namespace SchemaDrift

inductive IssueKind where
  | missingTable
  | missingColumn
  | typeMismatch
  | missingIndex
  deriving DecidableEq, Inhabited

/-- The risk of a correction: it only adds, or it changes what is there. -/
inductive Risk where
  | additive
  | destructive
  deriving DecidableEq, Inhabited

inductive IssueStatus where
  | pending
  | approved
  | applied
  | rejected
  deriving DecidableEq, Inhabited

def IssueKind.code : IssueKind → String
  | missingTable => "MISSING_TABLE"
  | missingColumn => "MISSING_COLUMN"
  | typeMismatch => "TYPE_MISMATCH"
  | missingIndex => "MISSING_INDEX"

/-- The risk of correcting a difference of a kind. -/
def IssueKind.risk : IssueKind → Risk
  | typeMismatch => .destructive
  | _ => .additive

def Risk.code : Risk → String
  | additive => "ADDITIVE"
  | destructive => "DESTRUCTIVE"

def IssueStatus.name : IssueStatus → String
  | pending => "pending"
  | approved => "approved"
  | applied => "applied"
  | rejected => "rejected"

/-- The call sites behind an issue: their number, a sample of them, and a line about them. -/
structure Evidence where
  count : Nat
  sites : List Location
  summary : String
  deriving DecidableEq, Inhabited

/-- The greatest number of sites in a sample. -/
def maxEvidenceSites : Nat := 5

/-- The evidence of a number of sites, with the first few as its sample. -/
def Evidence.ofSites (count : Nat) (sites : List Location) (summary : String) : Evidence :=
  ⟨count, sites.take maxEvidenceSites, summary⟩

/-- A column that code expects on a missing table; the type is missing when little speaks for
one. -/
structure ExpectedColumn where
  name : String
  type : Option LogicalType
  deriving DecidableEq, Inhabited

/-- One recorded difference. -/
structure Issue where
  id : String
  kind : IssueKind
  table : String
  column : Option String
  detectedAt : Moment
  lastSeenAt : Moment
  resolvedAt : Option Moment
  evidence : Evidence
  expected : Option String
  actual : Option String
  expectedType : Option LogicalType
  actualType : Option LogicalType
  expectedColumns : List ExpectedColumn
  risk : Risk
  status : IssueStatus
  rejectionReason : Option String
  lastError : Option String
  deriving DecidableEq, Inhabited

namespace Issue

/-- The characters that identify a difference: its kind, its table and its column, with a zero
character between them. -/
def keyChars (kind : IssueKind) (table : String) (column : Option String) : List Char :=
  kind.code.toList ++ Char.ofNat 0 :: table.toList ++ Char.ofNat 0 :: (column.getD "").toList

/-- The identity of a difference: the same difference has it in every cycle. -/
def idOf (kind : IssueKind) (table : String) (column : Option String) : String :=
  "iss_" ++ Digest.shortHash 16 (keyChars kind table column)

/-- A new pending issue. -/
def detected (kind : IssueKind) (table : String) (column : Option String) (evidence : Evidence)
    (now : Moment) : Issue where
  id := idOf kind table column
  kind := kind
  table := table
  column := column
  detectedAt := now
  lastSeenAt := now
  resolvedAt := none
  evidence := evidence
  expected := none
  actual := none
  expectedType := none
  actualType := none
  expectedColumns := []
  risk := kind.risk
  status := .pending
  rejectionReason := none
  lastError := none

/-- The issue is neither resolved nor applied. -/
def isOpen (issue : Issue) : Bool := issue.resolvedAt.isNone && issue.status != .applied

/-- The table, with the column after a point. -/
def target (issue : Issue) : String :=
  match issue.column with
  | some column => issue.table ++ "." ++ column
  | none => issue.table

def comparisonText (issue : Issue) : String :=
  match issue.expected, issue.actual with
  | some expected, some actual => " (expected " ++ expected ++ ", found " ++ actual ++ ")"
  | some expected, none => " (expected " ++ expected ++ ")"
  | none, _ => ""

/-- The difference in words. -/
def headline (issue : Issue) : String :=
  match issue.kind with
  | .missingTable => "Table '" ++ issue.table ++ "' is referenced in code but does not exist"
  | .missingColumn => "Column '" ++ issue.target ++ "' is used in code but does not exist"
  | .typeMismatch =>
    "Column '" ++ issue.target ++ "' is used as a more specific type than declared"
  | .missingIndex =>
    "Column '" ++ issue.target ++ "' is filtered by equality without an index"

/-- The sample of call sites in a justification. -/
def sitesText (issue : Issue) : String :=
  if issue.evidence.sites.isEmpty then ""
  else "; e.g. " ++ Text.joinStrings ", " (issue.evidence.sites.map (·.display))

/-- Why the issue is one, for operators. -/
def justification (issue : Issue) : String :=
  issue.headline ++ issue.comparisonText ++ ". Evidence: " ++ toString issue.evidence.count ++
    " call site(s)" ++ issue.sitesText

/-- The issue after its correction was refused. -/
def markRejected (reason : String) (issue : Issue) : Issue :=
  { issue with status := .rejected, rejectionReason := some reason }

/-- The issue after its correction was applied. -/
def markApplied (issue : Issue) : Issue := { issue with status := .applied, lastError := none }

/-- The issue after its correction failed. -/
def markFailed (error : String) (issue : Issue) : Issue :=
  { issue with status := .pending, lastError := some error }

/-- The issue after an operator approved its correction. -/
def markApproved (issue : Issue) : Issue := { issue with status := .approved }

/-- The issue after it was detected again although it was resolved or applied. -/
def reopen (now : Moment) (issue : Issue) : Issue :=
  { issue with status := .pending, resolvedAt := none, rejectionReason := none, lastSeenAt := now }

end Issue

end SchemaDrift
