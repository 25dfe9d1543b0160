import SchemaDrift.Fix.Basic

namespace SchemaDrift

/-- Who asks for a fix to be applied. -/
inductive Approval where
  | automatic
  | manual
  deriving DecidableEq, Inhabited

/-- Why a fix is refused. -/
inductive ValidationError where
  | insufficientEvidence (kind : IssueKind) (required found : Nat)
  | invalidIdentifier (error : IdentifierError)
  | deniedKeyword (keyword : String)
  | approvalRequired
  | issueMismatch (fixId issueId : String)
  deriving DecidableEq

namespace ValidationError

def message : ValidationError → String
  | insufficientEvidence kind required found =>
    kind.code ++ " needs " ++ toString required ++ " supporting site(s), found " ++ toString found
  | invalidIdentifier error => "invalid identifier: " ++ error.message
  | deniedKeyword keyword => "DDL contains denied keyword '" ++ keyword ++ "'"
  | approvalRequired => "destructive fix requires explicit approval"
  | issueMismatch fixId issueId => "fix " ++ fixId ++ " does not belong to issue " ++ issueId

def code : ValidationError → String
  | insufficientEvidence _ _ _ => "insufficient_evidence"
  | invalidIdentifier _ => "invalid_identifier"
  | deniedKeyword _ => "denied_keyword"
  | approvalRequired => "approval_required"
  | issueMismatch _ _ => "issue_mismatch"

/-- The refusal holds for good; a missing approval only refuses the request at hand. -/
def isRejection : ValidationError → Bool
  | approvalRequired => false
  | _ => true

end ValidationError

/-- A fix that passed every check; one that only adds is safe to apply without an operator. -/
structure ValidatedFix where
  fix : Fix
  safe : Bool
  deriving DecidableEq

namespace Validation

/-- The words that no statement may hold. -/
def deniedWords : List String := ["drop", "truncate", "grant", "revoke"]

/-- The rest of a text after a word in either case. -/
def dropWord? : List Char → List Char → Option (List Char)
  | [], text => some text
  | _ :: _, [] => none
  | w :: word, c :: text => if Text.lowerChar c == [w] then dropWord? word text else none

/-- A denied word starts the text and ends where a word ends. -/
def deniedAt? (text : List Char) : Option String :=
  deniedWords.find? fun word =>
    match dropWord? word.toList text with
    | some rest => !(rest.head?.any Text.isWordPart)
    | none => false

/-- The first denied word of a text, given whether the character before the text belongs to a
word. -/
def findDenied (withinWord : Bool) : List Char → Option String
  | [] => none
  | c :: rest =>
    match if withinWord then none else deniedAt? (c :: rest) with
    | some word => some word
    | none => findDenied (Text.isWordPart c) rest

/-- The first whole word of a text that is denied, in lower case. -/
def deniedWord? (text : String) : Option String := findDenied false text.toList

def checkName (name : String) : Except ValidationError Unit :=
  match Identifier.ofName name with
  | .ok _ => .ok ()
  | .error error => .error (.invalidIdentifier error)

/-- The number of places that an issue of a kind needs before it is fixed. -/
def required (minEvidence : Nat) : IssueKind → Nat
  | .missingTable => 1
  | .missingColumn => 1
  | .typeMismatch => max 1 minEvidence
  | .missingIndex => max 1 minEvidence

/-- The checks of an issue before a statement is made for it. -/
def screen (minEvidence : Nat) (issue : Issue) : Except ValidationError Unit := do
  let needed := required minEvidence issue.kind
  if issue.evidence.count < needed then
    throw (.insufficientEvidence issue.kind needed issue.evidence.count)
  checkName issue.table
  issue.column.toList.forM checkName
  issue.expectedColumns.forM fun column => checkName column.name

/-- A fix only adds, and nobody asked for a review of it. -/
def isAdditive (fix : Fix) : Bool := fix.risk == .additive && !fix.requiresManualReview

def validate (minEvidence : Nat) (issue : Issue) (fix : Fix) (approval : Approval) :
    Except ValidationError ValidatedFix := do
  if fix.issueId != issue.id then throw (.issueMismatch fix.id issue.id)
  screen minEvidence issue
  fix.statement.identifiers.forM fun identifier => checkName identifier.name
  match deniedWord? fix.ddl with
  | some word => throw (.deniedKeyword word)
  | none => pure ()
  if !isAdditive fix && approval != .manual then throw .approvalRequired
  return ⟨fix, isAdditive fix⟩

end Validation

end SchemaDrift
