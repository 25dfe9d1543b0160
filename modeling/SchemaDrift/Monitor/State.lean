import SchemaDrift.Catalog.Introspection
import SchemaDrift.Fix.Plan
import SchemaDrift.Issue.Detection
import SchemaDrift.Issue.Reconciliation
import SchemaDrift.Report
import SchemaDrift.Scan.Tree
import SchemaDrift.Store.Basic

namespace SchemaDrift

/-- Where a monitor is in its cycle. -/
inductive Phase where
  | idle
  | scanning
  | analyzing
  | healthy
  | issuesFound
  deriving DecidableEq, Inhabited

def Phase.name : Phase → String
  | idle => "IDLE"
  | scanning => "SCANNING"
  | analyzing => "ANALYZING"
  | healthy => "HEALTHY"
  | issuesFound => "ISSUES_FOUND"

def Phase.ofOutcome : CycleOutcome → Phase
  | .healthy => .healthy
  | .issuesFound => .issuesFound

/-- Why a cycle fails. -/
inductive CycleError where
  | scan (error : ScanError)
  | introspection (error : IntrospectionError)
  | store (error : StoreError)
  | alreadyRunning (cycle : String)
  | cancelled
  | crashed
  deriving DecidableEq, Inhabited

def CycleError.message : CycleError → String
  | scan error => "scan failed: " ++ error.message
  | introspection error => "introspection failed: " ++ error.message
  | store error => "failed to persist issues: " ++ error.message
  | alreadyRunning cycle => "cycle " ++ cycle ++ " is already running"
  | cancelled => "cycle cancelled"
  | crashed => "cycle task failed: a source could not be read to its end"

def CycleError.kind : CycleError → String
  | scan error => "Scan." ++ error.kind
  | introspection error => "Introspection." ++ error.kind
  | store _ => "Store"
  | alreadyRunning _ => "AlreadyRunning"
  | cancelled => "Cancelled"
  | crashed => "Task"

/-- Why an operator's request is refused. -/
inductive MonitorError where
  | issueNotFound (id : String)
  | issueClosed (id state : String)
  | plan (error : PlanError)
  | store (error : StoreError)
  | paused (failures : Nat)
  deriving DecidableEq

def MonitorError.message : MonitorError → String
  | issueNotFound id => "issue " ++ id ++ " not found"
  | issueClosed id state => "issue " ++ id ++ " is " ++ state
  | plan error => error.message
  | store error => error.message
  | paused failures =>
    "monitor paused after " ++ toString failures ++ " consecutive failed cycles"

def MonitorError.kind : MonitorError → String
  | issueNotFound _ => "IssueNotFound"
  | issueClosed _ _ => "IssueClosed"
  | plan (.validation error) => "Validation." ++ error.code
  | plan (.synthesis _) => "Synthesis"
  | store _ => "Store"
  | paused _ => "Paused"

/-- A monitor. What a cycle finds out is published in one step: `issues` to `lastReport`. `running`
is the cycle in flight, `applying` the number of fixes under way, and `stopped` cancels every
cycle. The failures in a row are counted in 32 bits. -/
structure Monitor where
  settings : Settings
  phase : Phase
  outcome : Option CycleOutcome
  issues : Keyed Issue
  fixes : Keyed Fix
  snapshot : Option Snapshot
  lastCycleAt : Option Moment
  lastCycleId : Option String
  lastError : Option String
  lastReport : Option CycleReport
  autoApply : Bool
  paused : Bool
  failureCount : UInt32
  applying : Nat
  running : Option String
  stopped : Bool

/-- The answer to a request for a cycle: the cycle that will find out, which may have been in flight
already. -/
structure ScanTicket where
  cycleId : String
  alreadyRunning : Bool
  deriving DecidableEq, Inhabited

/-- An issue as operators see it. -/
structure IssueView where
  issue : Issue
  preview : Option String
  deriving DecidableEq

namespace Monitor

/-- A monitor that starts with issues known from earlier. -/
def ofIssues (settings : Settings) (issues : List Issue) : Monitor where
  settings := settings
  phase := .idle
  outcome := none
  issues := .ofList (issues.map fun issue => (issue.id, issue))
  fixes := []
  snapshot := none
  lastCycleAt := none
  lastCycleId := none
  lastError := none
  lastReport := none
  autoApply := settings.monitor.autoApply
  paused := false
  failureCount := 0
  applying := 0
  running := none
  stopped := false

/-- The number of cycles that failed in a row, as it is counted. -/
def failures (monitor : Monitor) : Nat := monitor.failureCount.toNat

/-- The number of open issues. -/
def openCount (monitor : Monitor) : Nat := monitor.issues.values.countP (·.isOpen)

/-- The outcome that the issues stand for. -/
def currentOutcome (monitor : Monitor) : CycleOutcome := .ofOpenCount monitor.openCount

/-- The number of failures in a row after which scheduled cycles stop: at least one. -/
def retryCeiling (monitor : Monitor) : Nat := max 1 monitor.settings.monitor.retryCeiling

/-- The monitor that shows the outcome of the cycle just published. -/
def conclude (monitor : Monitor) : Monitor :=
  { monitor with
    outcome := some monitor.currentOutcome
    phase := .ofOutcome monitor.currentOutcome }

/-- The monitor at rest, with the outcome as the issues are now. -/
def settle (monitor : Monitor) : Monitor :=
  { monitor with
    outcome := monitor.outcome.map fun _ => monitor.currentOutcome
    phase := .idle }

/-- The monitor with the outcome as the issues are now, where it shows one. -/
def refreshOutcome (monitor : Monitor) : Monitor :=
  match monitor.outcome with
  | none => monitor
  | some _ =>
    let outcome := monitor.currentOutcome
    let phase :=
      if monitor.phase = .healthy ∨ monitor.phase = .issuesFound then .ofOutcome outcome
      else monitor.phase
    { monitor with outcome := some outcome, phase }

/-- The monitor that may run scheduled cycles again. -/
def resume (monitor : Monitor) : Monitor := { monitor with paused := false, failureCount := 0 }

/-- The monitor with automatic fixes switched on or off. -/
def setAutoApply (enabled : Bool) (monitor : Monitor) : Monitor :=
  { monitor with autoApply := enabled }

/-- The monitor that cancels every cycle from now on. -/
def stop (monitor : Monitor) : Monitor := { monitor with stopped := true }

/-- The issue of an id, which must be open. -/
def openIssue (monitor : Monitor) (id : String) : Except MonitorError Issue :=
  match monitor.issues.get? id with
  | none => .error (.issueNotFound id)
  | some issue =>
    if issue.isOpen then .ok issue
    else
      let state := if issue.resolvedAt.isSome then "resolved" else issue.status.name
      .error (.issueClosed issue.id state)

/-- The fix that would be made for an issue; nothing is changed. -/
def previewFix (monitor : Monitor) (id : String) (now : Moment) : Except MonitorError Fix := do
  let issue ← monitor.openIssue id
  (Plan.preview monitor.settings.minEvidence issue now).mapError .plan

/-- The text of the fix that is shown for an issue: the one published, or one made up now. -/
def previewText (monitor : Monitor) (issue : Issue) (now : Moment) : Option String :=
  if issue.isOpen && issue.status != .rejected then
    match monitor.fixes.get? issue.id with
    | some fix => some fix.preview
    | none => (Plan.preview monitor.settings.minEvidence issue now).toOption.map (·.preview)
  else none

/-- The issues with the fixes shown for them; only the open ones unless all are asked for. -/
def views (monitor : Monitor) (all : Bool) (now : Moment) : List IssueView :=
  (monitor.issues.values.filter fun issue => all || issue.isOpen).map fun issue =>
    ⟨issue, monitor.previewText issue now⟩

def rules (monitor : Monitor) : DetectionRules :=
  ⟨monitor.settings.minEvidence, monitor.settings.scanner.ignores⟩

/-- How the monitor reads the tables of the database. -/
def introspection (monitor : Monitor) : Introspection := .ofSettings monitor.settings.database

/-- How long a batch of statements may take. -/
def executionLimit (monitor : Monitor) : Span := .ofSeconds monitor.settings.database.timeoutSecs

/-- The monitor after a cycle that failed. A cycle that was cancelled does not count; the others do,
and too many in a row pause the monitor. The count starts over at zero when it has no room left. -/
def recordFailure (error : CycleError) (monitor : Monitor) : Monitor :=
  let settled := { monitor.settle with running := none }
  if error = .cancelled then settled
  else
    let failureCount := monitor.failureCount + 1
    { settled with
      lastError := some error.message
      failureCount
      paused := monitor.paused || monitor.retryCeiling ≤ failureCount.toNat }

/-- The monitor after a cycle that ended well. -/
def recordSuccess (monitor : Monitor) : Monitor :=
  { monitor with failureCount := 0, running := none }

end Monitor

end SchemaDrift
