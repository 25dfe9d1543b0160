import SchemaDrift.Catalog.Execution
import SchemaDrift.Monitor.State

namespace SchemaDrift

/-- A monitor with the record that it keeps and the catalog that it changes. -/
structure Service where
  monitor : Monitor
  store : Store
  catalog : Catalog

namespace Service

/-- A monitor that knows the issues of a record. -/
def start (settings : Settings) (store : Store) (catalog : Catalog) :
    Except StoreError Service := do
  return ⟨.ofIssues settings (← store.loadIssues), store, catalog⟩

def onMonitor (change : Monitor → Monitor) (service : Service) : Service :=
  { service with monitor := change service.monitor }

/-- The service with one issue changed, and all of them recorded. When they cannot be recorded, the
change stays but the outcome shown does not follow it. -/
def updateIssue (id : String) (change : Issue → Issue) (service : Service) :
    Service × Option StoreError :=
  let issues := service.monitor.issues.modify id change
  let (store, error) := service.store.saveIssues issues.values
  let changed := { service with monitor := { service.monitor with issues }, store }
  match error with
  | some error => (changed, some error)
  | none => (changed.onMonitor .refreshOutcome, none)

/-- How many milliseconds the catalog takes for a fix, in 64 bits. -/
def fixMillis (service : Service) : Nat :=
  (service.catalog.executionTime service.monitor.executionLimit).toMillis % UInt64.size

/-- The service after the statement of a fix was run and the attempt recorded. -/
def runFix (executionId : String) (fix : Fix) (now : Moment) (service : Service) :
    Service × FixExecution × Option StoreError :=
  let (catalog, error) := service.catalog.execute [fix.ddl] service.monitor.executionLimit
  let execution := FixExecution.record executionId fix now service.fixMillis (error.map (·.message))
  let (store, error) := service.store.appendExecution execution
  ({ service with catalog, store }, execution, error)

/-- The change of an issue after an attempt to fix it. -/
def markOf (execution : FixExecution) (issue : Issue) : Issue :=
  if execution.success then issue.markApplied
  else issue.markFailed (execution.errorMessage.getD "")

/-- The service after a fix was applied: the statement is run, the attempt recorded, and the issue
marked. A failed attempt is an answer, not a refusal. -/
def executeFix (executionId : String) (fix : Fix) (now : Moment) (service : Service) :
    Service × Except MonitorError FixExecution :=
  let (service, execution, error) := service.runFix executionId fix now
  match error with
  | some error => (service, .error (.store error))
  | none =>
    match service.updateIssue fix.issueId (markOf execution) with
    | (service, some error) => (service, .error (.store error))
    | (service, none) => (service, .ok execution)

/-- The service after the fix for an issue was planned at the request of an operator. A refusal for
good is recorded on the issue, and so is an approval. -/
def planFix (id : String) (approval : Approval) (now : Moment) (service : Service) :
    Service × Except MonitorError Fix :=
  match service.monitor.openIssue id with
  | .error error => (service, .error error)
  | .ok issue =>
    match Plan.ofIssue service.monitor.settings.minEvidence issue approval now with
    | .needsApproval _ => (service, .error (.plan (.validation .approvalRequired)))
    | .rejected error =>
      match service.updateIssue id (·.markRejected error.message) with
      | (service, some failure) => (service, .error (.store failure))
      | (service, none) => (service, .error (.plan error))
    | .ready validated =>
      if approval = .manual then
        match service.updateIssue id (·.markApproved) with
        | (service, some failure) => (service, .error (.store failure))
        | (service, none) => (service, .ok validated.fix)
      else (service, .ok validated.fix)

end Service

end SchemaDrift
