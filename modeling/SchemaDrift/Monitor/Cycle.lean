import SchemaDrift.Monitor.Service

/-
This file holds the cycles of a monitor. A cycle analyzes the sources and the database, publishes
what it found in one step, applies the fixes that need no operator, and reports. A cycle that fails
before it publishes leaves no trace but the failure.
-/

namespace SchemaDrift

/-- The issues of a cycle with their plans: the fixes shown, and those applied without an
operator. -/
structure Planning where
  issues : Keyed Issue
  fixes : Keyed Fix
  automatic : List Fix

namespace Planning

/-- The planning with one more issue. A closed or rejected one is left as it is; one that no fix can
be made for is rejected. -/
def addIssue (minEvidence : Nat) (autoApply : Bool) (now : Moment) (planning : Planning)
    (issue : Issue) : Planning :=
  if !issue.isOpen || issue.status = .rejected then planning
  else
    match Plan.ofIssue minEvidence issue .automatic now with
    | .ready validated =>
      { planning with
        fixes := planning.fixes.insert issue.id validated.fix
        automatic :=
          if autoApply && validated.safe then planning.automatic ++ [validated.fix]
          else planning.automatic }
    | .needsApproval fix => { planning with fixes := planning.fixes.insert issue.id fix }
    | .rejected error =>
      { planning with issues := planning.issues.modify issue.id (·.markRejected error.message) }

def ofIssues (minEvidence : Nat) (autoApply : Bool) (now : Moment) (issues : Keyed Issue) :
    Planning :=
  issues.values.foldl (addIssue minEvidence autoApply now) ⟨issues, [], []⟩

end Planning

/-- What a cycle found out before anything is published. -/
structure Analysis where
  scan : ScanOutput
  inferred : InferredSchema
  snapshot : Snapshot
  detected : List Issue

namespace Service

/-- The service with a cycle begun, or the cycle that is in flight already. -/
def beginCycle (cycleId : String) (service : Service) : Except String Service :=
  match service.monitor.running with
  | some other => .error other
  | none => .ok (service.onMonitor fun monitor => { monitor with running := some cycleId })

def enter (phase : Phase) (service : Service) : Service :=
  service.onMonitor fun monitor => { monitor with phase }

def scanned : ScanResult → Except CycleError ScanOutput
  | .found output => .ok output
  | .failed .cancelled => .error .cancelled
  | .failed error => .error (.scan error)
  | .crashed _ => .error .crashed

def captured : Except IntrospectionError Snapshot → Except CycleError Snapshot
  | .ok snapshot => .ok snapshot
  | .error .cancelled => .error .cancelled
  | .error error => .error (.introspection error)

/-- What a cycle found out from the sources and the database. -/
def analyze (monitor : Monitor) (scan : ScanResult) (capture : Except IntrospectionError Snapshot)
    (now : Moment) : Except CycleError Analysis := do
  let output ← scanned scan
  let snapshot ← captured capture
  let inferred := InferredSchema.ofStatements output.statements
  return ⟨output, inferred, snapshot, detectIssues monitor.rules inferred snapshot now⟩

/-- The service with what a cycle found published in one step, and the fixes to apply without an
operator. When the issues cannot be recorded, nothing is published. -/
def publish (cycleId : String) (analysis : Analysis) (now : Moment) (service : Service) :
    Service × Except CycleError (List Fix) :=
  let monitor := service.monitor
  let issues := reconcile monitor.issues analysis.detected now
  let planning := Planning.ofIssues monitor.settings.minEvidence monitor.autoApply now issues
  match service.store.saveIssues planning.issues.values with
  | (store, some error) => ({ service with store }, .error (.store error))
  | (store, none) =>
    let published : Monitor :=
      { monitor with
        issues := planning.issues
        fixes := planning.fixes
        snapshot := some analysis.snapshot
        lastCycleAt := some now
        lastCycleId := some cycleId
        lastError := none }
    ({ service with monitor := published.conclude, store }, .ok planning.automatic)

/-- The service after a cycle that was published and whose fixes were applied, and its report. -/
def finishCycle (cycleId : String) (analysis : Analysis) (executions : List FixExecution)
    (startedAt now : Moment) (service : Service) : Service × CycleReport :=
  let report := (CycleReport.ofIssues cycleId startedAt now service.monitor.issues.values).withScan
    analysis.scan.filesScanned analysis.scan.statements.length
    (analysis.scan.errors.map (·.message))
  let report := { report with conflicts := analysis.inferred.conflicts, executions }
  (service.onMonitor fun monitor =>
    { monitor.settle.recordSuccess with lastReport := some report }, report)

def failCycle (error : CycleError) (service : Service) : Service :=
  service.onMonitor (.recordFailure error)

/-- The service after some fixes were applied one after the other, and the attempts that could be
recorded. -/
def executeAll (executionId : Nat → String) (now : Moment) (fixes : List Fix) (service : Service) :
    Service × List FixExecution :=
  fixes.zipIdx.foldl (fun (state : Service × List FixExecution) entry =>
    match state.1.executeFix (executionId entry.2) entry.1 now with
    | (service, .ok execution) => (service, state.2 ++ [execution])
    | (service, .error _) => (service, state.2)) (service, [])

/-- The service after a whole cycle on a scan of the sources, with all steps at one time. -/
def runCycle (cycleId : String) (executionId : Nat → String) (scan : ScanResult) (now : Moment)
    (service : Service) : Service × Except CycleError CycleReport :=
  match service.beginCycle cycleId with
  | .error other => (service, .error (.alreadyRunning other))
  | .ok service =>
    let capture := if service.monitor.stopped then .error .cancelled
      else service.monitor.introspection.capture service.catalog
    match analyze service.monitor scan capture now with
    | .error error => (service.failCycle error, .error error)
    | .ok analysis =>
      match service.publish cycleId analysis now with
      | (service, .error error) => (service.failCycle error, .error error)
      | (service, .ok fixes) =>
        let (service, executions) := service.executeAll executionId now fixes
        let (service, report) := service.finishCycle cycleId analysis executions now now
        (service, .ok report)

end Service

end SchemaDrift
