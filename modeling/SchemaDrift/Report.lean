import SchemaDrift.Fix.Json

namespace SchemaDrift

/-- A column that code uses with types that exclude each other. -/
structure TypeConflict where
  table : String
  column : String
  candidates : List String
  sites : List Location
  deriving DecidableEq, Inhabited

inductive CycleOutcome where
  | healthy
  | issuesFound
  deriving DecidableEq, Inhabited

structure ReportSummary where
  total : Nat
  missingTables : Nat
  missingColumns : Nat
  typeMismatches : Nat
  missingIndexes : Nat
  additive : Nat
  destructive : Nat
  pending : Nat
  approved : Nat
  rejected : Nat
  filesScanned : Nat
  statements : Nat
  scanErrors : Nat
  deriving DecidableEq, Inhabited

structure CycleReport where
  major : Nat
  minor : Nat
  cycleId : String
  startedAt : Moment
  finishedAt : Moment
  outcome : CycleOutcome
  summary : ReportSummary
  issues : List Issue
  conflicts : List TypeConflict
  scanErrors : List String
  executions : List FixExecution
  deriving DecidableEq, Inhabited

def CycleOutcome.name : CycleOutcome → String
  | healthy => "healthy"
  | issuesFound => "issues_found"

/-- A cycle is healthy when no issue is open. -/
def CycleOutcome.ofOpenCount (count : Nat) : CycleOutcome :=
  if count == 0 then .healthy else .issuesFound

namespace ReportSummary

/-- The counts of a list of open issues, without those of the scan. -/
def ofIssues (issues : List Issue) : ReportSummary where
  total := issues.length
  missingTables := issues.countP (·.kind == .missingTable)
  missingColumns := issues.countP (·.kind == .missingColumn)
  typeMismatches := issues.countP (·.kind == .typeMismatch)
  missingIndexes := issues.countP (·.kind == .missingIndex)
  additive := issues.countP (·.risk == .additive)
  destructive := issues.countP (·.risk == .destructive)
  pending := issues.countP (·.status == .pending)
  approved := issues.countP (·.status == .approved)
  rejected := issues.countP (·.status == .rejected)
  filesScanned := 0
  statements := 0
  scanErrors := 0

end ReportSummary

namespace CycleReport

/-- The report on a set of issues, of which it shows those that are open. -/
def ofIssues (cycleId : String) (startedAt finishedAt : Moment) (issues : List Issue) :
    CycleReport :=
  let issues := issues.filter (·.isOpen)
  { major := 1, minor := 0, cycleId, startedAt, finishedAt
    outcome := .ofOpenCount issues.length
    summary := .ofIssues issues
    issues, conflicts := [], scanErrors := [], executions := [] }

def withScan (filesScanned statements : Nat) (errors : List String) (report : CycleReport) :
    CycleReport :=
  { report with
    summary := { report.summary with filesScanned, statements, scanErrors := errors.length }
    scanErrors := errors }

/-- No issue was open. -/
def isHealthy (report : CycleReport) : Bool := report.outcome == .healthy

end CycleReport

def TypeConflict.toJson (conflict : TypeConflict) : Json :=
  .object [("table", .string conflict.table), ("column", .string conflict.column),
    ("candidates", .array (conflict.candidates.map .string)),
    ("sites", .array (conflict.sites.map (·.toJson)))]

def TypeConflict.ofJson? (value : Json) : Option TypeConflict := do
  let members ← value.members?
  let table ← Json.required members "table" (·.text?)
  let column ← Json.required members "column" (·.text?)
  let candidates ← Json.required members "candidates" (·.list? (·.text?))
  let sites ← Json.required members "sites" (·.list? Location.ofJson?)
  some ⟨table, column, candidates, sites⟩

def CycleOutcome.toJson (outcome : CycleOutcome) : Json := .string outcome.name

def CycleOutcome.ofJson? (value : Json) : Option CycleOutcome := do
  let name ← value.text?
  [CycleOutcome.healthy, .issuesFound].find? (·.name == name)

namespace ReportSummary

def toJson (summary : ReportSummary) : Json :=
  .object [("total", .ofNat summary.total), ("missing_tables", .ofNat summary.missingTables),
    ("missing_columns", .ofNat summary.missingColumns),
    ("type_mismatches", .ofNat summary.typeMismatches),
    ("missing_indexes", .ofNat summary.missingIndexes), ("additive", .ofNat summary.additive),
    ("destructive", .ofNat summary.destructive), ("pending", .ofNat summary.pending),
    ("approved", .ofNat summary.approved), ("rejected", .ofNat summary.rejected),
    ("files_scanned", .ofNat summary.filesScanned), ("statements", .ofNat summary.statements),
    ("scan_errors", .ofNat summary.scanErrors)]

def ofJson? (value : Json) : Option ReportSummary := do
  let members ← value.members?
  let number (key : String) : Option Nat := Json.required members key (·.nat? Json.word64)
  let total ← number "total"
  let missingTables ← number "missing_tables"
  let missingColumns ← number "missing_columns"
  let typeMismatches ← number "type_mismatches"
  let missingIndexes ← number "missing_indexes"
  let additive ← number "additive"
  let destructive ← number "destructive"
  let pending ← number "pending"
  let approved ← number "approved"
  let rejected ← number "rejected"
  let filesScanned ← number "files_scanned"
  let statements ← number "statements"
  let scanErrors ← number "scan_errors"
  some
    { total, missingTables, missingColumns, typeMismatches, missingIndexes, additive, destructive,
      pending, approved, rejected, filesScanned, statements, scanErrors }

end ReportSummary

namespace CycleReport

def toJson (report : CycleReport) : Json :=
  .object [
    ("version", .object [("major", .ofNat report.major), ("minor", .ofNat report.minor)]),
    ("cycle_id", .string report.cycleId), ("started_at", report.startedAt.toJson),
    ("finished_at", report.finishedAt.toJson), ("outcome", report.outcome.toJson),
    ("summary", report.summary.toJson), ("issues", .array (report.issues.map (·.toJson))),
    ("conflicts", .array (report.conflicts.map (·.toJson))),
    ("scan_errors", .array (report.scanErrors.map .string)),
    ("executions", .array (report.executions.map (·.toJson)))]

def ofJson? (value : Json) : Option CycleReport := do
  let members ← value.members?
  let version ← Json.required members "version" (·.members?)
  let major ← Json.required version "major" (·.nat? Json.word32)
  let minor ← Json.required version "minor" (·.nat? Json.word32)
  let cycleId ← Json.required members "cycle_id" (·.text?)
  let startedAt ← Json.required members "started_at" Moment.ofJson?
  let finishedAt ← Json.required members "finished_at" Moment.ofJson?
  let outcome ← Json.required members "outcome" CycleOutcome.ofJson?
  let summary ← Json.required members "summary" ReportSummary.ofJson?
  let issues ← Json.required members "issues" (·.list? Issue.ofJson?)
  let conflicts ← Json.required members "conflicts" (·.list? TypeConflict.ofJson?)
  let scanErrors ← Json.required members "scan_errors" (·.list? (·.text?))
  let executions ← Json.required members "executions" (·.list? FixExecution.ofJson?)
  some
    { major, minor, cycleId, startedAt, finishedAt, outcome, summary, issues, conflicts,
      scanErrors, executions }

end CycleReport

end SchemaDrift
