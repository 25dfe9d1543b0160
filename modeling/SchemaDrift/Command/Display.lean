import SchemaDrift.Monitor.State

namespace SchemaDrift.Display

/-- The lines of a text, each with its end. -/
def ofLines (lines : List String) : String := String.join (lines.map (· ++ "\n"))

def riskMark : Risk → String
  | .additive => "●"
  | .destructive => "✗"

/-- The lines about an issue, with the text of a fix where there is one. -/
def issueLines (issue : Issue) (preview : Option String) : List String :=
  ["  " ++ riskMark issue.risk ++ " " ++ issue.kind.code ++ " " ++ issue.target ++ " [" ++
      issue.risk.code ++ "] " ++ issue.status.name,
    "      " ++ issue.justification]
    ++ issue.evidence.sites.map (fun site => "      at " ++ site.display)
    ++ issue.rejectionReason.toList.map ("      rejected: " ++ ·)
    ++ issue.lastError.toList.map ("      last error: " ++ ·)
    ++ preview.toList.map ("      fix: " ++ ·)
    ++ [""]

/-- The text about recorded issues. -/
def issues (recorded : List Issue) : String :=
  if recorded.isEmpty then ofLines ["✓ No issues recorded"]
  else
    ofLines (["Issues: " ++ toString recorded.length, ""]
      ++ recorded.flatMap fun issue => issueLines issue none)

/-- The line above and below a report. -/
def rule : String := String.ofList (List.replicate 60 '=')

/-- The lines about the open issues of a cycle. -/
def openIssueLines (summary : ReportSummary) (views : List IssueView) : List String :=
  if views.isEmpty then ["✓ Schema matches code usage"]
  else
    ["Open issues: " ++ toString summary.total ++ " (" ++ toString summary.additive ++
        " additive, " ++ toString summary.destructive ++ " destructive)", ""]
      ++ views.flatMap fun view => issueLines view.issue view.preview

/-- The lines about columns that are used with types that exclude each other. -/
def conflictLines (conflicts : List TypeConflict) : List String :=
  if conflicts.isEmpty then []
  else
    "Type conflicts (manual review):" :: conflicts.map (fun conflict =>
      "  ⚠ " ++ conflict.table ++ "." ++ conflict.column ++ ": " ++
        Text.joinStrings " vs " conflict.candidates) ++ [""]

/-- The lines about the fixes that were applied. -/
def executionLines (executions : List FixExecution) : List String :=
  if executions.isEmpty then []
  else
    let applied := executions.countP (·.success)
    ["Fixes: " ++ toString applied ++ " applied, " ++ toString (executions.length - applied) ++
      " failed"]

/-- The text about a cycle. -/
def cycle (report : CycleReport) (views : List IssueView) : String :=
  let summary := report.summary
  let errors := if summary.scanErrors > 0 then ["Scan errors: " ++ toString summary.scanErrors]
    else []
  ofLines (["", rule, "SchemaHeal Cycle Report", rule, "", "Cycle: " ++ report.cycleId,
      "Scanned: " ++ toString summary.filesScanned ++ " files, " ++ toString summary.statements ++
        " statements"]
    ++ errors ++ [""] ++ openIssueLines summary views ++ conflictLines report.conflicts
    ++ executionLines report.executions ++ [rule])

end SchemaDrift.Display
