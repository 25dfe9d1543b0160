import SchemaDrift.Ddl.Json
import SchemaDrift.Fix.Basic
import SchemaDrift.Issue.Json

namespace SchemaDrift

def Fix.toJson (fix : Fix) : Json :=
  .object [("id", .string fix.id), ("issue_id", .string fix.issueId), ("table", .string fix.table),
    ("statement", fix.statement.toJson), ("ddl", .string fix.ddl),
    ("preview", .string fix.preview), ("justification", .string fix.justification),
    ("rollback_sql", .ofText? fix.rollback), ("risk_class", fix.risk.toJson),
    ("requires_manual_review", .bool fix.requiresManualReview),
    ("evidence_count", .ofNat fix.evidenceCount), ("created_at", fix.createdAt.toJson)]

namespace FixExecution

def toJson (execution : FixExecution) : Json :=
  .object [("id", .string execution.id), ("fix_id", .string execution.fixId),
    ("issue_id", .string execution.issueId), ("table", .string execution.table),
    ("ddl", .string execution.ddl), ("applied_at", execution.appliedAt.toJson),
    ("duration_ms", .ofNat execution.durationMillis), ("success", .bool execution.success),
    ("rollback_sql", .ofText? execution.rollback),
    ("error_message", .ofText? execution.errorMessage)]

def ofJson? (value : Json) : Option FixExecution := do
  let members ← value.members?
  let id ← Json.required members "id" (·.text?)
  let fixId ← Json.required members "fix_id" (·.text?)
  let issueId ← Json.required members "issue_id" (·.text?)
  let table ← Json.required members "table" (·.text?)
  let ddl ← Json.required members "ddl" (·.text?)
  let appliedAt ← Json.required members "applied_at" Moment.ofJson?
  let durationMillis ← Json.required members "duration_ms" (·.nat? Json.word64)
  let success ← Json.required members "success" (·.bool?)
  let rollback ← Json.optional members "rollback_sql" (·.text?)
  let errorMessage ← Json.optional members "error_message" (·.text?)
  some
    { id, fixId, issueId, table, ddl, appliedAt, durationMillis, success, rollback, errorMessage }

end FixExecution

end SchemaDrift
