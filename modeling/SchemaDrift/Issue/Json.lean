import SchemaDrift.Issue.Basic
import SchemaDrift.LogicalType.Json

namespace SchemaDrift

def Moment.toJson (moment : Moment) : Json := .string moment.text

def Moment.ofJson? (value : Json) : Option Moment := do Moment.ofText? (← value.text?)

/-- A value that may be missing, with null for its absence. -/
def Json.ofOption {α : Type} (toJson : α → Json) : Option α → Json
  | some value => toJson value
  | none => .null

def IssueKind.toJson (kind : IssueKind) : Json := .string kind.code

def IssueKind.ofJson? (value : Json) : Option IssueKind := do
  let code ← value.text?
  [IssueKind.missingTable, .missingColumn, .typeMismatch, .missingIndex].find? (·.code == code)

def Risk.toJson (risk : Risk) : Json := .string risk.code

def Risk.ofJson? (value : Json) : Option Risk := do
  let code ← value.text?
  [Risk.additive, .destructive].find? (·.code == code)

def IssueStatus.toJson (status : IssueStatus) : Json := .string status.name

def IssueStatus.ofJson? (value : Json) : Option IssueStatus := do
  let name ← value.text?
  [IssueStatus.pending, .approved, .applied, .rejected].find? (·.name == name)

def Evidence.toJson (evidence : Evidence) : Json :=
  .object [("count", .ofNat evidence.count),
    ("sites", .array (evidence.sites.map (·.toJson))), ("summary", .string evidence.summary)]

def Evidence.ofJson? (value : Json) : Option Evidence := do
  let members ← value.members?
  let count ← Json.required members "count" (·.nat? Json.word64)
  let sites ← Json.required members "sites" (·.list? Location.ofJson?)
  let summary ← Json.required members "summary" (·.text?)
  some ⟨count, sites, summary⟩

def ExpectedColumn.toJson (column : ExpectedColumn) : Json :=
  .object [("name", .string column.name),
    ("logical_type", Json.ofOption LogicalType.toJson column.type)]

def ExpectedColumn.ofJson? (value : Json) : Option ExpectedColumn := do
  let members ← value.members?
  let name ← Json.required members "name" (·.text?)
  let type ← Json.optional members "logical_type" LogicalType.ofJson?
  some ⟨name, type⟩

namespace Issue

def jsonMembers (issue : Issue) : List (String × Json) :=
  [("id", .string issue.id), ("type", issue.kind.toJson), ("table", .string issue.table),
    ("column", .ofText? issue.column), ("detected_at", issue.detectedAt.toJson),
    ("last_seen_at", issue.lastSeenAt.toJson),
    ("resolved_at", Json.ofOption Moment.toJson issue.resolvedAt),
    ("evidence", issue.evidence.toJson), ("expected", .ofText? issue.expected),
    ("actual", .ofText? issue.actual),
    ("expected_type", Json.ofOption LogicalType.toJson issue.expectedType),
    ("actual_type", Json.ofOption LogicalType.toJson issue.actualType),
    ("expected_columns", .array (issue.expectedColumns.map (·.toJson))),
    ("risk_class", issue.risk.toJson), ("status", issue.status.toJson),
    ("rejection_reason", .ofText? issue.rejectionReason),
    ("last_error", .ofText? issue.lastError)]

def toJson (issue : Issue) : Json := .object issue.jsonMembers

def ofJson? (value : Json) : Option Issue := do
  let members ← value.members?
  let id ← Json.required members "id" (·.text?)
  let kind ← Json.required members "type" IssueKind.ofJson?
  let table ← Json.required members "table" (·.text?)
  let column ← Json.optional members "column" (·.text?)
  let detectedAt ← Json.required members "detected_at" Moment.ofJson?
  let lastSeenAt ← Json.required members "last_seen_at" Moment.ofJson?
  let resolvedAt ← Json.optional members "resolved_at" Moment.ofJson?
  let evidence ← Json.required members "evidence" Evidence.ofJson?
  let expected ← Json.optional members "expected" (·.text?)
  let actual ← Json.optional members "actual" (·.text?)
  let expectedType ← Json.optional members "expected_type" LogicalType.ofJson?
  let actualType ← Json.optional members "actual_type" LogicalType.ofJson?
  let expectedColumns ←
    Json.defaulted members "expected_columns" [] (·.list? ExpectedColumn.ofJson?)
  let risk ← Json.required members "risk_class" Risk.ofJson?
  let status ← Json.required members "status" IssueStatus.ofJson?
  let rejectionReason ← Json.optional members "rejection_reason" (·.text?)
  let lastError ← Json.optional members "last_error" (·.text?)
  some
    { id, kind, table, column, detectedAt, lastSeenAt, resolvedAt, evidence, expected, actual,
      expectedType, actualType, expectedColumns, risk, status, rejectionReason, lastError }

end Issue

end SchemaDrift
