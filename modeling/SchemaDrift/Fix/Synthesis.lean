import SchemaDrift.Fix.Basic

namespace SchemaDrift

/-- Why an issue has no statement. -/
inductive SynthesisError where
  | identifier (error : IdentifierError)
  | missingColumn (kind : IssueKind) (table : String)
  | missingType (target : String)
  deriving DecidableEq

def SynthesisError.message : SynthesisError → String
  | identifier error => "invalid identifier: " ++ error.message
  | missingColumn kind table => kind.code ++ " issue for '" ++ table ++ "' has no column"
  | missingType target => "type mismatch on '" ++ target ++ "' has no proposed type"

def SynthesisError.kind : SynthesisError → String
  | identifier _ => "Identifier"
  | missingColumn _ _ => "MissingColumn"
  | missingType _ => "MissingType"

namespace Synthesis

def identifier (name : String) : Except SynthesisError Identifier :=
  (Identifier.ofName name).mapError .identifier

def columnOf (issue : Issue) : Except SynthesisError Identifier :=
  match issue.column with
  | some column => identifier column
  | none => .error (.missingColumn issue.kind issue.table)

/-- The type of a new column; text if none is known. -/
def columnType (proposed : Option LogicalType) : LogicalType :=
  match proposed with
  | some type => if type = .unknown then .string else type
  | none => .string

/-- The name of the key of a new table. -/
def keyName : String := "id"

/-- The key of a new table: code may give it a type of its own, else it numbers the rows. -/
def keyColumn (name : Identifier) (columns : List ExpectedColumn) : ColumnDefinition :=
  match (columns.find? (·.name == keyName)).bind (·.type) with
  | some type => if type = .int ∨ type = .unknown then .surrogateKey name else .key name type
  | none => .surrogateKey name

/-- The columns of a new table: its key first, then every other column that code uses. -/
def tableColumns (columns : List ExpectedColumn) :
    Except SynthesisError (List ColumnDefinition) := do
  let key := keyColumn (← identifier keyName) columns
  let others ← (columns.filter (·.name != keyName)).mapM fun column => do
    return ColumnDefinition.plain (← identifier column.name) (columnType column.type)
  return key :: others

/-- The type that a column of the wrong type should have. -/
def expectedType (issue : Issue) : Except SynthesisError LogicalType :=
  match issue.expectedType with
  | some type => if type = .unknown then .error (.missingType issue.target) else .ok type
  | none => .error (.missingType issue.target)

end Synthesis

open Synthesis in
def DdlStatement.ofIssue (issue : Issue) : Except SynthesisError DdlStatement := do
  let table ← identifier issue.table
  match issue.kind with
  | .missingTable => return .createTable table (← tableColumns issue.expectedColumns)
  | .missingColumn =>
    return .addColumn table (.plain (← columnOf issue) (columnType issue.expectedType))
  | .typeMismatch =>
    let column ← columnOf issue
    return .alterColumnType table column (← expectedType issue) (issue.actualType.getD .unknown)
  | .missingIndex =>
    let column ← columnOf issue
    return .createIndex (← (indexName table column).mapError .identifier) table [column]

def Fix.ofIssue (issue : Issue) (now : Moment) : Except SynthesisError Fix := do
  return Fix.ofStatement issue (← DdlStatement.ofIssue issue) now

end SchemaDrift
