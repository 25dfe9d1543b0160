import SchemaDrift.LogicalType.Json
import SchemaDrift.Location

namespace SchemaDrift

inductive StatementKind where
  | select
  | insert
  | update
  | create
  | alter
  deriving DecidableEq, Inhabited

/-- How a column is touched. -/
inductive AccessMode where
  | read
  | write
  | filter
  deriving DecidableEq, Inhabited

inductive Comparison where
  | equality
  | membership
  | range
  | pattern
  deriving DecidableEq, Inhabited

/-- A value that meets a column. The binding of a parameter is the expression of the host language
that stands for it, where it is known. -/
inductive ValueContext where
  | number (text : String)
  | quotedString (text : String)
  | boolean
  | null
  | parameter (placeholder : String) (binding : Option String)
  | function (name : String)
  | declared (type : LogicalType)
  deriving DecidableEq, Inhabited

structure ColumnUsage where
  table : String
  column : String
  mode : AccessMode
  comparison : Option Comparison
  values : List ValueContext
  deriving DecidableEq, Inhabited

/-- What a statement says about tables. -/
structure StatementUsage where
  kind : StatementKind
  targetTable : Option String
  tables : List String
  usages : List ColumnUsage
  deriving DecidableEq, Inhabited

structure SourceStatement where
  text : String
  location : Location
  usage : StatementUsage
  deriving DecidableEq, Inhabited

/-- The first word of a statement of a kind. -/
def StatementKind.name : StatementKind → String
  | select => "SELECT"
  | insert => "INSERT"
  | update => "UPDATE"
  | create => "CREATE"
  | alter => "ALTER"

def AccessMode.name : AccessMode → String
  | read => "read"
  | write => "write"
  | filter => "filter"

def Comparison.name : Comparison → String
  | equality => "equality"
  | membership => "membership"
  | range => "range"
  | pattern => "pattern"

/-- An index on the column serves the comparison directly. -/
def Comparison.isPointLookup : Comparison → Bool
  | equality => true
  | membership => true
  | _ => false

namespace ColumnUsage

/-- A use without a comparison. -/
def plain (table column : String) (mode : AccessMode) (values : List ValueContext) : ColumnUsage :=
  ⟨table, column, mode, none, values⟩

/-- The use filters by equality or membership. -/
def isPointFilter (usage : ColumnUsage) : Bool :=
  usage.mode == .filter && usage.comparison.any Comparison.isPointLookup

end ColumnUsage

namespace ValueContext

/-- The JSON form of a value: an object whose member `kind` names the case. -/
def toJson : ValueContext → Json
  | number text => .object [("kind", .string "number"), ("text", .string text)]
  | quotedString text => .object [("kind", .string "quoted_string"), ("text", .string text)]
  | boolean => .object [("kind", .string "boolean")]
  | null => .object [("kind", .string "null")]
  | parameter placeholder binding =>
    .object [("kind", .string "parameter"), ("placeholder", .string placeholder),
      ("binding", .ofText? binding)]
  | function name => .object [("kind", .string "function"), ("name", .string name)]
  | declared type => .object [("kind", .string "declared"), ("logical_type", type.toJson)]

end ValueContext

def ValueContext.ofJson? (value : Json) : Option ValueContext := do
  let members ← value.members?
  match ← Json.required members "kind" (·.text?) with
  | "number" => return .number (← Json.required members "text" (·.text?))
  | "quoted_string" => return .quotedString (← Json.required members "text" (·.text?))
  | "boolean" => return .boolean
  | "null" => return .null
  | "parameter" =>
    return .parameter (← Json.defaulted members "placeholder" "" (·.text?))
      (← Json.optional members "binding" (·.text?))
  | "function" => return .function (← Json.required members "name" (·.text?))
  | "declared" => return .declared (← Json.required members "logical_type" LogicalType.ofJson?)
  | _ => none

def AccessMode.ofJson? (value : Json) : Option AccessMode := do
  let name ← value.text?
  [AccessMode.read, .write, .filter].find? (·.name == name)

def Comparison.ofJson? (value : Json) : Option Comparison := do
  let name ← value.text?
  [Comparison.equality, .membership, .range, .pattern].find? (·.name == name)

def ColumnUsage.ofJson? (value : Json) : Option ColumnUsage := do
  let members ← value.members?
  return {
    table := ← Json.required members "table" (·.text?)
    column := ← Json.required members "column" (·.text?)
    mode := ← Json.required members "mode" AccessMode.ofJson?
    comparison := ← Json.optional members "comparison" Comparison.ofJson?
    values := ← Json.required members "values" (·.list? ValueContext.ofJson?) }

def ColumnUsage.toJson (usage : ColumnUsage) : Json :=
  .object [("table", .string usage.table), ("column", .string usage.column),
    ("mode", .string usage.mode.name),
    ("comparison", .ofText? (usage.comparison.map Comparison.name)),
    ("values", .array (usage.values.map (·.toJson)))]

/-- The members of the JSON form of what a statement says. -/
def StatementUsage.jsonMembers (usage : StatementUsage) : List (String × Json) :=
  [("kind", .string usage.kind.name), ("target_table", .ofText? usage.targetTable),
    ("tables", .array (usage.tables.map .string)),
    ("usages", .array (usage.usages.map (·.toJson)))]

def SourceStatement.toJson (statement : SourceStatement) : Json :=
  .object ([("text", .string statement.text), ("location", statement.location.toJson)] ++
    statement.usage.jsonMembers)

end SchemaDrift
