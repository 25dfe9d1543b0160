import SchemaDrift.Ddl.Basic
import SchemaDrift.LogicalType.Json

namespace SchemaDrift

def Identifier.toJson (identifier : Identifier) : Json := .string identifier.name

def Identifier.ofJson? (value : Json) : Option Identifier := do
  match Identifier.ofName (← value.text?) with
  | .ok identifier => some identifier
  | .error _ => none

namespace ColumnDefinition

def toJson (column : ColumnDefinition) : Json :=
  .object [("name", column.name.toJson), ("data_type", column.type.toJson),
    ("nullable", .bool column.nullable), ("primary_key", .bool column.primaryKey),
    ("auto_increment", .bool column.autoIncrement)]

def ofJson? (value : Json) : Option ColumnDefinition := do
  let members ← value.members?
  let name ← Json.required members "name" Identifier.ofJson?
  let type ← Json.required members "data_type" LogicalType.ofJson?
  let nullable ← Json.required members "nullable" (·.bool?)
  let primaryKey ← Json.required members "primary_key" (·.bool?)
  let autoIncrement ← Json.required members "auto_increment" (·.bool?)
  some ⟨name, type, nullable, primaryKey, autoIncrement⟩

end ColumnDefinition

namespace DdlStatement

/-- The JSON form of a statement: its member `kind` names the case. -/
def toJson : DdlStatement → Json
  | createTable table columns =>
    .object [("kind", .string "create_table"), ("table", table.toJson),
      ("columns", .array (columns.map (·.toJson)))]
  | addColumn table column =>
    .object [("kind", .string "add_column"), ("table", table.toJson), ("column", column.toJson)]
  | createIndex name table columns =>
    .object [("kind", .string "create_index"), ("name", name.toJson), ("table", table.toJson),
      ("columns", .array (columns.map (·.toJson)))]
  | alterColumnType table column type previous =>
    .object [("kind", .string "alter_column_type"), ("table", table.toJson),
      ("column", column.toJson), ("data_type", type.toJson), ("previous", previous.toJson)]

def ofJson? (value : Json) : Option DdlStatement := do
  let members ← value.members?
  let kind ← Json.required members "kind" (·.text?)
  let table ← Json.required members "table" Identifier.ofJson?
  if kind == "create_table" then
    some (createTable table (← Json.required members "columns" (·.list? ColumnDefinition.ofJson?)))
  else if kind == "add_column" then
    some (addColumn table (← Json.required members "column" ColumnDefinition.ofJson?))
  else if kind == "create_index" then
    let name ← Json.required members "name" Identifier.ofJson?
    some (createIndex name table
      (← Json.required members "columns" (·.list? Identifier.ofJson?)))
  else if kind == "alter_column_type" then
    let column ← Json.required members "column" Identifier.ofJson?
    let type ← Json.required members "data_type" LogicalType.ofJson?
    let previous ← Json.required members "previous" LogicalType.ofJson?
    some (alterColumnType table column type previous)
  else none

end DdlStatement

end SchemaDrift
