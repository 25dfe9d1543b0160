import SchemaDrift.Keyed
import SchemaDrift.LogicalType.Json
import SchemaDrift.LogicalType.Spelling

namespace SchemaDrift

/-- A column as the database declares it. -/
structure LiveColumn where
  name : String
  type : LogicalType
  declared : String
  nullable : Bool
  default : Option String
  deriving DecidableEq, Inhabited

/-- An index, with the columns of its key in order. -/
structure LiveIndex where
  name : String
  columns : List String
  unique : Bool
  primary : Bool
  deriving DecidableEq, Inhabited

inductive ConstraintKind where
  | primaryKey
  | unique
  | foreignKey
  | check
  deriving DecidableEq, Inhabited

structure LiveConstraint where
  name : String
  kind : ConstraintKind
  columns : List String
  deriving DecidableEq, Inhabited

structure LiveTable where
  name : String
  columns : List LiveColumn
  indexes : List LiveIndex
  constraints : List LiveConstraint
  deriving DecidableEq, Inhabited

/-- The tables of one schema at one time. -/
structure Snapshot where
  schema : String
  tables : Keyed LiveTable
  deriving DecidableEq, Inhabited

/-- A column that may hold nulls, with its type read off its declaration. -/
def LiveColumn.ofDeclaration (name declared : String) : LiveColumn :=
  ⟨name, .ofSpelling declared, declared, true, none⟩

def ConstraintKind.code : ConstraintKind → String
  | primaryKey => "PRIMARY_KEY"
  | unique => "UNIQUE"
  | foreignKey => "FOREIGN_KEY"
  | check => "CHECK"

/-- The kind that a catalog names, in any case. -/
def ConstraintKind.ofCatalog? (text : String) : Option ConstraintKind :=
  let upper := Text.upperString text
  if upper == "PRIMARY KEY" then some .primaryKey
  else if upper == "UNIQUE" then some .unique
  else if upper == "FOREIGN KEY" then some .foreignKey
  else if upper == "CHECK" then some .check
  else none

namespace LiveTable

def column? (table : LiveTable) (name : String) : Option LiveColumn :=
  table.columns.find? (·.name == name)

/-- An index can serve a look-up by the column alone: the column comes first in its key. -/
def hasLeadingIndex (table : LiveTable) (column : String) : Bool :=
  table.indexes.any (·.columns.head? == some column)

end LiveTable

namespace Snapshot

/-- The snapshot of a list of tables; of two tables of one name the later stays. -/
def ofTables (schema : String) (tables : List LiveTable) : Snapshot :=
  ⟨schema, Keyed.ofList (tables.map fun table => (table.name, table))⟩

def table? (snapshot : Snapshot) (name : String) : Option LiveTable := snapshot.tables.get? name

end Snapshot

def LiveColumn.toJson (column : LiveColumn) : Json :=
  .object [("name", .string column.name), ("logical_type", column.type.toJson),
    ("declared_type", .string column.declared), ("nullable", .bool column.nullable),
    ("default", .ofText? column.default)]

def LiveIndex.toJson (index : LiveIndex) : Json :=
  .object [("name", .string index.name), ("columns", .array (index.columns.map .string)),
    ("unique", .bool index.unique), ("primary", .bool index.primary)]

def LiveConstraint.toJson (constraint : LiveConstraint) : Json :=
  .object [("name", .string constraint.name), ("kind", .string constraint.kind.code),
    ("columns", .array (constraint.columns.map .string))]

def LiveTable.toJson (table : LiveTable) : Json :=
  .object [("name", .string table.name), ("columns", .array (table.columns.map (·.toJson))),
    ("indexes", .array (table.indexes.map (·.toJson))),
    ("constraints", .array (table.constraints.map (·.toJson)))]

/-- The JSON form of tables under their names. -/
def tablesJson (tables : Keyed LiveTable) : Json := .object (tables.mapValues (·.toJson))

def Snapshot.toJson (snapshot : Snapshot) : Json :=
  .object [("schema", .string snapshot.schema), ("tables", tablesJson snapshot.tables)]

end SchemaDrift
