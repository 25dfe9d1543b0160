import SchemaDrift.Identifier
import SchemaDrift.LogicalType.Spelling
import SchemaDrift.Digest.Sha256

namespace SchemaDrift

/-- A column in a statement; an automatic key takes its type from that. -/
structure ColumnDefinition where
  name : Identifier
  type : LogicalType
  nullable : Bool
  primaryKey : Bool
  autoIncrement : Bool
  deriving DecidableEq

/-- A statement that corrects a schema. A change of type remembers the type before it. -/
inductive DdlStatement where
  | createTable (table : Identifier) (columns : List ColumnDefinition)
  | addColumn (table : Identifier) (column : ColumnDefinition)
  | createIndex (name table : Identifier) (columns : List Identifier)
  | alterColumnType (table column : Identifier) (type previous : LogicalType)
  deriving DecidableEq

namespace ColumnDefinition

/-- A column that may hold nulls. -/
def plain (name : Identifier) (type : LogicalType) : ColumnDefinition :=
  ⟨name, type, true, false, false⟩

/-- A key that numbers the rows. -/
def surrogateKey (name : Identifier) : ColumnDefinition := ⟨name, .int, false, true, true⟩

def key (name : Identifier) (type : LogicalType) : ColumnDefinition :=
  ⟨name, type, false, true, false⟩

/-- The characters of the column's type in a statement. -/
def typeChars (column : ColumnDefinition) : List Char :=
  if column.autoIncrement then "BIGSERIAL".toList else column.type.ddlChars

/-- The characters of the column's marks in a statement. -/
def markChars (column : ColumnDefinition) : List Char :=
  if column.primaryKey then " PRIMARY KEY".toList
  else if column.nullable then [] else " NOT NULL".toList

/-- The characters of the column in a statement. -/
def ddlChars (column : ColumnDefinition) : List Char :=
  column.name.ddlChars ++ ' ' :: column.typeChars ++ column.markChars

end ColumnDefinition

namespace DdlStatement

def table : DdlStatement → Identifier
  | createTable table _ => table
  | addColumn table _ => table
  | createIndex _ table _ => table
  | alterColumnType table _ _ _ => table

/-- The names in a statement in the order of its text. -/
def identifiers : DdlStatement → List Identifier
  | createTable table columns => table :: columns.map (·.name)
  | addColumn table column => [table, column.name]
  | createIndex name table columns => name :: table :: columns
  | alterColumnType table column _ _ => [table, column]

/-- A statement that changes data that is there. -/
def isDestructive : DdlStatement → Bool
  | alterColumnType _ _ _ _ => true
  | _ => false

/-- Parts with a comma and a blank between them. -/
def listed (parts : List (List Char)) : List Char := Text.joinWith [',', ' '] parts

/-- The characters of the change of a column to a type. -/
def alterTypeChars (table column : Identifier) (type : LogicalType) : List Char :=
  "ALTER TABLE ".toList ++ table.ddlChars ++ " ALTER COLUMN ".toList ++ column.ddlChars ++
    " TYPE ".toList ++ type.ddlChars ++ " USING ".toList ++ column.ddlChars ++ "::".toList ++
    type.ddlChars

def ddlChars : DdlStatement → List Char
  | createTable table columns =>
    "CREATE TABLE IF NOT EXISTS ".toList ++ table.ddlChars ++ " (".toList ++
      listed (columns.map (·.ddlChars)) ++ [')']
  | addColumn table column =>
    "ALTER TABLE ".toList ++ table.ddlChars ++ " ADD COLUMN IF NOT EXISTS ".toList ++
      column.ddlChars
  | createIndex name table columns =>
    "CREATE INDEX IF NOT EXISTS ".toList ++ name.ddlChars ++ " ON ".toList ++ table.ddlChars ++
      " (".toList ++ listed (columns.map (·.ddlChars)) ++ [')']
  | alterColumnType table column type _ => alterTypeChars table column type

/-- The text of a statement, without a semicolon. -/
def toDdl (statement : DdlStatement) : String := String.ofList statement.ddlChars

/-- The characters of the statement that undoes another; a change from an unknown type cannot be
undone. -/
def compensatingChars : DdlStatement → Option (List Char)
  | createTable table _ => some ("DROP TABLE IF EXISTS ".toList ++ table.ddlChars)
  | addColumn table column =>
    some ("ALTER TABLE ".toList ++ table.ddlChars ++ " DROP COLUMN IF EXISTS ".toList ++
      column.name.ddlChars)
  | createIndex name _ _ => some ("DROP INDEX IF EXISTS ".toList ++ name.ddlChars)
  | alterColumnType table column _ previous =>
    if previous = .unknown then none else some (alterTypeChars table column previous)

/-- The text of the statement that undoes another. -/
def compensating (statement : DdlStatement) : Option String :=
  statement.compensatingChars.map String.ofList

end DdlStatement

/-- The name of the index on one column; a name that is too long is cut and ends in a hash. -/
def indexName (table column : Identifier) : Except IdentifierError Identifier :=
  let name := "idx_".toList ++ table.name.toList ++ '_' :: column.name.toList
  if Text.utf8Length name ≤ maxIdentifierLength then Identifier.ofName (String.ofList name)
  else
    let suffix := Digest.shortHash 8 name
    Identifier.ofName (String.ofList (name.take 54 ++ '_' :: suffix.toList))

end SchemaDrift
