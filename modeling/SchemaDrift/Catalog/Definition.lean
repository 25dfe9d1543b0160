import SchemaDrift.Catalog.Basic
import SchemaDrift.Sql.Rendering

namespace SchemaDrift

/-- Why a statement has no effect on tables. -/
inductive DefinitionError where
  | relationExists (name : String)
  | relationMissing (name : String)
  | columnExists (column table : String)
  | columnMissing (column table : String)
  | indexedColumnMissing (column : String)
  | unsupportedStatement (text : String)
  | unsupportedChange (text : String)
  | unsupportedIndex (text : String)
  deriving DecidableEq, Inhabited

/-- A name between double quotes. -/
def quotedName (name : String) : String := "\"" ++ name ++ "\""

def DefinitionError.message : DefinitionError → String
  | relationExists name => "relation " ++ quotedName name ++ " already exists"
  | relationMissing name => "relation " ++ quotedName name ++ " does not exist"
  | columnExists column table =>
    "column " ++ quotedName column ++ " of relation " ++ quotedName table ++ " already exists"
  | columnMissing column table =>
    "column " ++ quotedName column ++ " of relation " ++ quotedName table ++ " does not exist"
  | indexedColumnMissing column => "column " ++ quotedName column ++ " does not exist"
  | unsupportedStatement text => "unsupported statement: " ++ text
  | unsupportedChange text => "unsupported ALTER TABLE operation: " ++ text
  | unsupportedIndex text => "unsupported index expression: " ++ text

namespace Definition

/-- The qualified name and the plain name of a relation; an unqualified one belongs to `schema`. -/
def resolve (schema : String) (name : Sql.QualifiedName) : String × String :=
  match (name.map Sql.Name.folded).reverse with
  | [] => ("", "")
  | [table] => (qualifiedName schema table, table)
  | table :: qualifier :: _ => (qualifiedName qualifier table, table)

/-- The declared type that a catalog shows, and the default that comes with it: a serial type is the
whole number that it counts with. -/
def declaredType (written : String) : String × Option String :=
  let lower := Text.lowerString written
  if lower == "bigserial" || lower == "serial8" then ("bigint", some "nextval()")
  else if lower == "serial" || lower == "serial4" then ("integer", some "nextval()")
  else if lower == "smallserial" || lower == "serial2" then ("smallint", some "nextval()")
  else (lower, none)

/-- The column with one of the options of its declaration. -/
def applyOption (column : LiveColumn) : Sql.ColumnOption → LiveColumn
  | .notNull => { column with nullable := false }
  | .default value => { column with default := some value.render }
  | .unique true _ => { column with nullable := false }
  | _ => column

def isKeyOption : Sql.ColumnOption → Bool
  | .unique primary _ => primary
  | _ => false

def columnOf (declaration : Sql.ColumnDeclaration) : LiveColumn :=
  let (declared, initial) := declaredType declaration.dataType
  let column := LiveColumn.ofDeclaration declaration.name.folded declared
  (declaration.options.map Prod.snd).foldl applyOption { column with default := initial }

/-- A declaration makes its column the key of the table. -/
def declaresKey (declaration : Sql.ColumnDeclaration) : Bool :=
  declaration.options.any fun option => isKeyOption option.2

def keyOfConstraint : Sql.ConstraintDeclaration → List String
  | .primaryKey _ _ columns _ => columns.map Sql.Name.folded
  | .other _ => []

def keyColumns (columns : List Sql.ColumnDeclaration)
    (constraints : List Sql.ConstraintDeclaration) : List String :=
  (columns.filter declaresKey).map (fun column => column.name.folded)
    ++ constraints.flatMap keyOfConstraint

/-- The table with a key: its columns hold no nulls, and an index and a constraint stand for it. -/
def withKey (table : LiveTable) (key : List String) : LiveTable :=
  if key.isEmpty then table
  else
    let name := table.name ++ "_pkey"
    { table with
      columns := table.columns.map fun column =>
        if key.contains column.name then { column with nullable := false } else column
      indexes := table.indexes ++ [⟨name, key, true, true⟩]
      constraints := table.constraints ++ [⟨name, .primaryKey, key⟩] }

def createTable (schema : String) (tables : Keyed LiveTable) (guarded : Bool)
    (name : Sql.QualifiedName) (columns : List Sql.ColumnDeclaration)
    (constraints : List Sql.ConstraintDeclaration) : Except DefinitionError (Keyed LiveTable) :=
  let (key, table) := resolve schema name
  if tables.has key then
    if guarded then .ok tables else .error (.relationExists table)
  else
    let created : LiveTable := ⟨table, columns.map columnOf, [], []⟩
    .ok (tables.insert key (withKey created (keyColumns columns constraints)))

/-- The columns with the type of the first one of a name changed; its default and nulls stay. -/
def setType (name written : String) : List LiveColumn → List LiveColumn
  | [] => []
  | column :: rest =>
    if column.name = name then
      { LiveColumn.ofDeclaration name (declaredType written).1 with
        nullable := column.nullable, default := column.default } :: rest
    else column :: setType name written rest

/-- The table after one change; `shown` is the name for messages. -/
def changeTable (shown : String) (table : LiveTable) :
    Sql.TableChange → Except DefinitionError LiveTable
  | .addColumn _ guarded declaration =>
    let column := columnOf declaration
    if (table.column? column.name).isSome then
      if guarded then .ok table else .error (.columnExists column.name shown)
    else .ok { table with columns := table.columns ++ [column] }
  | .setType column dataType _ =>
    if (table.column? column.folded).isSome then
      .ok { table with columns := setType column.folded dataType table.columns }
    else .error (.columnMissing column.folded shown)
  | .other text => .error (.unsupportedChange text)

def alterTable (schema : String) (tables : Keyed LiveTable) (name : Sql.QualifiedName)
    (changes : List Sql.TableChange) : Except DefinitionError (Keyed LiveTable) := do
  let (key, shown) := resolve schema name
  match tables.get? key with
  | none => throw (.relationMissing shown)
  | some table => return tables.insert key (← changes.foldlM (changeTable shown) table)

def hasIndex (tables : Keyed LiveTable) (name : String) : Bool :=
  tables.values.any fun table => table.indexes.any fun index => index.name == name

def indexedColumn (table : LiveTable) (part : Sql.IndexColumn) : Except DefinitionError String :=
  match part.expr with
  | .column [name] =>
    if (table.column? name.folded).isSome then .ok name.folded
    else .error (.indexedColumnMissing name.folded)
  | other => .error (.unsupportedIndex other.render)

/-- The name of an index, which is made up from the table where none is written. -/
def indexNameOf (name : Option Sql.QualifiedName) (table : String) : String :=
  match name.bind List.getLast? with
  | some last => last.folded
  | none => table ++ "_idx"

def createIndex (schema : String) (tables : Keyed LiveTable) (unique guarded : Bool)
    (name : Option Sql.QualifiedName) (table : Sql.QualifiedName) (columns : List Sql.IndexColumn) :
    Except DefinitionError (Keyed LiveTable) := do
  let (key, shown) := resolve schema table
  let index := indexNameOf name shown
  if hasIndex tables index then
    if guarded then return tables else throw (.relationExists index)
  else
    match tables.get? key with
    | none => throw (.relationMissing shown)
    | some target =>
      let indexed ← columns.mapM (indexedColumn target)
      return tables.insert key
        { target with indexes := target.indexes ++ [⟨index, indexed, unique, false⟩] }

def run (schema : String) (tables : Keyed LiveTable) :
    Sql.Statement → Except DefinitionError (Keyed LiveTable)
  | .createTable _ guarded name columns constraints _ =>
    createTable schema tables guarded name columns constraints
  | .alterTable _ name changes => alterTable schema tables name changes
  | .createIndex unique _ guarded name table _ columns _ =>
    createIndex schema tables unique guarded name table columns
  | other => .error (.unsupportedStatement other.render)

end Definition

end SchemaDrift
