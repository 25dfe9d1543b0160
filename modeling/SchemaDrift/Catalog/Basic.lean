import SchemaDrift.Live.Table
import SchemaDrift.Time.Span

namespace SchemaDrift

/-- Why a catalog cannot do what it is asked. -/
inductive CatalogError where
  | connection (reason : String)
  | tableNotFound (table : String)
  | permission (reason : String)
  | query (reason : String)
  | execution (reason : String)
  | timeout (limit : Span)
  | configuration (reason : String)
  deriving DecidableEq, Inhabited

namespace CatalogError

def message : CatalogError → String
  | connection reason => "Connection failed: " ++ reason
  | tableNotFound table => "Table not found: " ++ table
  | permission reason => "Permission denied: " ++ reason
  | query reason => "Query failed: " ++ reason
  | execution reason => "Statement failed: " ++ reason
  | timeout limit => "Timed out after " ++ limit.text
  | configuration reason => "Configuration error: " ++ reason

def kind : CatalogError → String
  | connection _ => "ConnectionError"
  | tableNotFound _ => "TableNotFound"
  | permission _ => "PermissionDenied"
  | query _ => "QueryError"
  | execution _ => "ExecutionError"
  | timeout _ => "Timeout"
  | configuration _ => "ConfigError"

/-- The failure of a named kind, with what it says or the time that it speaks of. -/
def ofKind? (name reason : String) (limit : Span) : Option CatalogError :=
  [connection reason, tableNotFound reason, permission reason, query reason, execution reason,
    timeout limit, configuration reason].find? fun error => error.kind == name

/-- The database could not be reached at all. -/
def isUnavailable : CatalogError → Bool
  | connection _ => true
  | timeout _ => true
  | _ => false

end CatalogError

/-- A batch that a catalog was asked to run, and whether it took effect. -/
structure BatchRecord where
  statements : List String
  success : Bool
  deriving DecidableEq, Inhabited

/-- A catalog. Unqualified names belong to `schema`; `faults` are answered when their table is asked
for, and a statement that holds one of the texts of `failing` fails. Every answer takes the time
`latency`. -/
structure Catalog where
  schema : String
  tables : Keyed LiveTable
  faults : Keyed CatalogError
  failing : List String
  available : Bool
  latency : Span
  log : List BatchRecord
  deriving DecidableEq, Inhabited

def qualifiedName (schema table : String) : String := schema ++ "." ++ table

namespace Catalog

/-- A catalog without tables. -/
def empty (schema : String) (latency : Span) : Catalog :=
  ⟨schema, [], [], [], true, latency, []⟩

/-- The catalog with a table in its own schema, in place of one of the same name. -/
def addTable (catalog : Catalog) (table : LiveTable) : Catalog :=
  { catalog with tables := catalog.tables.insert (qualifiedName catalog.schema table.name) table }

def ofTables (schema : String) (latency : Span) (tables : List LiveTable) : Catalog :=
  tables.foldl addTable (empty schema latency)

/-- The catalog that answers with a failure when a table is asked for. -/
def addFault (catalog : Catalog) (table : String) (fault : CatalogError) : Catalog :=
  { catalog with faults := catalog.faults.insert table fault }

/-- The catalog in which statements that hold a text fail. -/
def addFailing (catalog : Catalog) (pattern : String) : Catalog :=
  { catalog with failing := catalog.failing ++ [pattern] }

/-- The catalog without failures to answer with. -/
def clearFaults (catalog : Catalog) : Catalog := { catalog with faults := [], failing := [] }

/-- A failure, unless the catalog can be reached. -/
def checkAvailable (catalog : Catalog) : Except CatalogError Unit :=
  if catalog.available then .ok () else .error (.connection "Simulated connection failure")

/-- The part of a qualified name behind a schema. -/
def nameWithin? (schema name : String) : Option String :=
  let lead := (schema ++ ".").toList
  if Text.startsWith lead name.toList then some (String.ofList (name.toList.drop lead.length))
  else none

/-- The names of the tables of a schema, in order. -/
def list (catalog : Catalog) (schema : String) : Except CatalogError (List String) := do
  catalog.checkAvailable
  return catalog.tables.keys.filterMap (nameWithin? schema)

def fetch (catalog : Catalog) (schema table : String) : Except CatalogError LiveTable := do
  catalog.checkAvailable
  let name := qualifiedName schema table
  match catalog.faults.get? name with
  | some fault => throw fault
  | none =>
    match catalog.tables.get? name with
    | some found => return found
    | none => throw (.tableNotFound name)

/-- The tables of the catalog's own schema under their names; none while it cannot be reached. -/
def ownTables (catalog : Catalog) : Keyed LiveTable :=
  match catalog.list catalog.schema with
  | .error _ => []
  | .ok names => names.filterMap fun name =>
      (catalog.tables.get? (qualifiedName catalog.schema name)).map fun table => (name, table)

end Catalog

end SchemaDrift
