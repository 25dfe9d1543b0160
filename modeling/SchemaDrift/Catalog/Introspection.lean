import SchemaDrift.Catalog.Basic
import SchemaDrift.Settings.Basic

/-
This file holds how the tables of a schema are read from a catalog: their names first, then a number
of tables at a time. One table that cannot be read leaves no snapshot at all.
-/

namespace SchemaDrift

/-- Why there is no snapshot. -/
inductive IntrospectionError where
  | catalog (error : CatalogError)
  | timeout (operation : String) (limit : Span)
  | cancelled
  deriving DecidableEq, Inhabited

def IntrospectionError.message : IntrospectionError → String
  | catalog error => error.message
  | timeout operation limit => operation ++ " timed out after " ++ limit.text
  | cancelled => "introspection cancelled"

def IntrospectionError.kind : IntrospectionError → String
  | catalog error => error.kind
  | timeout _ _ => "IntrospectionTimeout"
  | cancelled => "Cancelled"

/-- Which schema is read, how many tables at a time, and how long an answer may take. -/
structure Introspection where
  schema : String
  concurrency : Nat
  limit : Span
  deriving DecidableEq, Inhabited

namespace Introspection

/-- The way of reading that settings ask for. -/
def ofSettings (settings : DatabaseSettings) : Introspection :=
  ⟨settings.schema, settings.introspectionConcurrency, .ofSeconds settings.timeoutSecs⟩

/-- The number of tables that are read at the same time: at least one. -/
def width (reading : Introspection) : Nat := max 1 reading.concurrency

/-- A table is one of the database itself. -/
def isInternal (name : String) : Bool := Text.startsWith "pg_".toList name.toList

def names (reading : Introspection) (catalog : Catalog) : Except IntrospectionError (List String) :=
  if reading.limit.nanos < catalog.latency.nanos then
    .error (.timeout "list tables" reading.limit)
  else
    match catalog.list reading.schema with
    | .error error => .error (.catalog error)
    | .ok found => .ok (found.filter fun name => !isInternal name)

/-- The tables of some names; the first that cannot be read is the failure. -/
def fetchAll (reading : Introspection) (catalog : Catalog) (wanted : List String) :
    Except IntrospectionError (List LiveTable) :=
  (wanted.mapM (catalog.fetch reading.schema)).mapError .catalog

/-- The snapshot of all tables that a catalog holds in the schema. -/
def capture (reading : Introspection) (catalog : Catalog) : Except IntrospectionError Snapshot := do
  let wanted ← reading.names catalog
  return .ofTables reading.schema (← reading.fetchAll catalog wanted)

end Introspection

/-- A reading on its way: it waits for the names, then for some of the tables at a time. -/
inductive Capture where
  | listing
  | fetching (wanted : List String) (found : List LiveTable)
  | finished (result : Except IntrospectionError Snapshot)

namespace Capture

/-- The reading with some tables found and others wanted; without a wanted table it is finished. -/
def ofProgress (reading : Introspection) (wanted : List String) (found : List LiveTable) :
    Capture :=
  if wanted.isEmpty then .finished (.ok (.ofTables reading.schema found))
  else .fetching wanted found

/-- The reading after the answer that it waits for. -/
def advance (reading : Introspection) (catalog : Catalog) : Capture → Capture
  | .listing =>
    match reading.names catalog with
    | .error error => .finished (.error error)
    | .ok wanted => ofProgress reading wanted []
  | .fetching wanted found =>
    match reading.fetchAll catalog (wanted.take reading.width) with
    | .error error => .finished (.error error)
    | .ok tables => ofProgress reading (wanted.drop reading.width) (found ++ tables)
  | .finished result => .finished result

def answerTime (reading : Introspection) (catalog : Catalog) : Capture → Span
  | .listing => catalog.latency.shorter reading.limit
  | .fetching _ _ => catalog.latency
  | .finished _ => ⟨0⟩

/-- The result of a reading that is cancelled when it takes longer than a time, within a number of
answers. -/
def finishWithin (reading : Introspection) (catalog : Catalog) :
    Nat → Span → Capture → Except IntrospectionError Snapshot
  | _, _, .finished result => result
  | 0, _, _ => .error .cancelled
  | answers + 1, patience, capture =>
    let wait := capture.answerTime reading catalog
    if patience.nanos < wait.nanos then .error .cancelled
    else
      finishWithin reading catalog answers ⟨patience.nanos - wait.nanos⟩
        (capture.advance reading catalog)

end Capture

/-- The snapshot of a reading that is cancelled when it takes longer than a time. -/
def Introspection.captureWithin (reading : Introspection) (catalog : Catalog) (patience : Span) :
    Except IntrospectionError Snapshot :=
  Capture.finishWithin reading catalog (catalog.tables.length + 2) patience .listing

end SchemaDrift
