import SchemaDrift.Catalog.Definition
import SchemaDrift.Sql.Grammar.Statement

/-
This file holds the execution of a batch of statements on a catalog. Either every statement takes
effect or none does, and every batch is recorded.
-/

namespace SchemaDrift

/-- Why a batch has no effect. -/
inductive BatchError where
  | simulated (pattern : String)
  | unparsable
  | refused (error : DefinitionError)
  deriving DecidableEq, Inhabited

def BatchError.message : BatchError → String
  | simulated pattern => "Simulated failure for statement matching '" ++ pattern ++ "'"
  | unparsable => "syntax error: the text is no statement"
  | refused error => error.message

namespace Catalog

/-- The tables after the statements of one text. -/
def runText (catalog : Catalog) (tables : Keyed LiveTable) (text : String) :
    Except BatchError (Keyed LiveTable) :=
  match catalog.failing.find? fun pattern => Text.containsPart pattern.toList text.toList with
  | some pattern => .error (.simulated pattern)
  | none =>
    match Sql.Statement.ofText? .postgres text.toList with
    | none => .error .unparsable
    | some statements =>
      (statements.foldlM (Definition.run catalog.schema) tables).mapError .refused

/-- The tables after a batch of texts. -/
def runBatch (catalog : Catalog) (texts : List String) : Except BatchError (Keyed LiveTable) :=
  texts.foldlM catalog.runText catalog.tables

/-- The tables after a batch that has to end within a time, or why it has no effect. -/
def attempt (catalog : Catalog) (texts : List String) (limit : Span) :
    Except CatalogError (Keyed LiveTable) := do
  if limit.nanos < catalog.latency.nanos then throw (.timeout limit)
  catalog.checkAvailable
  match catalog.runBatch texts with
  | .ok tables => return tables
  | .error error => throw (.execution error.message)

/-- The catalog after a batch that has to end within a time, and why the batch had no effect. -/
def execute (catalog : Catalog) (texts : List String) (limit : Span) :
    Catalog × Option CatalogError :=
  match catalog.attempt texts limit with
  | .ok tables => ({ catalog with tables, log := catalog.log ++ [⟨texts, true⟩] }, none)
  | .error error => ({ catalog with log := catalog.log ++ [⟨texts, false⟩] }, some error)

/-- How long a batch takes that has to end within a time. -/
def executionTime (catalog : Catalog) (limit : Span) : Span := catalog.latency.shorter limit

end Catalog

end SchemaDrift
