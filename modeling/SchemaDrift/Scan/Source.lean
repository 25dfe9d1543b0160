import SchemaDrift.Host.Placeholder
import SchemaDrift.Settings.Basic
import SchemaDrift.Sql.Grammar.Statement
import SchemaDrift.Sql.Rendering
import SchemaDrift.Sql.Script
import SchemaDrift.Usage.Extraction

namespace SchemaDrift

/-- The dialect of the statements, and the tables that are never reported. -/
structure ScanRules where
  dialect : Dialect
  ignores : String → Bool

/-- What was found in a file: its statements, and how many texts looked like one and are none. -/
structure FileScan where
  statements : List SourceStatement
  skipped : Nat
  deriving DecidableEq, Inhabited

namespace FileScan

/-- Nothing found. -/
def empty : FileScan := ⟨[], 0⟩

/-- What was found in two parts of a file. -/
def append (first second : FileScan) : FileScan :=
  ⟨first.statements ++ second.statements, first.skipped + second.skipped⟩

/-- What was found in the parts of a file. -/
def concat (parts : List FileScan) : FileScan := parts.foldl append empty

end FileScan

def ValueContext.bindTo (bindings : Keyed String) : ValueContext → ValueContext
  | parameter placeholder _ => .parameter placeholder (bindings.get? placeholder)
  | value => value

/-- The use of a column with the expressions bound to its placeholders. -/
def ColumnUsage.bindTo (bindings : Keyed String) (usage : ColumnUsage) : ColumnUsage :=
  { usage with values := usage.values.map (·.bindTo bindings) }

/-- What a statement says about the tables that are kept; nothing if it names none of them. -/
def StatementUsage.restrict? (ignores : String → Bool) (bindings : Keyed String)
    (usage : StatementUsage) : Option StatementUsage :=
  let tables := usage.tables.filter fun table => !ignores table
  if tables.isEmpty then none
  else some {
    kind := usage.kind
    targetTable := usage.targetTable.filter tables.contains
    tables := tables
    usages := (usage.usages.filter fun use => tables.contains use.table).map (·.bindTo bindings) }

/-- A statement at a place of a source file, if it says something about a table that is kept. -/
def SourceStatement.ofStatement? (rules : ScanRules) (bindings : Keyed String)
    (location : Location) (statement : Sql.Statement) : Option SourceStatement := do
  let usage ← StatementUsage.ofStatement? statement
  let usage ← usage.restrict? rules.ignores bindings
  some ⟨statement.render, location, usage⟩

/-- What is found in a text that may hold statements. -/
def FileScan.ofCandidate (rules : ScanRules) (location : Location) (text : List Char)
    (bindings : Keyed String) : FileScan :=
  match Sql.Statement.ofText? rules.dialect text with
  | none => ⟨[], 1⟩
  | some statements =>
    ⟨statements.filterMap (SourceStatement.ofStatement? rules bindings location), 0⟩

def FileScan.ofLiteral (rules : ScanRules) (path : String) (literal : Host.Literal) : FileScan :=
  let bound := literal.boundText
  ofCandidate rules ⟨path, literal.line, none⟩ bound.text bound.bindings

/-- What is found in the content of the file at a path. The extension of the path says how the file
is read; a file of an unknown language holds nothing. -/
def FileScan.ofSource (rules : ScanRules) (path : String) (content : List Char) :
    Except Host.ReadFault FileScan :=
  match Host.Language.ofPath? path with
  | none => .ok .empty
  | some .sql =>
    .ok (.concat ((Sql.Script.statements content).map fun statement =>
      ofCandidate rules ⟨path, statement.1, none⟩ statement.2 []))
  | some language =>
    match Host.literalsOf language content with
    | .error fault => .error fault
    | .ok literals =>
      .ok (.concat ((literals.filter fun literal => Host.isCandidate literal.text).map
        (ofLiteral rules path)))

end SchemaDrift
