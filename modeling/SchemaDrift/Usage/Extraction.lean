import SchemaDrift.LogicalType.Spelling
import SchemaDrift.Sql.Rendering
import SchemaDrift.Usage.Basic

/-
This file finds the tables and columns that a statement uses. Names are resolved in scopes: the name
of a named query hides a table, an alias stands for its table, and a column without a qualifier
belongs to a table only when the innermost scope holds nothing else. System catalogs are passed
over.
-/

namespace SchemaDrift

open Sql

/-- A relation that a scope knows by name; a relation that is no table of the schema has none. -/
structure Binding where
  name : String
  table : Option String
  deriving DecidableEq, Inhabited

/-- The names that a place in a statement sees: frames of named queries and scopes of relations,
innermost first. -/
structure Scopes where
  definitions : List (List String)
  relations : List (List Binding)
  deriving Inhabited

/-- The tables and uses found so far, in the order in which they were found. -/
structure Findings where
  tables : List String
  usages : List ColumnUsage
  deriving DecidableEq, Inhabited

/-- A walk over a part of a statement. -/
abbrev Walk := Findings → Findings

def lastFolded (name : QualifiedName) : String :=
  ((name.getLast?).map Name.folded).getD ""

/-- The table of the schema that a name stands for, unless it is one of a system catalog. -/
def tableOf (name : QualifiedName) : Option String :=
  match name.reverse with
  | [] => none
  | last :: qualifiers =>
    let table := last.folded
    let inCatalog := match qualifiers with
      | [] => false
      | qualifier :: _ =>
        qualifier.folded == "pg_catalog" || qualifier.folded == "information_schema"
    if inCatalog || Text.startsWith "pg_".toList table.toList || table == "information_schema" then
      none
    else some table

namespace Findings

/-- Adds a table unless it is there. -/
def reference (table : String) (findings : Findings) : Findings :=
  if findings.tables.contains table then findings
  else { findings with tables := findings.tables ++ [table] }

def add (usage : ColumnUsage) (findings : Findings) : Findings :=
  { findings with usages := findings.usages ++ [usage] }

end Findings

namespace Scopes

/-- The scopes of a statement before anything was seen. -/
def start : Scopes := ⟨[], []⟩

/-- The scopes with an innermost one of the given relations. -/
def entering (bindings : List Binding) (scopes : Scopes) : Scopes :=
  { scopes with relations := bindings :: scopes.relations }

/-- The scopes with a frame of named queries. -/
def defining (names : List String) (scopes : Scopes) : Scopes :=
  { scopes with definitions := names :: scopes.definitions }

/-- The name alone is that of a named query. -/
def isDefinition (scopes : Scopes) (name : QualifiedName) : Bool :=
  match name with
  | [single] => scopes.definitions.any (·.contains single.folded)
  | _ => false

/-- The table that the innermost scope holds alone. -/
def onlyTable (scopes : Scopes) : Option String :=
  match scopes.relations with
  | [binding] :: _ => binding.table
  | _ => none

/-- The table that a qualifier stands for, by the innermost scope that knows it. -/
def qualified (scopes : Scopes) (qualifier : String) : Option String :=
  (scopes.relations.findSome? fun scope => scope.find? (·.name == qualifier)).bind (·.table)

end Scopes

namespace Sql.Expr

/-- The expression is a column, with or without parentheses. -/
def isColumn : Expr → Bool
  | column _ => true
  | nested inner => inner.isColumn
  | _ => false

def columnName? : Expr → Option QualifiedName
  | column name => some name
  | nested inner => inner.columnName?
  | _ => none

end Sql.Expr

/-- The table and the column that a name stands for. -/
def Scopes.resolve (scopes : Scopes) (name : QualifiedName) : Option (String × String) :=
  match name.reverse with
  | [] => none
  | [column] => scopes.onlyTable.map fun table => (table, column.folded)
  | column :: qualifier :: _ =>
    (scopes.qualified qualifier.folded).map fun table => (table, column.folded)

/-- The start of the placeholders that stand for interpolated expressions. -/
def interpolationPlaceholder : String := ":__i"

/-- A quoted text is a parameter when it is a placeholder of an interpolation. -/
def quotedValue (text : String) : ValueContext :=
  match Text.dropLead? interpolationPlaceholder.toList text.toList with
  | some rest =>
    if !rest.isEmpty && rest.all Text.isAsciiDigit then .parameter text none else .quotedString text
  | none => .quotedString text

/-- A number with a minus sign; any other value stays. -/
def ValueContext.negated : ValueContext → ValueContext
  | .number text => .number ("-" ++ text)
  | value => value

/-- The values that an expression is, where it is plain enough to tell. -/
def valuesOf : Expr → List ValueContext
  | .number text _ => [.number text]
  | .text form value =>
    match form with
    | .plain => [quotedValue value]
    | .dollar _ => [quotedValue value]
    | _ => []
  | .boolean _ => [.boolean]
  | .null => [.null]
  | .placeholder text => [.parameter text none]
  | .cast _ operand dataType =>
    match LogicalType.ofSpelling dataType with
    | .unknown => valuesOf operand
    | type => [.declared type]
  | .typedText dataType _ => [.declared (.ofSpelling dataType)]
  | .unary .minus operand => (valuesOf operand).map ValueContext.negated
  | .unary _ operand => valuesOf operand
  | .nested inner => valuesOf inner
  | .call name _ _ => [.function (Text.upperString (QualifiedName.render name))]
  | _ => []

/-- Adds the use of the column that an expression is, if it is one of a known table. -/
def record (scopes : Scopes) (expr : Expr) (mode : AccessMode) (comparison : Option Comparison)
    (values : List ValueContext) : Walk := fun findings =>
  match expr.columnName?.bind scopes.resolve with
  | some (table, column) => findings.add ⟨table, column, mode, comparison, values⟩
  | none => findings

def comparisonOf : Operator → Option Comparison
  | .equal => some .equality
  | .less | .lessOrEqual | .greater | .greaterOrEqual => some .range
  | .notEqual | .other _ => none

def isComparison : Operator → Bool
  | .other _ => false
  | _ => true

mutual

/-- Walks over an expression that is used in a mode. -/
def walkExpr (scopes : Scopes) (mode : AccessMode) : Expr → Walk
  | .column name => record scopes (.column name) mode none []
  | .binary operator left right => fun findings =>
    if isComparison operator then
      match left.isColumn, right.isColumn with
      | true, false =>
        walkExpr scopes .read right
          (record scopes left mode (comparisonOf operator) (valuesOf right) findings)
      | false, true =>
        walkExpr scopes .read left
          (record scopes right mode (comparisonOf operator) (valuesOf left) findings)
      | true, true =>
        record scopes right mode (comparisonOf operator) []
          (record scopes left mode (comparisonOf operator) [] findings)
      | false, false => walkExpr scopes mode right (walkExpr scopes mode left findings)
    else walkExpr scopes mode right (walkExpr scopes mode left findings)
  | .inList operand _ items => fun findings =>
    walkExprs scopes .read items
      (if operand.isColumn then
        record scopes operand mode (some .membership) (items.flatMap valuesOf) findings
      else walkExpr scopes mode operand findings)
  | .inQuery operand _ query => fun findings =>
    walkQuery scopes query (record scopes operand mode (some .membership) [] findings)
  | .anyOf _ _ operand right => fun findings =>
    walkExpr scopes .read right (record scopes operand mode (some .membership) [] findings)
  | .between operand _ low high => fun findings =>
    walkExpr scopes .read high (walkExpr scopes .read low
      (record scopes operand mode (some .range) (valuesOf low ++ valuesOf high) findings))
  | .like _ operand pattern _ => fun findings =>
    walkExpr scopes .read pattern
      (record scopes operand mode (some .pattern) (valuesOf pattern) findings)
  | .isNull operand _ => walkExpr scopes mode operand
  | .nested inner => walkExpr scopes mode inner
  | .unary _ operand => walkExpr scopes mode operand
  | .cast _ operand _ => walkExpr scopes mode operand
  | .choice operand conditions results otherwise => fun findings =>
    let afterOperand := match operand with
      | none => findings
      | some operand => walkExpr scopes .read operand findings
    let afterBranches :=
      walkExprs scopes .read results (walkExprs scopes .read conditions afterOperand)
    match otherwise with
    | none => afterBranches
    | some otherwise => walkExpr scopes .read otherwise afterBranches
  | .call _ arguments _ => walkArguments scopes mode arguments
  | .exists _ query => walkQuery scopes query
  | .subquery query => walkQuery scopes query
  | .tuple items => walkExprs scopes mode items
  | _ => id

def walkExprs (scopes : Scopes) (mode : AccessMode) : List Expr → Walk
  | [] => id
  | expr :: exprs => fun findings =>
    walkExprs scopes mode exprs (walkExpr scopes mode expr findings)

def walkArguments (scopes : Scopes) (mode : AccessMode) : Arguments → Walk
  | .absent => id
  | .query query => walkQuery scopes query
  | .list _ items _ => walkArgumentList scopes mode items

def walkArgumentList (scopes : Scopes) (mode : AccessMode) : List Argument → Walk
  | [] => id
  | argument :: arguments => fun findings =>
    walkArgumentList scopes mode arguments (walkArgument scopes mode argument findings)

def walkArgument (scopes : Scopes) (mode : AccessMode) : Argument → Walk
  | .value expr => walkExpr scopes mode expr
  | .named _ _ expr => walkExpr scopes mode expr
  | .wildcard _ => id

/-- Walks over a query; its named queries see each other and are seen by its body. -/
def walkQuery (scopes : Scopes) : Query → Walk
  | .mk _ definitions body _ => fun findings =>
    let inner := scopes.defining (definitionNames definitions)
    walkBody inner body (walkDefinitions inner definitions findings)

def definitionNames : List Definition → List String
  | [] => []
  | .mk name _ _ _ _ :: definitions => name.folded :: definitionNames definitions

def walkDefinitions (scopes : Scopes) : List Definition → Walk
  | [] => id
  | definition :: definitions => fun findings =>
    walkDefinitions scopes definitions (walkDefinition scopes definition findings)

def walkDefinition (scopes : Scopes) : Definition → Walk
  | .mk _ _ _ query _ => walkQuery scopes query

def walkBody (scopes : Scopes) : Body → Walk
  | .select select => walkSelect scopes select
  | .query query => walkQuery scopes query
  | .combination _ left right => fun findings =>
    walkBody scopes right (walkBody scopes left findings)
  | .values _ rows => walkRows scopes rows
  | .phrase _ => id

def walkRows (scopes : Scopes) : List (List Expr) → Walk
  | [] => id
  | row :: rows => fun findings => walkRows scopes rows (walkExprs scopes .read row findings)

/-- Walks over a selection: its relations first, then the conditions of their joins, then what is
selected and on which conditions. -/
def walkSelect (scopes : Scopes) : Select → Walk
  | .mk _ items _ sources condition groups _ having _ => fun findings =>
    let (bindings, found) := bindSources scopes [] sources findings
    let inner := scopes.entering bindings
    let found := walkJoinsOf inner sources found
    let found := walkItems inner items found
    let found := match condition with
      | none => found
      | some condition => walkExpr inner .filter condition found
    let found := walkExprs inner .read groups found
    match having with
    | none => found
    | some having => walkExpr inner .read having found

def walkItems (scopes : Scopes) : List Item → Walk
  | [] => id
  | item :: items => fun findings => walkItems scopes items (walkItem scopes item findings)

def walkItem (scopes : Scopes) : Item → Walk
  | .value expr => walkExpr scopes .read expr
  | .aliased expr _ => walkExpr scopes .read expr
  | .wildcard _ => id

/-- The relations of sources, added to those that are bound, and the findings in them. -/
def bindSources (scopes : Scopes) (bound : List Binding) :
    List Source → Findings → List Binding × Findings
  | [], findings => (bound, findings)
  | source :: sources, findings =>
    let (bound, findings) := bindSource scopes bound source findings
    bindSources scopes bound sources findings

def bindSource (scopes : Scopes) (bound : List Binding) :
    Source → Findings → List Binding × Findings
  | .mk factor joins, findings =>
    let (bound, findings) := bindFactor scopes bound factor findings
    bindJoins scopes bound joins findings

def bindJoins (scopes : Scopes) (bound : List Binding) :
    List Join → Findings → List Binding × Findings
  | [], findings => (bound, findings)
  | .mk _ factor _ :: joins, findings =>
    let (bound, findings) := bindFactor scopes bound factor findings
    bindJoins scopes bound joins findings

/-- The relations of a factor, added to those that are bound. Relations joined in parentheses see
what is bound so far. -/
def bindFactor (scopes : Scopes) (bound : List Binding) :
    Factor → Findings → List Binding × Findings
  | .table name _ label _, findings =>
    let label := label.map (·.name.folded)
    if scopes.isDefinition name then (bound ++ [⟨label.getD (lastFolded name), none⟩], findings)
    else match tableOf name with
      | some table => (bound ++ [⟨label.getD table, some table⟩], findings.reference table)
      | none => (bound ++ [⟨label.getD (lastFolded name), none⟩], findings)
  | .derived _ query label, findings =>
    (bound ++ [⟨(label.map (·.name.folded)).getD "", none⟩],
      walkQuery (scopes.entering bound) query findings)
  | .joined source _, findings =>
    let (bound, findings) := bindSource scopes bound source findings
    (bound, walkSourceJoins (scopes.entering bound) source findings)
  | .phrase _, findings => (bound ++ [⟨"", none⟩], findings)

def walkJoinsOf (scopes : Scopes) : List Source → Walk
  | [] => id
  | source :: sources => fun findings =>
    walkJoinsOf scopes sources (walkSourceJoins scopes source findings)

def walkSourceJoins (scopes : Scopes) : Source → Walk
  | .mk _ joins => walkJoins scopes joins

def walkJoins (scopes : Scopes) : List Join → Walk
  | [] => id
  | join :: joins => fun findings => walkJoins scopes joins (walkJoin scopes join findings)

def walkJoin (scopes : Scopes) : Join → Walk
  | .mk _ _ condition => walkCondition scopes condition

def walkCondition (scopes : Scopes) : JoinCondition → Walk
  | .on expr => walkExpr scopes .filter expr
  | .using _ => id
  | .absent => id

end

/-- The type that a statement declares for a column. -/
def declaredUsage (table : String) (column : ColumnDeclaration) : ColumnUsage :=
  .plain table column.name.folded .write [.declared (.ofSpelling column.dataType)]

/-- The uses of the columns that the values of a row are written to; values without a column are
only read. -/
def walkRow (table : String) : List String → List Expr → Walk
  | _, [] => id
  | [], value :: values => fun findings =>
    walkRow table [] values (walkExpr .start .read value findings)
  | column :: columns, value :: values => fun findings =>
    walkRow table columns values
      (walkExpr .start .read value (findings.add (.plain table column .write (valuesOf value))))

def walkInsertion (table : String) (columns : List String) (source : Option Query) : Walk :=
  fun findings =>
    match source with
    | some (.mk _ _ (.values _ rows) _) =>
      rows.foldl (fun found row => walkRow table columns row found) findings
    | source =>
      let found := columns.foldl
        (fun found column => found.add (.plain table column .write [])) findings
      match source with
      | some query => walkQuery .start query found
      | none => found

def Sql.AssignmentTarget.columns : AssignmentTarget → List String
  | .column name => (name.getLast?.map Name.folded).toList
  | .tuple names => names.filterMap fun name => name.getLast?.map Name.folded

/-- Walks over an assignment to columns of a table. -/
def walkAssignment (scopes : Scopes) (table : String) (assignment : Assignment) : Walk :=
  fun findings =>
    walkExpr scopes .read assignment.value
      (assignment.target.columns.foldl
        (fun found column => found.add (.plain table column .write (valuesOf assignment.value)))
        findings)

def changeUsages (table : String) : TableChange → List ColumnUsage
  | .addColumn _ _ column => [declaredUsage table column]
  | .setType column dataType _ =>
    [.plain table column.folded .write [.declared (.ofSpelling dataType)]]
  | .other _ => []

def indexUsages (table : String) (columns : List IndexColumn) : List ColumnUsage :=
  columns.filterMap fun column =>
    match column.expr with
    | .column [name] => some (.plain table name.folded .read [])
    | _ => none

/-- The kind of a statement, its target, and what was found in it. -/
def findings? : Statement → Option (StatementKind × Option String × Findings)
  | .query query => some (.select, none, walkQuery .start query ⟨[], []⟩)
  | .insert _ name _ columns source _ => do
    let table ← tableOf name
    let found := walkInsertion table (columns.map Name.folded) source ⟨[table], []⟩
    some (.insert, some table, found)
  | .update _ source assignments _ condition _ => do
    let (bindings, found) := bindSource .start [] source ⟨[], []⟩
    let scopes := Scopes.start.entering bindings
    let table ← scopes.onlyTable
    let found := assignments.foldl
      (fun found assignment => walkAssignment scopes table assignment found)
      found
    let found := match condition with
      | none => found
      | some condition => walkExpr scopes .filter condition found
    some (.update, some table, found)
  | .createTable _ _ name columns _ _ => do
    let table ← tableOf name
    some (.create, some table, ⟨[table], columns.map (declaredUsage table)⟩)
  | .createIndex _ _ _ _ name _ columns _ => do
    let table ← tableOf name
    some (.create, some table, ⟨[table], indexUsages table columns⟩)
  | .alterTable _ name changes => do
    let table ← tableOf name
    some (.alter, some table, ⟨[table], changes.flatMap (changeUsages table)⟩)
  | .other _ => none

/-- What a statement says about tables, if it is of a kind that is understood and names a table. -/
def StatementUsage.ofStatement? (statement : Statement) : Option StatementUsage := do
  let (kind, target, found) ← findings? statement
  if found.tables.isEmpty then none else some ⟨kind, target, found.tables, found.usages⟩

end SchemaDrift
