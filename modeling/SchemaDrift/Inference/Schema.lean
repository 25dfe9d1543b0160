import SchemaDrift.Inference.Classification
import SchemaDrift.Inference.Column
import SchemaDrift.Keyed
import SchemaDrift.Report

namespace SchemaDrift

/-- What code says about one table. -/
structure InferredTable where
  name : String
  sites : List Location
  columns : Keyed InferredColumn
  deriving DecidableEq, Inhabited

/-- What code says about the database. -/
abbrev InferredSchema := Keyed InferredTable

namespace InferredTable

/-- A table about which nothing is known. -/
def named (name : String) : InferredTable := ⟨name, [], []⟩

/-- The table after a statement at a place referred to it. -/
def addSite (table : InferredTable) (site : Location) : InferredTable :=
  { table with sites := Location.insertSorted site table.sites }

/-- The table with one of its columns changed; a column that was not there is new. -/
def updateColumn (table : InferredTable) (name : String)
    (change : InferredColumn → InferredColumn) : InferredTable :=
  let column := (table.columns.get? name).getD (.named name)
  { table with columns := table.columns.insert name (change column) }

def column? (table : InferredTable) (name : String) : Option InferredColumn :=
  table.columns.get? name

end InferredTable

/-- The column after a value met it at a place. -/
def InferredColumn.meet (site : Location) (column : InferredColumn) (value : ValueContext) :
    InferredColumn :=
  let column := match value with
    | .declared type => column.declare type
    | _ => column
  column.observe value.candidate site

/-- The column after one of its uses at a place. -/
def InferredColumn.use (site : Location) (usage : ColumnUsage) (column : InferredColumn) :
    InferredColumn :=
  let column := column.addUsage site
  let column := if usage.isPointFilter then column.addFilter site else column
  usage.values.foldl (InferredColumn.meet site) column

namespace InferredSchema

/-- Nothing known. -/
def empty : InferredSchema := []

/-- The schema with one of its tables changed; a table that was not there is new. -/
def updateTable (schema : InferredSchema) (name : String)
    (change : InferredTable → InferredTable) : InferredSchema :=
  Keyed.insert name (change ((Keyed.get? name schema).getD (.named name))) schema

/-- The schema after a use of a column at a place. -/
def addUsage (site : Location) (schema : InferredSchema) (usage : ColumnUsage) : InferredSchema :=
  schema.updateTable usage.table fun table =>
    (table.addSite site).updateColumn usage.column (InferredColumn.use site usage)

def addStatement (schema : InferredSchema) (statement : SourceStatement) : InferredSchema :=
  let site := statement.location
  let schema := statement.usage.tables.foldl
    (fun schema name => schema.updateTable name fun table => table.addSite site) schema
  statement.usage.usages.foldl (addUsage site) schema

def ofStatements (statements : List SourceStatement) : InferredSchema :=
  statements.foldl addStatement empty

end InferredSchema

/-- The elements of a list without repetitions of earlier ones. -/
def withoutRepeats : List String → List String :=
  List.foldl (fun kept text => if kept.contains text then kept else kept ++ [text]) []

/-- The greatest number of places shown with a conflict. -/
def maxConflictSites : Nat := 5

/-- The conflict of a column, for operators. -/
def InferredColumn.conflictIn (table : String) (column : InferredColumn) : TypeConflict where
  table := table
  column := column.name
  candidates := withoutRepeats ((column.bestType :: column.conflicting).map (·.display))
  sites := column.usageSites.take maxConflictSites

def InferredSchema.conflicts (schema : InferredSchema) : List TypeConflict :=
  (Keyed.values schema).flatMap fun table =>
    (table.columns.values.filter (·.conflict)).map (·.conflictIn table.name)

end SchemaDrift
