import SchemaDrift.Inference.Schema
import SchemaDrift.Issue.Basic
import SchemaDrift.Live.Table

namespace SchemaDrift

/-- What counts as enough evidence, and the tables that are never reported. -/
structure DetectionRules where
  minEvidence : Nat
  ignores : String → Bool

namespace DetectionRules

/-- The number of places that a type or an index needs; one is the least. -/
def required (rules : DetectionRules) : Nat := max 1 rules.minEvidence

end DetectionRules

/-- A table of the database system itself. -/
def isSystemTable (name : String) : Bool :=
  Text.startsWith "pg_".toList name.toList || name == "information_schema"
    || Text.startsWith "information_schema.".toList name.toList

namespace Detection

/-- The issue of a table that does not exist. It covers all columns of the table. -/
def missingTable (rules : DetectionRules) (now : Moment) (table : InferredTable) : Issue :=
  let count := table.sites.length
  let evidence := Evidence.ofSites count table.sites
    ("referenced by " ++ toString count ++ " statement(s)")
  { Issue.detected .missingTable table.name none evidence now with
    expected := some "table"
    actual := some "missing"
    expectedColumns := table.columns.values.map fun column =>
      ⟨column.name, column.declaredType rules.required⟩ }

/-- The issue of a column that does not exist. -/
def missingColumn (rules : DetectionRules) (now : Moment) (table : InferredTable)
    (column : InferredColumn) : Issue :=
  let count := column.usageSites.length
  let evidence := Evidence.ofSites count column.usageSites
    ("used at " ++ toString count ++ " site(s)")
  let type := column.declaredType rules.required
  { Issue.detected .missingColumn table.name (some column.name) evidence now with
    expected := some (type.getD .string).display
    expectedType := type }

/-- A live type is text, and a proposed one is specific and of another family. -/
def isMismatch (proposed live : LogicalType) : Bool :=
  live.isText && proposed.isSpecific && proposed.isMoreSpecificThan live
    && !proposed.isCompatibleWith live

/-- The issue of a text column that holds something specific. -/
def typeMismatch? (rules : DetectionRules) (now : Moment) (table : InferredTable)
    (column : InferredColumn) (live : LiveColumn) : Option Issue := do
  let proposed ← column.proposedType rules.required
  if !isMismatch proposed live.type then none
  else
    let count := column.evidenceCount
    let evidence := Evidence.ofSites count column.supportingSites
      (toString count ++ " site(s) use " ++ proposed.display ++ " values")
    some { Issue.detected .typeMismatch table.name (some column.name) evidence now with
      expected := some proposed.display
      actual := some live.type.display
      expectedType := some proposed
      actualType := some live.type }

/-- The issue of a column that is filtered often and leads no index. -/
def missingIndex? (rules : DetectionRules) (now : Moment) (table : InferredTable)
    (column : InferredColumn) (live : LiveTable) : Option Issue :=
  let count := column.filterCount
  if count < rules.required || live.hasLeadingIndex column.name then none
  else
    let evidence := Evidence.ofSites count column.filterSites
      ("filtered by equality at " ++ toString count ++ " site(s)")
    some { Issue.detected .missingIndex table.name (some column.name) evidence now with
      expected := some "index"
      actual := some "none" }

def columnIssues (rules : DetectionRules) (now : Moment) (table : InferredTable)
    (live : LiveTable) (column : InferredColumn) : List Issue :=
  match live.column? column.name with
  | none => [missingColumn rules now table column]
  | some liveColumn =>
    (typeMismatch? rules now table column liveColumn).toList
      ++ (missingIndex? rules now table column live).toList

def tableIssues (rules : DetectionRules) (now : Moment) (snapshot : Snapshot)
    (table : InferredTable) : List Issue :=
  if isSystemTable table.name || rules.ignores table.name then []
  else match snapshot.table? table.name with
    | none => [missingTable rules now table]
    | some live => table.columns.values.flatMap (columnIssues rules now table live)

/-- The order of two names of which each may be missing; a missing one comes first. -/
def compareNames : Option String → Option String → Ordering
  | none, none => .eq
  | none, some _ => .lt
  | some _, none => .gt
  | some a, some b => compareText a b

/-- The order of issues: by table, then kind, then column. -/
def orderIssues (a b : Issue) : Ordering :=
  ((compareText a.table b.table).then (compareText a.kind.code b.kind.code)).then
    (compareNames a.column b.column)

end Detection

/-- All issues, in order of table, kind and column. -/
def detectIssues (rules : DetectionRules) (inferred : InferredSchema) (snapshot : Snapshot)
    (now : Moment) : List Issue :=
  sortStable Detection.orderIssues
    ((Keyed.values inferred).flatMap (Detection.tableIssues rules now snapshot))

end SchemaDrift
