import SchemaDrift.Location
import SchemaDrift.LogicalType.Basic

/-
This file holds what the uses of one column say about its type. Text is the weakest signal, a
specific type supersedes it, and two specific types that cannot live together are a conflict.
-/

namespace SchemaDrift

/-- What code says about one column. -/
structure InferredColumn where
  name : String
  bestType : LogicalType
  evidenceCount : Nat
  usageSites : List Location
  filterSites : List Location
  conflict : Bool
  conflicting : List LogicalType
  declared : Option LogicalType
  candidates : List (LogicalType × Location)
  deriving DecidableEq, Inhabited

/-- The text type that holds the values of two: the longer bound, or no bound. -/
def LogicalType.widenText : LogicalType → LogicalType → LogicalType
  | varchar (some a), varchar (some b) => varchar (some (max a b))
  | _, _ => string

/-- What a further candidate does to the type known so far. -/
inductive Merge where
  | adopt (type : LogicalType)
  | keep
  | conflict
  deriving DecidableEq, Inhabited

def LogicalType.merge (best candidate : LogicalType) : Merge :=
  if best = .unknown then .adopt candidate
  else if best.isText && candidate.isText then .adopt (best.widenText candidate)
  else if best.isText then .adopt candidate
  else if candidate.isText then .keep
  else match best.widen candidate with
    | some widened => .adopt widened
    | none => if best.isCompatibleWith candidate then .keep else .conflict

namespace InferredColumn

/-- A column about which nothing is known. -/
def named (name : String) : InferredColumn :=
  ⟨name, .unknown, 0, [], [], false, [], none, []⟩

/-- A candidate speaks for a type: text for text, and a specific type for those of its family. -/
def supports (best candidate : LogicalType) : Bool :=
  if best.isText then candidate.isText
  else !candidate.isText && candidate.isCompatibleWith best

/-- The distinct places that speak for the best type. -/
def supportingSites (column : InferredColumn) : List Location :=
  Location.distinct ((column.candidates.filter fun candidate =>
    supports column.bestType candidate.1).map Prod.snd)

/-- The column with its evidence counted. -/
def recount (column : InferredColumn) : InferredColumn :=
  { column with evidenceCount := column.supportingSites.length }

def addConflict (column : InferredColumn) (candidate : LogicalType) : InferredColumn :=
  { column with
    conflict := true
    conflicting :=
      if column.conflicting.contains candidate then column.conflicting
      else column.conflicting ++ [candidate] }

/-- The column after a candidate was observed at a place. -/
def observe (column : InferredColumn) (candidate : LogicalType) (site : Location) :
    InferredColumn :=
  if candidate = .unknown then column
  else
    let column := { column with candidates := column.candidates ++ [(candidate, site)] }
    recount <|
      match column.bestType.merge candidate with
      | .adopt type => { column with bestType := type }
      | .keep => column
      | .conflict => column.addConflict candidate

/-- The column after it was used at a place. -/
def addUsage (column : InferredColumn) (site : Location) : InferredColumn :=
  { column with usageSites := Location.insertSorted site column.usageSites }

/-- The column after it was filtered by equality or membership at a place. -/
def addFilter (column : InferredColumn) (site : Location) : InferredColumn :=
  { column with filterSites := Location.insertSorted site column.filterSites }

/-- The column after code declared its type; the first declaration stays. -/
def declare (column : InferredColumn) (type : LogicalType) : InferredColumn :=
  { column with declared := column.declared.or (some type) }

/-- The type to propose, once enough places agree and nothing conflicts. -/
def proposedType (column : InferredColumn) (minEvidence : Nat) : Option LogicalType :=
  if !column.conflict && column.bestType != .unknown && minEvidence ≤ column.evidenceCount then
    some column.bestType
  else none

/-- The type of a new column: the proposed one, else the one that code declared. -/
def declaredType (column : InferredColumn) (minEvidence : Nat) : Option LogicalType :=
  (column.proposedType minEvidence).or column.declared

/-- The number of places that filter the column by equality or membership. -/
def filterCount (column : InferredColumn) : Nat := column.filterSites.length

end InferredColumn

end SchemaDrift
