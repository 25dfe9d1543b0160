import SchemaDrift.Location

namespace SchemaDrift

/-- Values under distinct keys, in the order of the keys. -/
abbrev Keyed (α : Type) := List (String × α)

namespace Keyed

variable {α β : Type}

def get? (key : String) : Keyed α → Option α
  | [] => none
  | (other, value) :: rest => if other = key then some value else get? key rest

/-- The records with a value put under a key in place of the one that was there. -/
def insert (key : String) (value : α) : Keyed α → Keyed α
  | [] => [(key, value)]
  | (other, old) :: rest =>
    match compareText key other with
    | .lt => (key, value) :: (other, old) :: rest
    | .eq => (key, value) :: rest
    | .gt => (other, old) :: insert key value rest

def modify (key : String) (change : α → α) : Keyed α → Keyed α
  | [] => []
  | (other, value) :: rest =>
    if other = key then (other, change value) :: rest else (other, value) :: modify key change rest

/-- The records of a list of pairs; of two values under one key the later stays. -/
def ofList (pairs : List (String × α)) : Keyed α :=
  pairs.foldl (fun records pair => records.insert pair.1 pair.2) []

def keys (records : Keyed α) : List String := records.map Prod.fst

def values (records : Keyed α) : List α := records.map Prod.snd

/-- There is a value under the key. -/
def has (key : String) (records : Keyed α) : Bool := (records.get? key).isSome

/-- The records with every value changed. -/
def mapValues (change : α → β) (records : Keyed α) : Keyed β :=
  records.map fun record => (record.1, change record.2)

end Keyed

/-- Adds an element to a list sorted by `order`, after the elements that are not greater. -/
def insertStable {α : Type} (order : α → α → Ordering) (element : α) : List α → List α
  | [] => [element]
  | other :: rest =>
    match order element other with
    | .lt => element :: other :: rest
    | _ => other :: insertStable order element rest

/-- The elements of a list in order; equal ones keep their places. -/
def sortStable {α : Type} (order : α → α → Ordering) (elements : List α) : List α :=
  elements.foldl (fun sorted element => insertStable order element sorted) []

end SchemaDrift
