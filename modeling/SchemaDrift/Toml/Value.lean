import SchemaDrift.Text.Chars

/-
This file holds the values of a TOML document, and the tree in which a document grows while its
lines are read. The tree remembers how each table came to be, because a table may be opened only
once.
-/

namespace SchemaDrift

/-- A TOML value; floats and dates keep nothing but their kind, as no setting is one. -/
inductive Toml where
  | string (value : String)
  | integer (value : Int)
  | float
  | bool (value : Bool)
  | date
  | array (items : List Toml)
  | table (entries : List (String × Toml))
  deriving Inhabited

namespace Toml

/-- How a table came to be: by its own header, as the parent of another, or by a dotted key. -/
inductive Origin where
  | header
  | parent
  | dotted
  deriving DecidableEq

/-- A node of a growing document. -/
inductive Node where
  | value (value : Toml)
  | table (origin : Origin) (entries : List (String × Node))
  | tables (elements : List (List (String × Node)))

/-- The entries of a table in the order of their appearance. -/
abbrev Entries := List (String × Node)

/-- The entries with the node of one key replaced, or added at the end. -/
def Entries.put (key : String) (node : Node) : Entries → Entries
  | [] => [(key, node)]
  | (other, old) :: rest =>
    if other == key then (key, node) :: rest else (other, old) :: Entries.put key node rest

def Node.toValue : Node → Toml
  | .value leaf => leaf
  | .table _ entries => .table (entriesToValue entries)
  | .tables elements => .array (elementsToValue elements)
where
  /-- The finished entries of a table. -/
  entriesToValue : List (String × Node) → List (String × Toml)
    | [] => []
    | (key, node) :: rest => (key, node.toValue) :: entriesToValue rest
  /-- The finished tables of an array of tables. -/
  elementsToValue : List (List (String × Node)) → List Toml
    | [] => []
    | entries :: rest => .table (entriesToValue entries) :: elementsToValue rest

/-- Changes the entries at the end of a path. Tables that are missing on the way are made with
`origin`; a dotted key may only pass through tables that no header opened. The change is told the
origin of the table that it is made in. -/
def changeAt (origin : Origin) (change : Origin → Entries → Option Entries) :
    List String → Origin → Entries → Option Entries
  | [], current, entries => change current entries
  | key :: path, _, entries =>
    match entries.lookup key with
    | none => do
      let inner ← changeAt origin change path origin []
      some (Entries.put key (.table origin inner) entries)
    | some (.value _) => none
    | some (.table other inner) =>
      if origin == .dotted && other == .header then none
      else do
        let inner ← changeAt origin change path other inner
        some (Entries.put key (.table other inner) entries)
    | some (.tables elements) =>
      match elements.reverse with
      | [] => none
      | last :: before => do
        let last ← changeAt origin change path .header last
        some (Entries.put key (.tables (last :: before).reverse) entries)

/-- Opens the table of a header `[path.key]`. -/
def openTable (path : List String) (key : String) (root : Entries) : Option Entries :=
  changeAt .parent (fun _ entries =>
    match entries.lookup key with
    | none => some (Entries.put key (.table .header []) entries)
    | some (.table .parent inner) => some (Entries.put key (.table .header inner) entries)
    | some _ => none) path .header root

/-- Opens a further element of the array of tables of a header `[[path.key]]`. -/
def openElement (path : List String) (key : String) (root : Entries) : Option Entries :=
  changeAt .parent (fun _ entries =>
    match entries.lookup key with
    | none => some (Entries.put key (.tables [[]]) entries)
    | some (.tables elements) => some (Entries.put key (.tables (elements ++ [[]])) entries)
    | some _ => none) path .header root

/-- Adds the value of `path.key` to a table; the key must be new. -/
def insertValue (path : List String) (key : String) (value : Toml) (origin : Origin)
    (entries : Entries) : Option Entries :=
  changeAt .dotted (fun current entries =>
    if !path.isEmpty && current != .dotted then none
    else match entries.lookup key with
      | none => some (Entries.put key (.value value) entries)
      | some _ => none) path origin entries

end Toml

end SchemaDrift
