import SchemaDrift.Json.Value

namespace SchemaDrift

/-- A place in a source file; the column is rarely known. -/
structure Location where
  file : String
  line : Nat
  column : Option Nat
  deriving DecidableEq, Inhabited

/-- The order of two numbers of which each may be missing; a missing one comes first. -/
def compareOptional : Option Nat → Option Nat → Ordering
  | none, none => .eq
  | none, some _ => .lt
  | some _, none => .gt
  | some a, some b => compare a b

/-- The order of texts by their characters; it is also the order of their bytes in UTF-8. -/
def compareChars : List Char → List Char → Ordering
  | [], [] => .eq
  | [], _ :: _ => .lt
  | _ :: _, [] => .gt
  | a :: as, b :: bs => (compare a.toNat b.toNat).then (compareChars as bs)

def compareText (a b : String) : Ordering := compareChars a.toList b.toList

namespace Location

/-- The order of places: by file, then line, then column. -/
def order (a b : Location) : Ordering :=
  ((compareText a.file b.file).then (compare a.line b.line)).then
    (compareOptional a.column b.column)

/-- The place as shown to operators. -/
def display (location : Location) : String :=
  match location.column with
  | some column => location.file ++ ":" ++ toString location.line ++ ":" ++ toString column
  | none => location.file ++ ":" ++ toString location.line

def insertSorted (location : Location) : List Location → List Location
  | [] => [location]
  | other :: rest =>
    match order location other with
    | .lt => location :: other :: rest
    | .eq => other :: rest
    | .gt => other :: insertSorted location rest

/-- The distinct places of a list, in order. -/
def distinct (locations : List Location) : List Location :=
  locations.foldl (fun sites location => insertSorted location sites) []

/-- The JSON form of a place; a missing column is left out. -/
def toJson (location : Location) : Json :=
  .object ([("file", .string location.file), ("line", .ofNat location.line)] ++
    match location.column with
    | some column => [("column", .ofNat column)]
    | none => [])

def ofJson? (value : Json) : Option Location := do
  let members ← value.members?
  let file ← Json.required members "file" (·.text?)
  let line ← Json.required members "line" (·.nat? Json.word64)
  let column ← Json.optional members "column" (·.nat? Json.word64)
  some ⟨file, line, column⟩

end Location

end SchemaDrift
