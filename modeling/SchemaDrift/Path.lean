import SchemaDrift.Location
import SchemaDrift.Text.Utf8

namespace SchemaDrift.Path

/-- The path starts at the root. -/
def isAbsolute (path : String) : Bool := path.toList.head? == some '/'

/-- A path after another: an absolute one replaces it. -/
def join (base path : String) : String :=
  if isAbsolute path || base.isEmpty then path
  else if base.toList.getLast? == some '/' then base ++ path
  else base ++ "/" ++ path

/-- The names in a path, without empty ones and without those that stand for the place itself. -/
def components (path : String) : List String :=
  ((Text.splitOn '/' path.toList).map String.ofList).filter fun part => part != "" && part != "."

/-- The names put together to a path. -/
def ofComponents (names : List String) : String := Text.joinStrings "/" names

/-- The path of the directory that the last name of a path is in. -/
def parent (path : String) : String :=
  let names := ofComponents (components path).dropLast
  if isAbsolute path then "/" ++ names else names

/-- The last name of a path, unless it names the parent. -/
def fileName? (path : String) : Option String :=
  match (components path).getLast? with
  | some name => if name == ".." then none else some name
  | none => none

/-- What follows the last point of a file name; a point at the start does not count. -/
def extensionOfName? (name : String) : Option String :=
  let reversed := name.toList.reverse
  let extension := reversed.takeWhile (· != '.')
  match reversed.dropWhile (· != '.') with
  | '.' :: stem => if stem.isEmpty then none else some (String.ofList extension.reverse)
  | _ => none

/-- The extension of the file that a path names. -/
def extension? (path : String) : Option String := do extensionOfName? (← fileName? path)

/-- The order of paths by their names, one after the other. -/
def compareComponents : List String → List String → Ordering
  | [], [] => .eq
  | [], _ :: _ => .lt
  | _ :: _, [] => .gt
  | a :: as, b :: bs => (compareText a b).then (compareComponents as bs)

end SchemaDrift.Path
