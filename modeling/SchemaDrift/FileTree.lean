import SchemaDrift.Keyed
import SchemaDrift.Path

/-
This file holds trees of files as values: the bytes of the files under their paths from the root of
the tree, and the directories that exist without a file in them.
-/

namespace SchemaDrift

/-- The files of a tree, each under the names that lead to it. -/
structure FileTree where
  files : List (List String × List Nat)
  directories : List (List String)
  deriving DecidableEq, Inhabited

namespace FileTree

/-- A tree without files. -/
def empty : FileTree := ⟨[], []⟩

/-- The names that lead to a place from the root of a tree, where two points lead to the parent;
none for a path that starts elsewhere or leaves the tree. -/
def place? (path : String) : Option (List String) :=
  if Path.isAbsolute path then none
  else (Path.components path).foldl (fun place name => do
    let names ← place
    if name == ".." then (if names.isEmpty then none else some names.dropLast)
    else some (names ++ [name])) (some [])

def readAt? (tree : FileTree) (place : List String) : Option (List Nat) := tree.files.lookup place

def read? (tree : FileTree) (path : String) : Option (List Nat) := do
  tree.readAt? (← place? path)

/-- The text of the file at a path, where ill-formed bytes become replacement characters. -/
def readText? (tree : FileTree) (path : String) : Option String :=
  (tree.read? path).map fun bytes => String.ofList (Text.decodeUtf8 bytes)

def isDirectoryAt (tree : FileTree) (place : List String) : Bool :=
  place.isEmpty
    || (tree.directories.any fun directory => place.isPrefixOf directory)
    || (tree.files.any fun file => file.1 != place && place.isPrefixOf file.1)

def isDirectory (tree : FileTree) (path : String) : Bool :=
  (place? path).any tree.isDirectoryAt

def writeAt (tree : FileTree) (place : List String) (bytes : List Nat) : FileTree :=
  let others := tree.files.filter fun file => file.1 != place
  { tree with files := others ++ [(place, bytes)] }

def addDirectoryAt (tree : FileTree) (place : List String) : FileTree :=
  { tree with directories := tree.directories ++ [place] }

/-- The tree with a file at a path, and the directories that lead to it; a path that leaves the tree
changes nothing. -/
def write (tree : FileTree) (path : String) (bytes : List Nat) : FileTree :=
  match place? path with
  | some place => (tree.writeAt place bytes).addDirectoryAt place.dropLast
  | none => tree

def writeText (tree : FileTree) (path text : String) : FileTree :=
  tree.write path (Text.encodeUtf8 text.toList)

def addDirectory (tree : FileTree) (path : String) : FileTree :=
  match place? path with
  | some place => tree.addDirectoryAt place
  | none => tree

def delete (tree : FileTree) (path : String) : FileTree :=
  match place? path with
  | some place =>
    { files := tree.files.filter fun file => file.1 != place
      directories := tree.directories ++ [place.dropLast] }
  | none => tree

/-- Something exists at a path. -/
def holds (tree : FileTree) (path : String) : Bool :=
  (place? path).any fun place => tree.isDirectoryAt place || (tree.readAt? place).isSome

/-- The tree with the text of a file at a path, which must be in a directory that exists and must
not be a directory itself. -/
def replaceText? (tree : FileTree) (path text : String) : Option FileTree := do
  let place ← place? path
  if tree.isDirectoryAt place || !tree.isDirectoryAt place.dropLast then none
  else some (tree.writeAt place (Text.encodeUtf8 text.toList))

/-- The tree with a directory at a place and those that lead to it; no file may stand in the way. -/
def openDirectory? (tree : FileTree) (place : List String) : Option FileTree :=
  if tree.files.any fun file => file.1.isPrefixOf place then none
  else some (tree.addDirectoryAt place)

def below (tree : FileTree) (place : List String) : FileTree where
  files := tree.files.filterMap fun file =>
    if place.isPrefixOf file.1 then some (file.1.drop place.length, file.2) else none
  directories := tree.directories.filterMap fun directory =>
    if place.isPrefixOf directory then some (directory.drop place.length) else none

def graft (tree : FileTree) (place : List String) (part : FileTree) : FileTree where
  files := (tree.files.filter fun file => !place.isPrefixOf file.1)
    ++ part.files.map fun file => (place ++ file.1, file.2)
  directories := tree.directories ++ part.directories.map (place ++ ·)

def orderPlaces (a b : List String) : Ordering := Path.compareComponents a b

/-- The files below a place, in the order of their names from that place on. -/
def filesBelow (tree : FileTree) (place : List String) : List (List String × List Nat) :=
  let below := tree.files.filterMap fun file =>
    if place.isPrefixOf file.1 && file.1 != place then
      some (file.1.drop place.length, file.2)
    else none
  sortStable (fun a b => orderPlaces a.1 b.1) below

end FileTree

end SchemaDrift
