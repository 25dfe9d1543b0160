import SchemaDrift.FileTree
import SchemaDrift.Scan.Source

namespace SchemaDrift

/-- Why a scan or a part of it fails. -/
inductive ScanError where
  | unreadable (path reason : String)
  | tooLarge (path : String) (size limit : Nat)
  | missingRoot (root : String)
  | cancelled
  deriving DecidableEq, Inhabited

def ScanError.message : ScanError → String
  | unreadable path reason => "failed to read " ++ path ++ ": " ++ reason
  | tooLarge path size limit =>
    path ++ " is " ++ toString size ++ " bytes, over the " ++ toString limit ++ " byte limit"
  | missingRoot root => "source root " ++ root ++ " does not exist"
  | cancelled => "scan cancelled"

def ScanError.kind : ScanError → String
  | unreadable _ _ => "Read"
  | tooLarge _ _ _ => "TooLarge"
  | missingRoot _ => "MissingRoot"
  | cancelled => "Cancelled"

/-- What a scan found: the statements in the order of their places, the number of files read, the
number of texts that look like statements and are none, and the files that could not be read. -/
structure ScanOutput where
  statements : List SourceStatement
  filesScanned : Nat
  skipped : Nat
  errors : List ScanError
  deriving DecidableEq, Inhabited

namespace ScannerSettings

def wants (scanner : ScannerSettings) (extension : String) : Bool :=
  (scanner.extensions.any fun wanted =>
    Text.eqIgnoringAsciiCase wanted.toList extension.toList)
    && (Host.Language.ofExtension? extension).isSome

/-- A file at a place below the source root is scanned: no directory on the way is excluded, and its
extension is one of those wanted. -/
def selects (scanner : ScannerSettings) (place : List String) : Bool :=
  !(place.dropLast.any scanner.excludeDirs.contains)
    && (place.getLast?.bind Path.extensionOfName?).any scanner.wants

/-- The rules by which the settings have statements read. -/
def rules (scanner : ScannerSettings) (dialect : Dialect) : ScanRules :=
  ⟨dialect, scanner.ignores⟩

end ScannerSettings

/-- The files that are scanned below a root, with their places below it. -/
def FileTree.sources (tree : FileTree) (scanner : ScannerSettings) (root : List String) :
    List (List String × List Nat) :=
  (tree.filesBelow root).filter fun file => scanner.selects file.1

namespace ScanOutput

/-- Nothing found. -/
def empty : ScanOutput := ⟨[], 0, 0, []⟩

/-- The output with what was found in one more file. -/
def addScan (output : ScanOutput) (scan : FileScan) : ScanOutput :=
  { output with
    statements := output.statements ++ scan.statements
    filesScanned := output.filesScanned + 1
    skipped := output.skipped + scan.skipped }

/-- The output with one more file read, unless the file is too large. -/
def addFile (scanner : ScannerSettings) (dialect : Dialect) (output : ScanOutput)
    (file : List String × List Nat) : Except Host.ReadFault ScanOutput :=
  let path := Path.ofComponents file.1
  let size := file.2.length
  if size > scanner.maxFileSize then
    .ok { output with errors := output.errors ++ [.tooLarge path size scanner.maxFileSize] }
  else
    match FileScan.ofSource (scanner.rules dialect) path (Text.decodeUtf8 file.2) with
    | .error fault => .error fault
    | .ok scan => .ok (output.addScan scan)

/-- Statements in the order of their places; those at one place keep their order. -/
def sortStatements (statements : List SourceStatement) : List SourceStatement :=
  sortStable (fun a b => Location.order a.location b.location) statements

def ofFiles (scanner : ScannerSettings) (dialect : Dialect)
    (files : List (List String × List Nat)) : Except Host.ReadFault ScanOutput := do
  let output ← files.foldlM (addFile scanner dialect) empty
  return { output with statements := sortStatements output.statements }

end ScanOutput

/-- The outcome of a scan: what was found, a failure, or the fault of a reader. -/
inductive ScanResult where
  | found (output : ScanOutput)
  | failed (error : ScanError)
  | crashed (fault : Host.ReadFault)
  deriving DecidableEq, Inhabited

/-- The scan of the files below the directory at `place`, which messages call `shown`. A scan that
is cancelled answers nothing else. -/
def FileTree.scan (tree : FileTree) (scanner : ScannerSettings) (dialect : Dialect)
    (place : Option (List String)) (shown : String) (cancelled : Bool) : ScanResult :=
  match place.filter tree.isDirectoryAt with
  | none => .failed (.missingRoot shown)
  | some place =>
    if cancelled then .failed .cancelled
    else match ScanOutput.ofFiles scanner dialect (tree.sources scanner place) with
      | .error fault => .crashed fault
      | .ok output => .found output

/-- The sources of a project: a tree of files, the directory in it that is scanned, if it can be
reached, and the name that messages give it. -/
structure Sources where
  tree : FileTree
  place : Option (List String)
  shown : String
  deriving DecidableEq, Inhabited

def Sources.scan (sources : Sources) (settings : Settings) (cancelled : Bool) : ScanResult :=
  sources.tree.scan settings.scanner settings.dialect sources.place sources.shown cancelled

end SchemaDrift
