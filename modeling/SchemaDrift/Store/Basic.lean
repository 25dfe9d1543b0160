import SchemaDrift.FileTree
import SchemaDrift.Fix.Json
import SchemaDrift.Json.Reader
import SchemaDrift.Json.Writer

/-
This file holds the record of issues and executions, in memory or in the files of a directory. The
file of issues holds all of them and is replaced as a whole; the file of executions has one per line
and only grows.
-/

namespace SchemaDrift

/-- Why a record cannot be read or written. -/
inductive StoreError where
  | io (path reason : String)
  | malformed (path reason : String)
  deriving DecidableEq, Inhabited

def StoreError.message : StoreError → String
  | io path reason => path ++ ": " ++ reason
  | malformed path reason => path ++ ": invalid JSON: " ++ reason

def issuesFile : String := "issues.json"

/-- The name of the file that replaces the file of issues. -/
def issuesDraftFile : String := "issues.json.tmp"

def executionsFile : String := "fix_executions.jsonl"

/-- A directory of records: its name for messages, and the files in it. -/
structure FileStore where
  directory : String
  tree : FileTree
  deriving DecidableEq, Inhabited

namespace FileStore

def pathOf (store : FileStore) (name : String) : String := Path.join store.directory name

def directoryError (store : FileStore) (name : String) : StoreError :=
  .io (store.pathOf name) "Is a directory (os error 21)"

/-- A directory stands where a file should. -/
def isBlocked (store : FileStore) (name : String) : Bool := store.tree.isDirectoryAt [name]

/-- The text of a file; none if it does not exist. -/
def readText (store : FileStore) (name : String) : Except StoreError (Option (List Char)) :=
  if store.isBlocked name then .error (store.directoryError name)
  else match store.tree.readAt? [name] with
    | none => .ok none
    | some bytes =>
      match Text.decodeUtf8? bytes with
      | some text => .ok (some text)
      | none => .error (.io (store.pathOf name) "stream did not contain valid UTF-8")

def writeText (store : FileStore) (name : String) (text : List Char) : FileStore :=
  { store with tree := store.tree.writeAt [name] (Text.encodeUtf8 text) }

def issuesText (issues : List Issue) : List Char :=
  (Json.array (issues.map (·.toJson))).toPrettyText.toList

def executionLine (execution : FixExecution) : List Char :=
  execution.toJson.toCompactText.toList ++ ['\n']

/-- The issues in the file; none if it does not exist. -/
def loadIssues (store : FileStore) : Except StoreError (List Issue) := do
  match ← store.readText issuesFile with
  | none => return []
  | some text =>
    match (Json.read? text).bind (Json.list? Issue.ofJson?) with
    | some issues => return issues
    | none => throw (.malformed (store.pathOf issuesFile) "not a list of issues")

/-- The store with all issues replaced. A text that cannot take the place of the file stays beside
it. -/
def saveIssues (store : FileStore) (issues : List Issue) : FileStore × Option StoreError :=
  if store.isBlocked issuesDraftFile then (store, some (store.directoryError issuesDraftFile))
  else if store.isBlocked issuesFile then
    (store.writeText issuesDraftFile (issuesText issues), some (store.directoryError issuesFile))
  else
    let tree := { store.tree with
      files := store.tree.files.filter fun file => file.1 != [issuesDraftFile] }
    ({ store with tree := tree }.writeText issuesFile (issuesText issues), none)

def appendExecution (store : FileStore) (execution : FixExecution) :
    FileStore × Option StoreError :=
  if store.isBlocked executionsFile then (store, some (store.directoryError executionsFile))
  else
    let before := (store.tree.readAt? [executionsFile]).getD []
    let bytes := before ++ Text.encodeUtf8 (executionLine execution)
    ({ store with tree := store.tree.writeAt [executionsFile] bytes }, none)

def filledLines (text : List Char) : List (List Char) :=
  (Text.splitOn '\n' text).filter fun line => !(Text.trim line).isEmpty

/-- The executions in the file, in order; none if it does not exist. -/
def loadExecutions (store : FileStore) : Except StoreError (List FixExecution) := do
  match ← store.readText executionsFile with
  | none => return []
  | some text =>
    match (filledLines text).mapM fun line => (Json.read? line).bind FixExecution.ofJson? with
    | some executions => return executions
    | none => throw (.malformed (store.pathOf executionsFile) "not an execution")

end FileStore

/-- A record of issues and executions. -/
inductive Store where
  | memory (issues : List Issue) (executions : List FixExecution)
  | files (store : FileStore)
  deriving DecidableEq, Inhabited

namespace Store

/-- A record in memory that holds nothing. -/
def empty : Store := .memory [] []

def loadIssues : Store → Except StoreError (List Issue)
  | memory issues _ => .ok issues
  | files store => store.loadIssues

/-- The record with all issues replaced. -/
def saveIssues (issues : List Issue) : Store → Store × Option StoreError
  | memory _ executions => (.memory issues executions, none)
  | files store =>
    let (store, error) := store.saveIssues issues
    (.files store, error)

/-- The record with one more execution. -/
def appendExecution (execution : FixExecution) : Store → Store × Option StoreError
  | memory issues executions => (.memory issues (executions ++ [execution]), none)
  | files store =>
    let (store, error) := store.appendExecution execution
    (.files store, error)

/-- All executions of the record, the oldest first. -/
def loadExecutions : Store → Except StoreError (List FixExecution)
  | memory _ executions => .ok executions
  | files store => store.loadExecutions

end Store

end SchemaDrift
