import SchemaDrift.Command.Display
import SchemaDrift.Command.Line
import SchemaDrift.Monitor.Cycle
import SchemaDrift.Settings.Document

namespace SchemaDrift

/-- What a command leaves behind: its exit code, what it prints, what it complains about, and the
files. -/
structure Outcome where
  code : Nat
  output : String
  complaint : Option String
  tree : FileTree
  deriving DecidableEq, Inhabited

/-- The identities and the time that a command takes from outside. -/
structure Occasion where
  cycleId : String
  executionId : Nat → String
  now : Moment

namespace Command

/-- The name of the file of settings unless an option names another. -/
def settingsName : String := "schemaheal.toml"

def failed (tree : FileTree) (complaint : String) : Outcome := ⟨1, "", some complaint, tree⟩

/-- The file of settings is written; one that is there already is kept unless it may be replaced. -/
def writeSettings (path : String) (force : Bool) (tree : FileTree) : Outcome :=
  if tree.holds path && !force then
    failed tree (path ++ " already exists (use --force to overwrite)")
  else
    match tree.replaceText? path Settings.initial.toText with
    | some tree => ⟨0, "✓ Wrote " ++ path ++ "\n", none, tree⟩
    | none => failed tree ("failed to write " ++ path)

/-- The settings of a file, or the initial ones where there is none. -/
def settingsOf (path : String) (tree : FileTree) : Except String Settings :=
  if !tree.holds path then .ok .initial
  else
    match (tree.read? path).bind Text.decodeUtf8? with
    | none => .error ("failed to load " ++ path)
    | some text =>
      (Settings.ofText (Path.parent path) (String.ofList text)).mapError fun error =>
        "failed to load " ++ path ++ ((error.message?.map (": " ++ ·)).getD "")

/-- The record in the directory of the settings, which is made where it is missing. -/
def openStore (settings : Settings) (tree : FileTree) :
    Option (List String × FileTree × FileStore) := do
  let place ← FileTree.place? settings.statePath
  let tree ← tree.openDirectory? place
  some (place, tree, ⟨settings.statePath, tree.below place⟩)

def putBack (tree : FileTree) (place : List String) : Store → FileTree
  | .files store => tree.graft place store.tree
  | .memory _ _ => tree

/-- One cycle is run against an empty catalog, and its report written and shown. -/
def runScan (settings : Settings) (output : String) (apply : Bool) (occasion : Occasion)
    (tree : FileTree) : Outcome :=
  match openStore settings tree with
  | none => failed tree ("failed to open " ++ settings.statePath)
  | some (place, tree, store) =>
    let catalog := Catalog.empty settings.database.schema ⟨0⟩
    match Service.start settings (.files store) catalog with
    | .error error => failed tree error.message
    | .ok service =>
      let service := if apply then service.onMonitor (.setAutoApply true) else service
      let sources : Sources := ⟨tree, FileTree.place? settings.sourcePath, settings.sourcePath⟩
      let (service, result) := service.runCycle occasion.cycleId occasion.executionId
        (sources.scan settings false) occasion.now
      let tree := putBack tree place service.store
      match result with
      | .error error => failed tree ("healing cycle failed: " ++ error.message)
      | .ok report =>
        match tree.replaceText? output report.toJson.toPrettyText with
        | none => failed tree ("failed to write " ++ output)
        | some tree =>
          let shown := Display.cycle report (service.monitor.views false occasion.now)
          ⟨if report.isHealthy then 0 else 1, shown, none, tree⟩

/-- The recorded issues are shown, as text or as JSON. -/
def showIssues (settings : Settings) (all json : Bool) (tree : FileTree) : Outcome :=
  match openStore settings tree with
  | none => failed tree ("failed to open " ++ settings.statePath)
  | some (_, tree, store) =>
    match store.loadIssues with
    | .error error => failed tree error.message
    | .ok recorded =>
      let issues := recorded.filter fun issue => all || issue.isOpen
      let shown :=
        if json then (Json.array (issues.map (·.toJson))).toPrettyText ++ "\n"
        else Display.issues issues
      ⟨0, shown, none, tree⟩

end Command

/-- The outcome of a command line on the files of a project. -/
def CommandLine.run (line : CommandLine) (occasion : Occasion) (tree : FileTree) : Outcome :=
  let path := line.settingsFile.getD Command.settingsName
  match line.command with
  | .init force => Command.writeSettings path force tree
  | command =>
    match Command.settingsOf path tree with
    | .error complaint => Command.failed tree complaint
    | .ok settings =>
      match command with
      | .scan output apply true => Command.runScan settings output apply occasion tree
      | .issues all json => Command.showIssues settings all json tree
      | .serve _ true => Command.failed tree "this program holds no server"
      | _ => Command.failed tree "failed to connect to database"

/-- The text about the use of the program. -/
def Usage.text : String :=
  Display.ofLines ["Keeps a database schema in line with the code that uses it", "",
    "Usage: schemaheal [OPTIONS] <COMMAND>", "",
    "Commands:",
    "  init [--force]                           Write a starter config file",
    "  scan [-o <OUTPUT>] [--apply] [--mock]    Run one healing cycle and print the issues found",
    "  serve [-b <BIND>] [--mock]               Run the monitor loop with the HTTP control surface",
    "  issues [-a] [--json]                     Print the persisted issues", "",
    "Options:",
    "  -c, --config <CONFIG>  Path to config file (default: schemaheal.toml)",
    "  -v, --verbose          Enable verbose output",
    "  -h, --help             Print help",
    "  -V, --version          Print version"]

def Usage.outcome (tree : FileTree) : Usage → Outcome
  | help => ⟨0, Usage.text, none, tree⟩
  | version => ⟨0, "schemaheal 0.1.0\n", none, tree⟩
  | misused reason => ⟨2, "", some reason, tree⟩

/-- The outcome of a call with arguments on the files of a project. -/
def runArguments (arguments : List String) (occasion : Occasion) (tree : FileTree) : Outcome :=
  match CommandLine.ofArguments arguments with
  | .ok line => line.run occasion tree
  | .error usage => usage.outcome tree

end SchemaDrift
