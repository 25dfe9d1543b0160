import SchemaDrift.Json.Value
import SchemaDrift.Settings.Basic
import SchemaDrift.Toml.Reader
import SchemaDrift.Toml.Writer

namespace SchemaDrift

def Toml.text? : Toml → Option String
  | .string value => some value
  | _ => none

def Toml.bool? : Toml → Option Bool
  | .bool value => some value
  | _ => none

/-- Reads a natural number up to a bound. -/
def Toml.nat? (bound : Nat) : Toml → Option Nat
  | .integer value => if 0 ≤ value && value ≤ bound then some value.toNat else none
  | _ => none

def Toml.texts? : Toml → Option (List String)
  | .array items => items.mapM Toml.text?
  | _ => none

def Toml.entries? : Toml → Option (List (String × Toml))
  | .table entries => some entries
  | _ => none

/-- The entry of a key, or the value that stands for a missing one. -/
def Toml.entry {α : Type} (entries : List (String × Toml)) (key : String) (default : α)
    (read : Toml → Option α) : Option α :=
  match entries.lookup key with
  | none => some default
  | some value => read value

namespace Dialect

def name : Dialect → String
  | postgres => "postgres"
  | generic => "generic"

def ofName? (name : String) : Option Dialect := [postgres, generic].find? (·.name == name)

end Dialect

namespace Settings

def readScanner (value : Toml) : Option ScannerSettings := do
  let entries ← value.entries?
  let initial := ScannerSettings.initial
  let extensions ← Toml.entry entries "extensions" initial.extensions (·.texts?)
  let excludeDirs ← Toml.entry entries "exclude_dirs" initial.excludeDirs (·.texts?)
  let maxFileSize ← Toml.entry entries "max_file_size" initial.maxFileSize (·.nat? Json.word64)
  let workers ← Toml.entry entries "workers" initial.workers (·.nat? Json.word64)
  let ignoreTables ← Toml.entry entries "ignore_tables" initial.ignoreTables (·.texts?)
  some { extensions, excludeDirs, maxFileSize, workers, ignoreTables }

def readDatabase (value : Toml) : Option DatabaseSettings := do
  let entries ← value.entries?
  let initial := DatabaseSettings.initial
  let url ← Toml.entry entries "url" none (fun entry => entry.text?.map some)
  let schema ← Toml.entry entries "schema" initial.schema (·.text?)
  let poolSize ← Toml.entry entries "pool_size" initial.poolSize (·.nat? Json.word64)
  let tls ← Toml.entry entries "tls" initial.tls (·.bool?)
  let timeoutSecs ← Toml.entry entries "timeout_secs" initial.timeoutSecs (·.nat? Json.word64)
  let introspectionConcurrency ←
    Toml.entry entries "introspection_concurrency" initial.introspectionConcurrency
      (·.nat? Json.word64)
  some { url, schema, poolSize, tls, timeoutSecs, introspectionConcurrency }

/-- Reads the section on the schedule. -/
def readMonitor (value : Toml) : Option MonitorSettings := do
  let entries ← value.entries?
  let initial := MonitorSettings.initial
  let intervalSecs ← Toml.entry entries "interval_secs" initial.intervalSecs (·.nat? Json.word64)
  let autoApply ← Toml.entry entries "auto_apply" initial.autoApply (·.bool?)
  let backoffBaseSecs ←
    Toml.entry entries "backoff_base_secs" initial.backoffBaseSecs (·.nat? Json.word64)
  let backoffMaxSecs ←
    Toml.entry entries "backoff_max_secs" initial.backoffMaxSecs (·.nat? Json.word64)
  let retryCeiling ← Toml.entry entries "retry_ceiling" initial.retryCeiling (·.nat? Json.word32)
  some { intervalSecs, autoApply, backoffBaseSecs, backoffMaxSecs, retryCeiling }

/-- Reads the only entry of a section. -/
def readOnly {α : Type} (key : String) (default : α) (read : Toml → Option α) (value : Toml) :
    Option α := do
  Toml.entry (← value.entries?) key default read

/-- Reads the entries of a document. -/
def ofEntries? (entries : List (String × Toml)) : Option Settings := do
  let initial := Settings.initial
  let sourceRoot ← Toml.entry entries "source_root" initial.sourceRoot (·.text?)
  let dialect ←
    Toml.entry entries "dialect" initial.dialect fun entry => do Dialect.ofName? (← entry.text?)
  let scanner ← Toml.entry entries "scanner" initial.scanner readScanner
  let database ← Toml.entry entries "database" initial.database readDatabase
  let minEvidence ← Toml.entry entries "inference" initial.minEvidence
    (readOnly "min_evidence" initial.minEvidence (·.nat? Json.word64))
  let monitor ← Toml.entry entries "monitor" initial.monitor readMonitor
  let bind ← Toml.entry entries "server" initial.bind (readOnly "bind" initial.bind (·.text?))
  let stateDir ←
    Toml.entry entries "state" initial.stateDir (readOnly "dir" initial.stateDir (·.text?))
  some
    { sourceRoot, dialect, scanner, database, minEvidence, monitor, bind, stateDir
      projectRoot := "" }

/-- The settings of a text, for a project with the given root. -/
def ofText (projectRoot text : String) : Except SettingsError Settings :=
  match (Toml.read? text.toList).bind ofEntries? with
  | none => .error .unparsable
  | some settings => { settings with projectRoot }.validate

def textsEntry (texts : List String) : Toml := .array (texts.map .string)

def numberEntry (n : Nat) : Toml := .integer n

/-- The document of settings; the root of the project is not part of it. -/
def toEntries (settings : Settings) : List (String × Toml) :=
  [("source_root", .string settings.sourceRoot), ("dialect", .string settings.dialect.name),
    ("scanner", .table [("extensions", textsEntry settings.scanner.extensions),
      ("exclude_dirs", textsEntry settings.scanner.excludeDirs),
      ("max_file_size", numberEntry settings.scanner.maxFileSize),
      ("workers", numberEntry settings.scanner.workers),
      ("ignore_tables", textsEntry settings.scanner.ignoreTables)]),
    ("database", .table ((settings.database.url.map fun url => ("url", Toml.string url)).toList ++
      [("schema", .string settings.database.schema),
        ("pool_size", numberEntry settings.database.poolSize),
        ("tls", .bool settings.database.tls),
        ("timeout_secs", numberEntry settings.database.timeoutSecs),
        ("introspection_concurrency",
          numberEntry settings.database.introspectionConcurrency)])),
    ("inference", .table [("min_evidence", numberEntry settings.minEvidence)]),
    ("monitor", .table [("interval_secs", numberEntry settings.monitor.intervalSecs),
      ("auto_apply", .bool settings.monitor.autoApply),
      ("backoff_base_secs", numberEntry settings.monitor.backoffBaseSecs),
      ("backoff_max_secs", numberEntry settings.monitor.backoffMaxSecs),
      ("retry_ceiling", numberEntry settings.monitor.retryCeiling)]),
    ("server", .table [("bind", .string settings.bind)]),
    ("state", .table [("dir", .string settings.stateDir)])]

def toText (settings : Settings) : String := Toml.write settings.toEntries

/-- The JSON form of settings, without the root of the project. -/
def toJson (settings : Settings) : Json :=
  .object (settings.toEntries.map fun entry => (entry.1, tomlToJson entry.1 settings entry.2))
where
  /-- The JSON form of one entry; an address that is not set is null. -/
  tomlToJson (name : String) (settings : Settings) : Toml → Json
    | .string value => .string value
    | .integer value => .integer value
    | .bool value => .bool value
    | .array items => .array (plainItems items)
    | .table entries =>
      .object ((if name == "database" && settings.database.url.isNone then [("url", Json.null)]
        else []) ++ plainEntries entries)
    | _ => .null
  /-- The JSON form of a plain value or a list of texts. -/
  plain : Toml → Json
    | .string value => .string value
    | .integer value => .integer value
    | .bool value => .bool value
    | .array items => .array (plainItems items)
    | _ => .null
  /-- The JSON form of a list of texts. -/
  plainItems (items : List Toml) : List Json :=
    items.map fun item => match item with
      | .string value => .string value
      | _ => .null
  /-- The JSON form of the entries of a section. -/
  plainEntries (entries : List (String × Toml)) : List (String × Json) :=
    entries.map fun entry => (entry.1, plain entry.2)

end Settings

end SchemaDrift
