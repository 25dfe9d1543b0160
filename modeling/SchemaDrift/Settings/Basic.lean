import SchemaDrift.Path

namespace SchemaDrift

/-- The dialects that statements may be written in. -/
inductive Dialect where
  | postgres
  | generic
  deriving DecidableEq, Inhabited

/-- Which files are scanned, and which tables are never reported. -/
structure ScannerSettings where
  extensions : List String
  excludeDirs : List String
  maxFileSize : Nat
  workers : Nat
  ignoreTables : List String
  deriving DecidableEq, Inhabited

structure DatabaseSettings where
  url : Option String
  schema : String
  poolSize : Nat
  tls : Bool
  timeoutSecs : Nat
  introspectionConcurrency : Nat
  deriving DecidableEq, Inhabited

/-- When cycles run and what they may do. -/
structure MonitorSettings where
  intervalSecs : Nat
  autoApply : Bool
  backoffBaseSecs : Nat
  backoffMaxSecs : Nat
  retryCeiling : Nat
  deriving DecidableEq, Inhabited

/-- The settings of a project; relative paths start at its root. -/
structure Settings where
  sourceRoot : String
  dialect : Dialect
  scanner : ScannerSettings
  database : DatabaseSettings
  minEvidence : Nat
  monitor : MonitorSettings
  bind : String
  stateDir : String
  projectRoot : String
  deriving DecidableEq, Inhabited

/-- Why settings cannot be used. -/
inductive SettingsError where
  | unreadable
  | unparsable
  | invalid (reason : String)
  deriving DecidableEq

/-- The wording of a refusal, where it has one of its own. -/
def SettingsError.message? : SettingsError → Option String
  | .unreadable => none
  | .unparsable => none
  | .invalid reason => some ("Invalid configuration: " ++ reason)

/-- The file extensions that are scanned unless settings say otherwise. -/
def ScannerSettings.initial : ScannerSettings where
  extensions := ["py", "js", "ts", "jsx", "tsx", "rs", "go", "rb", "php", "java", "sql"]
  excludeDirs :=
    [".git", "node_modules", "target", "venv", ".venv", "__pycache__", "dist", "build"]
  maxFileSize := 1048576
  workers := 0
  ignoreTables := []

/-- The database settings unless settings say otherwise. -/
def DatabaseSettings.initial : DatabaseSettings where
  url := none
  schema := "public"
  poolSize := 4
  tls := false
  timeoutSecs := 30
  introspectionConcurrency := 4

/-- The schedule unless settings say otherwise. -/
def MonitorSettings.initial : MonitorSettings where
  intervalSecs := 300
  autoApply := false
  backoffBaseSecs := 5
  backoffMaxSecs := 300
  retryCeiling := 5

/-- The settings of a project that says nothing. -/
def Settings.initial : Settings where
  sourceRoot := "."
  dialect := .postgres
  scanner := .initial
  database := .initial
  minEvidence := 2
  monitor := .initial
  bind := "127.0.0.1:8080"
  stateDir := ".schemaheal"
  projectRoot := ""

/-- A text matches a pattern in which the first star stands for any characters. -/
def matchesPattern (pattern text : String) : Bool :=
  match Text.splitOnce '*' pattern.toList with
  | none => pattern == text
  | some (before, after) =>
    pattern == "**" ||
      (Text.utf8Length before + Text.utf8Length after ≤ Text.utf8Length text.toList &&
        Text.startsWith before text.toList && Text.endsWith after text.toList)

/-- A table is ignored when one of the patterns matches it. -/
def ScannerSettings.ignores (scanner : ScannerSettings) (table : String) : Bool :=
  scanner.ignoreTables.any fun pattern => matchesPattern pattern table

namespace Settings

/-- The first condition that settings do not meet. -/
def problem? (settings : Settings) : Option String :=
  if settings.minEvidence == 0 then some "inference.min_evidence must be at least 1"
  else if settings.monitor.intervalSecs == 0 then some "monitor.interval_secs must be at least 1"
  else if settings.monitor.backoffMaxSecs < settings.monitor.backoffBaseSecs then
    some "monitor.backoff_base_secs exceeds monitor.backoff_max_secs"
  else if settings.database.poolSize == 0 || settings.database.introspectionConcurrency == 0 then
    some "database.pool_size and database.introspection_concurrency must be at least 1"
  else if settings.database.timeoutSecs == 0 then some "database.timeout_secs must be at least 1"
  else none

/-- The settings, if they meet all conditions. -/
def validate (settings : Settings) : Except SettingsError Settings :=
  match settings.problem? with
  | some reason => .error (.invalid reason)
  | none => .ok settings

def sourcePath (settings : Settings) : String := Path.join settings.projectRoot settings.sourceRoot

/-- Where issues and executions are kept. -/
def statePath (settings : Settings) : String := Path.join settings.projectRoot settings.stateDir

/-- The address of the database: that of the environment, if it is not empty, else the one set. -/
def resolveUrl (preferred fallback configured : Option String) : Option String :=
  match (preferred <|> fallback).filter (· != "") with
  | some url => some url
  | none => configured

end Settings

/-- The connection text with its password hidden: in an address what stands between the first colon
and the last at sign before the path, in a list of pairs the value of the key `password`. -/
def redactUrl (url : String) : String :=
  let cs := url.toList
  match Text.splitOncePart "://".toList cs with
  | some (scheme, rest) =>
    let authority := rest.takeWhile (· != '/')
    let reversed := authority.reverse
    match reversed.dropWhile (· != '@') with
    | [] => url
    | _ :: userReversed =>
      let user := userReversed.reverse
      match Text.splitOnce ':' user with
      | none => url
      | some (name, _) =>
        String.ofList (scheme ++ "://".toList ++ name ++ ":***".toList ++ rest.drop user.length)
  | none =>
    let redactPair (pair : List Char) : List Char :=
      match Text.splitOnce '=' pair with
      | some (key, _) =>
        if Text.eqIgnoringAsciiCase key "password".toList then key ++ "=***".toList else pair
      | none => pair
    String.ofList (Text.joinWith [' '] ((Text.words cs).map redactPair))

end SchemaDrift
