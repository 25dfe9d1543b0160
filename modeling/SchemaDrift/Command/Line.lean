import SchemaDrift.Text.Chars

namespace SchemaDrift

/-- A command with what its options say. -/
inductive Command where
  | init (force : Bool)
  | scan (output : String) (apply mock : Bool)
  | serve (address : Option String) (mock : Bool)
  | issues (all json : Bool)
  deriving DecidableEq, Inhabited

structure CommandLine where
  settingsFile : Option String
  verbose : Bool
  command : Command
  deriving DecidableEq, Inhabited

/-- Why arguments name no command to run. -/
inductive Usage where
  | help
  | version
  | misused (reason : String)
  deriving DecidableEq, Inhabited

namespace CommandLine

/-- An option: its long name, its letter, and whether a value follows it. -/
structure OptionForm where
  name : String
  letter : Option Char
  takesValue : Bool
  deriving DecidableEq, Inhabited

def sharedOptions : List OptionForm := [⟨"config", some 'c', true⟩, ⟨"verbose", some 'v', false⟩]

/-- The options of a command; none for a word that is no command. -/
def optionsOf? (command : String) : Option (List OptionForm) :=
  match command with
  | "init" => some [⟨"force", none, false⟩]
  | "scan" => some [⟨"output", some 'o', true⟩, ⟨"apply", none, false⟩, ⟨"mock", none, false⟩]
  | "serve" => some [⟨"bind", some 'b', true⟩, ⟨"mock", none, false⟩]
  | "issues" => some [⟨"all", some 'a', false⟩, ⟨"json", none, false⟩]
  | _ => none

/-- What has been read: the options before the command, the command, the options since, the option
whose value must follow, and whether only operands may follow. -/
structure Reading where
  outer : List (String × String)
  command : Option String
  given : List (String × String)
  awaiting : Option String
  ended : Bool

namespace Reading

/-- The options that may follow. -/
def forms (reading : Reading) : List OptionForm :=
  sharedOptions ++ (reading.command.bind optionsOf?).getD []

/-- The reading with an option, which may be given once. -/
def give (reading : Reading) (name value : String) : Except Usage Reading :=
  if reading.given.any (·.1 == name) then .error (.misused ("--" ++ name ++ " is given twice"))
  else .ok { reading with given := reading.given ++ [(name, value)], awaiting := none }

def giveValue (reading : Reading) (name value : String) : Except Usage Reading :=
  if value.isEmpty then .error (.misused ("--" ++ name ++ " needs a value"))
  else reading.give name value

def giveForm (reading : Reading) (form : OptionForm) (attached : Option (List Char)) :
    Except Usage Reading :=
  match form.takesValue, attached with
  | true, some value => reading.giveValue form.name (String.ofList value)
  | true, none => .ok { reading with awaiting := some form.name }
  | false, some _ => .error (.misused ("--" ++ form.name ++ " takes no value"))
  | false, none => reading.give form.name ""

/-- The reading with an option under its long name. -/
def addLong (reading : Reading) (written : List Char) : Except Usage Reading :=
  let (name, attached) := match Text.splitOnce '=' written with
    | some (name, value) => (String.ofList name, some value)
    | none => (String.ofList written, none)
  if name == "help" then .error .help
  else if name == "version" && reading.command.isNone then .error .version
  else
    match reading.forms.find? (·.name == name) with
    | some form => reading.giveForm form attached
    | none => .error (.misused ("unexpected argument --" ++ name))

/-- The reading with options under their letters; what follows the letter of an option with a value
is the value. -/
def addLetters (reading : Reading) : List Char → Except Usage Reading
  | [] => .ok reading
  | letter :: rest =>
    if letter == 'h' then .error .help
    else if letter == 'V' && reading.command.isNone then .error .version
    else
      match reading.forms.find? (·.letter == some letter) with
      | none => .error (.misused ("unexpected argument -" ++ letter.toString))
      | some form =>
        if form.takesValue then
          match rest with
          | [] => reading.giveForm form none
          | '=' :: value => reading.giveForm form (some value)
          | value => reading.giveForm form (some value)
        else do (← reading.giveForm form none).addLetters rest

/-- The reading with a word that is no option: the command, which takes no other. -/
def addWord (reading : Reading) (word : String) : Except Usage Reading :=
  if reading.ended || reading.command.isSome then
    .error (.misused ("unexpected argument " ++ word))
  else if word == "help" then .error .help
  else if (optionsOf? word).isSome then
    .ok { reading with command := some word, outer := reading.given, given := [] }
  else .error (.misused ("unrecognized command " ++ word))

def add (reading : Reading) (argument : String) : Except Usage Reading :=
  let isOption := argument.toList.head? == some '-' && argument != "-"
  match reading.awaiting with
  | some name =>
    if isOption then .error (.misused ("--" ++ name ++ " needs a value"))
    else reading.giveValue name argument
  | none =>
    if reading.ended || !isOption then reading.addWord argument
    else
      match argument.toList with
      | ['-', '-'] => .ok { reading with ended := true }
      | '-' :: '-' :: written => reading.addLong written
      | _ :: letters => reading.addLetters letters
      | [] => .ok reading

/-- The value of an option: one behind the command comes before one in front of it. -/
def value? (reading : Reading) (name : String) : Option String :=
  reading.given.lookup name <|> reading.outer.lookup name

/-- The option is given. -/
def has (reading : Reading) (name : String) : Bool := (reading.value? name).isSome

def command? (reading : Reading) : Option Command :=
  match reading.command with
  | some "init" => some (.init (reading.has "force"))
  | some "scan" =>
    some (.scan ((reading.value? "output").getD "report.json") (reading.has "apply")
      (reading.has "mock"))
  | some "serve" => some (.serve (reading.value? "bind") (reading.has "mock"))
  | some "issues" => some (.issues (reading.has "all") (reading.has "json"))
  | _ => none

end Reading

def ofArguments (arguments : List String) : Except Usage CommandLine := do
  let reading ← arguments.foldlM Reading.add ⟨[], none, [], none, false⟩
  if reading.awaiting.isSome then throw (.misused "an option needs a value")
  match reading.command? with
  | some command => return ⟨reading.value? "config", reading.has "verbose", command⟩
  | none => throw (.misused "a command is missing")

end CommandLine

end SchemaDrift
