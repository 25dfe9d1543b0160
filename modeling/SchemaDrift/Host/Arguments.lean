import SchemaDrift.Host.Brackets
import SchemaDrift.Keyed

namespace SchemaDrift.Host

/-- The expressions bound to the places of a statement, by position and by name. -/
structure CallArguments where
  positional : List String
  named : Keyed String
  deriving DecidableEq, Inhabited

namespace CallArguments

def empty : CallArguments := ⟨[], []⟩

def isEmpty (arguments : CallArguments) : Bool :=
  arguments.positional.isEmpty && arguments.named.isEmpty

/-- The key and the value of an entry of a mapping: `key: value`, `key => value`, or a name that
stands for itself. -/
def mappingSides? (entry : List Char) : Option (List Char × List Char) :=
  let byArrow :=
    match Text.splitOncePart ['=', '>'] entry with
    | some (key, value) => some (Text.trim key, Text.trim value)
    | none => if entry.all Text.isNamePart then some (entry, entry) else none
  match splitTopLevel ':' entry with
  | key :: _ :: _ =>
    if !(Text.trim key).isEmpty && !Text.containsPart ['=', '>'] key then
      some (Text.trim key, Text.trim (entry.drop (key.length + 1)))
    else byArrow
  | _ => byArrow

/-- A key without colons before it and quotes around it. -/
def bareKey (key : List Char) : List Char :=
  let isMark := fun c => c == '"' || c == '\''
  Text.dropWhileEnd isMark ((key.dropWhile (· == ':')).dropWhile isMark)

/-- The name and the expression of an entry of a mapping. -/
def mappingEntry? (entry : List Char) : Option (String × String) := do
  let entry := Text.trim entry
  if entry.isEmpty then none
  let (key, value) ← mappingSides? entry
  let key := bareKey key
  if key.isEmpty then none else some (String.ofList key, String.ofList value)

/-- The name and the expression of an argument `name=value`. -/
def keyword? (argument : List Char) : Option (String × String) := do
  let (key, value) ← Text.splitOnce '=' argument
  if value.head? == some '=' || value.head? == some '>' then none
  let key := Text.trim key
  if key.isEmpty || !key.all Text.isNamePart || key.head?.any Text.isAsciiDigit then none
  else some (String.ofList key, String.ofList (Text.trim value))

/-- The elements of a list of expressions, without blank ones. -/
def elements (text : List Char) : List String :=
  (((splitTopLevel ',' text).map Text.trim).filter fun part => !part.isEmpty).map String.ofList

/-- The arguments with a named one put in place of one of the same name. -/
def addNamed (arguments : CallArguments) (entry : String × String) : CallArguments :=
  { arguments with named := arguments.named.insert entry.1 entry.2 }

/-- The arguments with further ones by position. -/
def addPositional (arguments : CallArguments) (expressions : List String) : CallArguments :=
  { arguments with positional := arguments.positional ++ expressions }

/-- The arguments with those that one argument of a call brings: a tuple or a list brings its
elements, a mapping its entries. -/
def addArgument (arguments : CallArguments) (argument : List Char) : CallArguments :=
  let argument := Text.trim argument
  if argument.isEmpty then arguments
  else match (enclosed? '(' ')' argument).or (enclosed? '[' ']' argument) with
    | some inner => arguments.addPositional (elements inner)
    | none =>
      match enclosed? '\x7b' '\x7d' argument with
      | some inner => ((splitTopLevel ',' inner).filterMap mappingEntry?).foldl addNamed arguments
      | none =>
        match keyword? argument with
        | some entry => arguments.addNamed entry
        | none => arguments.addPositional [String.ofList argument]

/-- The arguments that the text of a call's argument list brings. -/
def ofText (text : List Char) : CallArguments :=
  (splitTopLevel ',' text).foldl addArgument empty

def toJson (arguments : CallArguments) : Json :=
  .object [("positional", .array (arguments.positional.map .string)),
    ("named", .object (arguments.named.mapValues .string))]

end CallArguments

end SchemaDrift.Host
