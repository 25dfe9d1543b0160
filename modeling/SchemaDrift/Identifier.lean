import SchemaDrift.Text.Utf8

namespace SchemaDrift

/-- Why a name was refused. -/
inductive IdentifierError where
  | empty
  | tooLong (name : String) (length : Nat)
  | invalidCharacters (name : String)
  deriving DecidableEq

/-- The greatest length of a name in bytes. -/
def maxIdentifierLength : Nat := 63

def IdentifierError.message : IdentifierError → String
  | .empty => "identifier is empty"
  | .tooLong name length =>
    "identifier '" ++ name ++ "' is " ++ toString length ++ " characters long (limit 63)"
  | .invalidCharacters name =>
    "identifier '" ++ name ++ "' contains characters outside [A-Za-z0-9_]"

def IdentifierError.kind : IdentifierError → String
  | .empty => "Empty"
  | .tooLong _ _ => "TooLong"
  | .invalidCharacters _ => "InvalidCharacters"

/-- The characters that a name may start with. -/
def isIdentifierStart (c : Char) : Bool := Text.isAsciiLetter c || c == '_'

/-- The characters that a name may go on with. -/
def isIdentifierPart (c : Char) : Bool := Text.isAsciiLetter c || Text.isAsciiDigit c || c == '_'

def isIdentifierForm : List Char → Bool
  | [] => false
  | c :: rest => isIdentifierStart c && rest.all isIdentifierPart

/-- A name is valid when it has the form of one and is short enough. -/
def isValidName (name : String) : Bool :=
  isIdentifierForm name.toList && Text.utf8Length name.toList ≤ maxIdentifierLength

/-- A name that may stand in a statement. -/
structure Identifier where
  name : String
  valid : isValidName name = true
  deriving DecidableEq

namespace Identifier

/-- Why a name is refused: it is empty, else too long, else holds a character it must not. -/
def problem (name : String) : IdentifierError :=
  let cs := name.toList
  if cs.isEmpty then .empty
  else if maxIdentifierLength < Text.utf8Length cs then .tooLong name (Text.utf8Length cs)
  else .invalidCharacters name

def ofName (name : String) : Except IdentifierError Identifier :=
  if valid : isValidName name = true then .ok ⟨name, valid⟩ else .error (problem name)

/-- The words that must be quoted when they are names. -/
def reservedWords : List String :=
  ["all", "analyse", "analyze", "and", "any", "array", "as", "asc", "both", "case", "cast",
    "check", "collate", "column", "constraint", "create", "current_date", "current_time",
    "current_timestamp", "current_user", "default", "deferrable", "desc", "distinct", "do",
    "else", "end", "except", "false", "fetch", "for", "foreign", "from", "grant", "group",
    "having", "in", "initially", "intersect", "into", "lateral", "leading", "limit",
    "localtime", "localtimestamp", "not", "null", "offset", "on", "only", "or", "order",
    "placing", "primary", "references", "returning", "select", "session_user", "some",
    "symmetric", "table", "then", "to", "trailing", "true", "union", "unique", "user", "using",
    "variadic", "when", "where", "window", "with"]

/-- The name is a reserved word in some case. -/
def isReserved (identifier : Identifier) : Bool :=
  reservedWords.contains (String.ofList (identifier.name.toList.map Text.lowerAscii))

/-- The name has to be quoted: it is reserved, or folding its case would change it. -/
def needsQuotes (identifier : Identifier) : Bool :=
  identifier.isReserved || identifier.name.toList.any Text.isAsciiUpper

/-- The characters of the name in a statement. -/
def ddlChars (identifier : Identifier) : List Char :=
  if identifier.needsQuotes then '"' :: identifier.name.toList ++ ['"'] else identifier.name.toList

/-- The name as it stands in a statement. -/
def toDdl (identifier : Identifier) : String := String.ofList identifier.ddlChars

end Identifier

end SchemaDrift
