import SchemaDrift.Json.Reader
import SchemaDrift.Usage.Basic

namespace SchemaDrift.Inference

/-- Bounded text columns are never shorter than this. -/
def minTextLength : UInt32 := 255

/-- The rest of a text after exactly `count` digits. -/
def dropDigits? : Nat → List Char → Option (List Char)
  | 0, text => some text
  | _ + 1, [] => none
  | count + 1, c :: rest => if Text.isDecimalDigit c then dropDigits? count rest else none

def dropOneOf? (choices : List Char) : List Char → Option (List Char)
  | [] => none
  | c :: rest => if choices.contains c then some rest else none

/-- The rest of a text after a fraction of a second, if there is one; none if a point has no digits
after it. -/
def dropFraction? (text : List Char) : Option (List Char) :=
  match text with
  | '.' :: rest =>
    match rest with
    | c :: _ => if Text.isDecimalDigit c then some (rest.dropWhile Text.isDecimalDigit) else none
    | [] => none
  | _ => some text

/-- The rest of a text after the seconds of a time, if there are any. -/
def dropSeconds? (text : List Char) : Option (List Char) :=
  match text with
  | ':' :: rest => do dropFraction? (← dropDigits? 2 rest)
  | _ => some text

def isZone : List Char → Bool
  | [] => true
  | ['Z'] => true
  | c :: rest =>
    (c == '+' || c == '-') &&
      match dropDigits? 2 rest with
      | some rest => dropDigits? 2 (match rest with | ':' :: more => more | _ => rest) == some []
      | none => false

/-- A text is a date, alone or with a time and a zone after it. -/
def isTimestamp (text : List Char) : Bool :=
  let date := do
    let text ← dropOneOf? ['-'] (← dropDigits? 4 text)
    let text ← dropOneOf? ['-'] (← dropDigits? 2 text)
    dropDigits? 2 text
  match date with
  | none => false
  | some [] => true
  | some text =>
    let time := do
      let text ← dropOneOf? ['T', ' '] text
      let text ← dropOneOf? [':'] (← dropDigits? 2 text)
      dropSeconds? (← dropDigits? 2 text)
    time.any isZone

/-- A text is an exponent or empty. -/
def isExponent : List Char → Bool
  | [] => true
  | c :: rest =>
    let digits := (dropOneOf? ['+', '-'] rest).getD rest
    (c == 'e' || c == 'E') && !digits.isEmpty && digits.all Text.isDecimalDigit

/-- A text is a number in decimal notation, with a sign, a fraction and an exponent allowed. -/
def isNumber (text : List Char) : Bool :=
  let text := (dropOneOf? ['+', '-'] text).getD text
  let rest := text.dropWhile Text.isDecimalDigit
  let whole := text.takeWhile Text.isDecimalDigit
  match rest with
  | '.' :: fraction =>
    (!whole.isEmpty || (fraction.head?.any Text.isDecimalDigit)) &&
      isExponent (fraction.dropWhile Text.isDecimalDigit)
  | _ => !whole.isEmpty && isExponent rest

def typeOfNumber (text : List Char) : LogicalType :=
  let digits := text.dropWhile fun c => c == '-' || c == '+'
  if !digits.isEmpty && digits.all Text.isAsciiDigit then .int
  else if isNumber text then .float
  else .unknown

/-- A text begins and ends with the brackets of a JSON object or list. -/
def isJsonShaped (text : List Char) : Bool :=
  (text.head? == some '\x7b' && text.getLast? == some '\x7d')
    || (text.head? == some '[' && text.getLast? == some ']')

/-- The type that a quoted text speaks for. -/
def typeOfText (text : List Char) : LogicalType :=
  let trimmed := Text.trim text
  if isTimestamp trimmed then .timestamp
  else if isJsonShaped trimmed && (Json.read? trimmed).isSome then .json
  else if text.length.toUInt32 ≤ minTextLength then .varchar (some minTextLength)
  else .string

/-- Calls that make integers. -/
def intCalls : List String :=
  ["int(", "parseint(", "number(", "integer.parseint(", "long.parselong(", "strconv.atoi("]

/-- Calls that make fractions. -/
def floatCalls : List String := ["float(", "parsefloat(", "double.parsedouble(", "decimal("]

def textCalls : List String := ["str(", "string(", "string.valueof("]

/-- Calls that make truth values. -/
def boolCalls : List String := ["bool(", "boolean("]

/-- Calls that make JSON texts. -/
def jsonCalls : List String :=
  ["json.dumps(", "json.stringify(", "serde_json::to_string(", "json_encode(", "json.marshal("]

def callsOneOf (calls : List String) (text : List Char) : Bool :=
  calls.any fun call => Text.startsWith call.toList text

/-- What stands in a text between two equal quotes around it. -/
def unquoted? (text : List Char) : Option (List Char) :=
  ['"', '\'', '\x60'].findSome? fun quote => do
    Text.dropTail? [quote] (← Text.dropLead? [quote] text)

/-- The type that an expression of the host language speaks for. -/
def typeOfBinding (binding : List Char) : LogicalType :=
  let expression := Text.trim binding
  let lowered := Text.lower expression
  if callsOneOf intCalls lowered then .int
  else if callsOneOf floatCalls lowered then .float
  else if callsOneOf boolCalls lowered then .bool
  else if callsOneOf jsonCalls lowered || expression.head? == some '\x7b' then .json
  else if Text.containsPart "datetime".toList lowered
      || Text.startsWith "new date".toList lowered || Text.endsWith "now()".toList lowered then
    .timestamp
  else if callsOneOf textCalls lowered then .string
  else if ["true", "True", "false", "False"].contains (String.ofList expression) then .bool
  else if isNumber expression then typeOfNumber expression
  else match unquoted? expression with
    | some inner => typeOfText inner
    | none => .unknown

/-- Functions that answer a point in time. -/
def timestampFunctions : List String :=
  ["NOW", "CURRENT_TIMESTAMP", "LOCALTIMESTAMP", "CLOCK_TIMESTAMP", "STATEMENT_TIMESTAMP",
    "TRANSACTION_TIMESTAMP"]

def typeOfFunction (name : String) : LogicalType :=
  if timestampFunctions.contains name then .timestamp
  else if name == "CURRENT_DATE" then .date
  else if name == "GEN_RANDOM_UUID" || name == "UUID_GENERATE_V4" then .uuid
  else .unknown

end SchemaDrift.Inference

namespace SchemaDrift

/-- The type that an observed value speaks for. -/
def ValueContext.candidate : ValueContext → LogicalType
  | number text => Inference.typeOfNumber text.toList
  | quotedString text => Inference.typeOfText text.toList
  | boolean => .bool
  | null => .unknown
  | parameter _ binding =>
    match binding with
    | some expression => Inference.typeOfBinding expression.toList
    | none => .unknown
  | function name => Inference.typeOfFunction name
  | declared type => type

end SchemaDrift
