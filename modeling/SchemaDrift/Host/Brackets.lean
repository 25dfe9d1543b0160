import SchemaDrift.Text.Chars

namespace SchemaDrift.Host

/-- The characters that enclose quoted text. -/
def isQuote (c : Char) : Bool := c == '"' || c == '\'' || c == '\x60'

/-- The characters that open a bracket. -/
def isOpening (c : Char) : Bool := c == '(' || c == '[' || c == '\x7b'

/-- The characters that close a bracket. -/
def isClosing (c : Char) : Bool := c == ')' || c == ']' || c == '\x7d'

/-- Puts a character in front of the first part. -/
def consFirst (c : Char) : List (List Char) → List (List Char)
  | [] => [[c]]
  | part :: parts => (c :: part) :: parts

/-- The parts of a text in which `depth` brackets are open and `quote` has begun; with `escaped`,
the next character belongs to the quoted text whatever it is. -/
def splitNested (separator : Char) (depth : Nat) (quote : Option Char) (escaped : Bool) :
    List Char → List (List Char)
  | [] => [[]]
  | c :: rest =>
    match quote with
    | some q =>
      consFirst c <|
        if escaped then splitNested separator depth (some q) false rest
        else if c == '\\' then splitNested separator depth (some q) true rest
        else if c == q then splitNested separator depth none false rest
        else splitNested separator depth (some q) false rest
    | none =>
      if isQuote c then consFirst c (splitNested separator depth (some c) false rest)
      else if isOpening c then consFirst c (splitNested separator (depth + 1) none false rest)
      else if isClosing c then consFirst c (splitNested separator (depth - 1) none false rest)
      else if c == separator && depth == 0 then
        [] :: splitNested separator depth none false rest
      else consFirst c (splitNested separator depth none false rest)

/-- The parts of a text between the separators outside brackets and quotes. -/
def splitTopLevel (separator : Char) (text : List Char) : List (List Char) :=
  splitNested separator 0 none false text

/-- No bracket of a text closes one that the text does not open, given the open ones. Their number is
in the range of 32 bits with a sign for every text with fewer than 2 ^ 31 opening brackets. -/
def closesOnlyOwn (depth : Nat) : List Char → Bool
  | [] => true
  | c :: rest =>
    if isOpening c then closesOnlyOwn (depth + 1) rest
    else if isClosing c then
      match depth with
      | 0 => false
      | outer + 1 => closesOnlyOwn outer rest
    else closesOnlyOwn depth rest

/-- What stands in a text between two brackets that enclose all of it. -/
def enclosed? (opening closing : Char) (text : List Char) : Option (List Char) := do
  let inner ← Text.dropTail? [closing] (← Text.dropLead? [opening] text)
  if closesOnlyOwn 0 inner then some inner else none

/-- An expression between the braces of a literal, without a conversion or a format after it. -/
def dropFormat (depth : Nat) : List Char → List Char
  | [] => []
  | c :: rest =>
    if isOpening c then c :: dropFormat (depth + 1) rest
    else if isClosing c then c :: dropFormat (depth - 1) rest
    else if c == '!' && depth == 0 && rest.head? != some '=' then []
    else if c == ':' && depth == 0 then []
    else c :: dropFormat depth rest

/-- An expression holds a conversion or a format outside its brackets. -/
def hasFormat (depth : Nat) : List Char → Bool
  | [] => false
  | c :: rest =>
    if isOpening c then hasFormat (depth + 1) rest
    else if isClosing c then hasFormat (depth - 1) rest
    else if c == '!' && depth == 0 && rest.head? != some '=' then true
    else if c == ':' && depth == 0 then true
    else hasFormat depth rest

/-- The expression that a brace field shows: what precedes a conversion or a format, or the whole
field without the equals signs at its end. -/
def shownExpression (field : List Char) : List Char :=
  if hasFormat 0 field then dropFormat 0 field else Text.dropWhileEnd (· == '=') field

end SchemaDrift.Host
