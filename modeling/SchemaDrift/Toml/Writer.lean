import SchemaDrift.Toml.Value

namespace SchemaDrift.Toml

/-- The ways to write a string. -/
inductive Quoting where
  | basic
  | literal
  | longBasic
  | longLiteral
  | lineLiteral
  deriving DecidableEq

/-- The longest run of single quotes in a text. -/
def longestQuoteRun (cs : List Char) : Nat :=
  (cs.foldl (fun (state : Nat × Nat) c =>
    let run := if c == '\'' then state.1 + 1 else 0
    (run, max state.2 run)) (0, 0)).2

/-- A string is written without escapes when it holds a backslash or a double quote and nothing
that only an escape can write; single quotes inside then need the long form. -/
def quotingOf (cs : List Char) : Quoting :=
  let isMultiline := cs.contains '\n'
  let needsEscape := cs.any fun c => (c.toNat < 0x20 && c != '\t' && c != '\n') || c.toNat == 0x7F
  let prefersLiteral := cs.contains '\\' || cs.contains '"'
  let endsInQuote := cs.getLast? == some '\''
  if needsEscape || !prefersLiteral || endsInQuote || longestQuoteRun cs ≥ 3 then
    if isMultiline then .longBasic else .basic
  else if isMultiline then .longLiteral
  else if longestQuoteRun cs ≥ 1 then .lineLiteral
  else .literal

/-- The written form of one character of a string with escapes. -/
def escapeChar (long : Bool) (c : Char) : List Char :=
  if c.toNat == 8 then ['\\', 'b']
  else if c == '\t' then ['\\', 't']
  else if c == '\n' then (if long then ['\n'] else ['\\', 'n'])
  else if c.toNat == 12 then ['\\', 'f']
  else if c == '\r' then ['\\', 'r']
  else if c == '"' then ['\\', '"']
  else if c == '\\' then ['\\', '\\']
  else if c.toNat < 0x20 || c.toNat == 0x7F then
    ['\\', 'u', '0', '0', Text.upperAscii (Text.hexChar (c.toNat / 16)),
      Text.upperAscii (Text.hexChar (c.toNat % 16))]
  else [c]

/-- The written form of a string. -/
def quote (text : String) : List Char :=
  let cs := text.toList
  match quotingOf cs with
  | .basic => '"' :: cs.flatMap (escapeChar false) ++ ['"']
  | .literal => '\'' :: cs ++ ['\'']
  | .longBasic => ['"', '"', '"', '\n'] ++ cs.flatMap (escapeChar true) ++ ['"', '"', '"']
  | .longLiteral => ['\'', '\'', '\'', '\n'] ++ cs ++ ['\'', '\'', '\'']
  | .lineLiteral => ['\'', '\'', '\''] ++ cs ++ ['\'', '\'', '\'']

def plainText : Toml → List Char
  | string value => quote value
  | integer value => (toString value).toList
  | bool value => if value then "true".toList else "false".toList
  | _ => []

/-- The written form of the value of a pair: an array of two or more elements takes a line for
each. -/
def valueText : Toml → List Char
  | array [] => ['[', ']']
  | array [item] => '[' :: plainText item ++ [']']
  | array items =>
    ['[', '\n'] ++ items.flatMap (fun item => "    ".toList ++ plainText item ++ [',', '\n']) ++
      [']']
  | value => plainText value

/-- The line or lines of one pair. -/
def pairText (entry : String × Toml) : List Char :=
  entry.1.toList ++ " = ".toList ++ valueText entry.2 ++ ['\n']

def isTable : String × Toml → Bool
  | (_, table _) => true
  | _ => false

def tableText : String × Toml → List Char
  | (name, table entries) =>
    '[' :: name.toList ++ [']', '\n'] ++ entries.flatMap pairText
  | _ => []

/-- The text of a document whose keys are bare and whose tables hold only plain values and
arrays. -/
def write (entries : List (String × Toml)) : String :=
  let plain := (entries.filter (!isTable ·)).flatMap pairText
  let tables := (entries.filter isTable).map tableText
  String.ofList (plain ++ tables.flatMap ('\n' :: ·))

end SchemaDrift.Toml
