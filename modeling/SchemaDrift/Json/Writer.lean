import SchemaDrift.Json.Value

namespace SchemaDrift.Json

/-- The written form of one character inside a string. -/
def escapeChar (c : Char) : List Char :=
  if c == '"' then ['\\', '"']
  else if c == '\\' then ['\\', '\\']
  else if c.toNat == 8 then ['\\', 'b']
  else if c.toNat == 12 then ['\\', 'f']
  else if c == '\n' then ['\\', 'n']
  else if c == '\r' then ['\\', 'r']
  else if c == '\t' then ['\\', 't']
  else if c.toNat < 0x20 then
    ['\\', 'u', '0', '0', Text.hexChar (c.toNat / 16), Text.hexChar (c.toNat % 16)]
  else [c]

/-- The written form of a text, between quotes. -/
def quote (text : String) : List Char := '"' :: text.toList.flatMap escapeChar ++ ['"']

/-- The written form of an integer. -/
def integerText (n : Int) : List Char :=
  match n with
  | .ofNat m => Nat.toDigits 10 m
  | .negSucc m => '-' :: Nat.toDigits 10 (m + 1)

/-- The form of a value without any blank. -/
def compact : Json → List Char
  | null => "null".toList
  | bool true => "true".toList
  | bool false => "false".toList
  | integer value => integerText value
  | real text => text.toList
  | string value => quote value
  | array items => '[' :: compactItems items ++ [']']
  | object members => '{' :: compactMembers members ++ ['}']
where
  /-- The elements of an array, with commas between them. -/
  compactItems : List Json → List Char
    | [] => []
    | [item] => compact item
    | item :: items => compact item ++ ',' :: compactItems items
  /-- The members of an object, with commas between them. -/
  compactMembers : List (String × Json) → List Char
    | [] => []
    | [(key, value)] => quote key ++ ':' :: compact value
    | (key, value) :: members => quote key ++ ':' :: compact value ++ ',' :: compactMembers members

/-- A line break followed by the indentation of `level`. -/
def lineBreak (level : Nat) : List Char := '\n' :: List.replicate (2 * level) ' '

/-- The form of a value with one element or member to a line, indented by two blanks a level. -/
def pretty (level : Nat) : Json → List Char
  | null => "null".toList
  | bool true => "true".toList
  | bool false => "false".toList
  | integer value => integerText value
  | real text => text.toList
  | string value => quote value
  | array [] => ['[', ']']
  | array (item :: items) =>
    '[' :: lineBreak (level + 1) ++ pretty (level + 1) item ++
      prettyItems (level + 1) items ++ lineBreak level ++ [']']
  | object [] => ['{', '}']
  | object ((key, value) :: members) =>
    '{' :: lineBreak (level + 1) ++ quote key ++ ':' :: ' ' :: pretty (level + 1) value ++
      prettyMembers (level + 1) members ++ lineBreak level ++ ['}']
where
  /-- The elements after the first, each after a comma on a line of its own. -/
  prettyItems (level : Nat) : List Json → List Char
    | [] => []
    | item :: items => ',' :: lineBreak level ++ pretty level item ++ prettyItems level items
  /-- The members after the first, each after a comma on a line of its own. -/
  prettyMembers (level : Nat) : List (String × Json) → List Char
    | [] => []
    | (key, value) :: members =>
      ',' :: lineBreak level ++ quote key ++ ':' :: ' ' :: pretty level value ++
        prettyMembers level members

def toCompactText (value : Json) : String := String.ofList (compact value)

def toPrettyText (value : Json) : String := String.ofList (pretty 0 value)

end SchemaDrift.Json
