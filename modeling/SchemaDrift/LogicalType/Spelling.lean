import SchemaDrift.LogicalType.Basic
import SchemaDrift.Text.Chars

namespace SchemaDrift.LogicalType

/-- The decimal digits of a natural number. -/
def digits (n : Nat) : List Char := Nat.toDigits 10 n

def decimalParameters : Option UInt16 → Option UInt16 → List Char
  | some p, some s => '(' :: digits p.toNat ++ ',' :: ' ' :: digits s.toNat ++ [')']
  | some p, none => '(' :: digits p.toNat ++ [')']
  | none, _ => []

/-- The length after the name of a bounded text type. -/
def lengthParameter : Option UInt32 → List Char
  | some n => '(' :: digits n.toNat ++ [')']
  | none => []

/-- The characters of the type in a statement. -/
def ddlChars : LogicalType → List Char
  | bool => "BOOLEAN".toList
  | int => "INTEGER".toList
  | float => "DOUBLE PRECISION".toList
  | decimal precision scale => "NUMERIC".toList ++ decimalParameters precision scale
  | varchar length => "VARCHAR".toList ++ lengthParameter length
  | string => "TEXT".toList
  | date => "DATE".toList
  | timestamp => "TIMESTAMPTZ".toList
  | json => "JSONB".toList
  | uuid => "UUID".toList
  | array element => element.ddlChars ++ ['[', ']']
  | unknown => "TEXT".toList

/-- The spelling of the type in a statement. -/
def toDdl (type : LogicalType) : String := String.ofList type.ddlChars

/-- The characters of the type as shown to operators. -/
def displayChars : LogicalType → List Char
  | bool => "BOOLEAN".toList
  | int => "INTEGER".toList
  | float => "FLOAT".toList
  | decimal precision scale => "DECIMAL".toList ++ decimalParameters precision scale
  | varchar length => "VARCHAR".toList ++ lengthParameter length
  | string => "TEXT".toList
  | date => "DATE".toList
  | timestamp => "TIMESTAMP".toList
  | json => "JSON".toList
  | uuid => "UUID".toList
  | array element => element.displayChars ++ ['[', ']']
  | unknown => "UNKNOWN".toList

/-- The spelling of the type as shown to operators. -/
def display (type : LogicalType) : String := String.ofList type.displayChars

/-- The text between the first opening parenthesis and what closes it, up to the next opening
one. -/
def parameters? (cs : List Char) : Option (List Char) :=
  (Text.splitOnce '(' cs).map fun sides =>
    (sides.2.takeWhile (· != '(')).takeWhile (· != ')')

/-- The decimal type of a spelling such as `numeric(10, 2)`; one parameter means a scale of zero. -/
def ofDecimalSpelling (cs : List Char) : LogicalType :=
  let number (part : List Char) : Option UInt16 :=
    (Text.boundedNat? 65535 (Text.trim part)).map UInt16.ofNat
  match (parameters? cs).map (Text.splitOn ',') with
  | some [precision, scale] => decimal (number precision) (number scale)
  | some [precision] => decimal (number precision) (some 0)
  | _ => decimal none none

/-- The length of a spelling such as `varchar(20)`. -/
def lengthOfSpelling (cs : List Char) : Option UInt32 := do
  let inner ← parameters? cs
  (Text.boundedNat? 4294967295 (Text.trim inner)).map UInt32.ofNat

/-- The spellings without parameters. -/
def plainSpellings : List (String × LogicalType) :=
  [("boolean", bool), ("bool", bool),
    ("smallint", int), ("int2", int), ("integer", int), ("int", int), ("int4", int),
    ("bigint", int), ("int8", int), ("serial", int), ("serial4", int), ("bigserial", int),
    ("serial8", int), ("smallserial", int), ("serial2", int), ("oid", int),
    ("real", float), ("float4", float), ("double precision", float), ("float8", float),
    ("float", float), ("double", float),
    ("money", decimal (some 19) (some 2)),
    ("text", string), ("citext", string), ("name", string), ("string", string),
    ("date", date), ("timestamp", timestamp), ("timestamptz", timestamp),
    ("datetime", timestamp), ("time", timestamp), ("timetz", timestamp),
    ("json", json), ("jsonb", json), ("uuid", uuid), ("array", array unknown)]

def decimalNames : List String := ["numeric", "decimal"]

def boundedTextNames : List String :=
  ["character varying", "varchar", "character", "char", "bpchar"]

/-- The type of a lower-case spelling whose name is `name`, if it is no array. -/
def ofName? (name spelling : List Char) : Option LogicalType :=
  let word := String.ofList name
  match plainSpellings.lookup word with
  | some type => some type
  | none =>
    if decimalNames.contains word then some (ofDecimalSpelling spelling)
    else if boundedTextNames.contains word then some (varchar (lengthOfSpelling spelling))
    else if Text.startsWith "timestamp".toList name then some timestamp
    else if Text.startsWith "time ".toList name then some timestamp
    else none

/-- The type of a lower-case spelling; an array is marked by brackets after the type of its elements
or by an underscore before it. -/
def ofLowered : Nat → List Char → LogicalType
  | 0, _ => unknown
  | fuel + 1, cs =>
    let cs := Text.trim cs
    match Text.dropTail? ['[', ']'] cs with
    | some element => array (ofLowered fuel element)
    | none =>
      let name := Text.trim (cs.takeWhile (· != '('))
      match ofName? name cs with
      | some type => type
      | none =>
        match name with
        | '_' :: element => array (ofLowered fuel element)
        | _ => unknown

/-- The type of a spelling of a PostgreSQL catalog or statement, in any case. -/
def ofSpelling (spelling : String) : LogicalType :=
  let cs := Text.lower (Text.trim spelling.toList)
  ofLowered (cs.length + 1) cs

end SchemaDrift.LogicalType
