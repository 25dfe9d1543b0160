import SchemaDrift.LogicalType.Basic
import SchemaDrift.Json.Value

namespace SchemaDrift.LogicalType

def optionalNumber (n : Option Nat) : SchemaDrift.Json :=
  match n with
  | some n => .ofNat n
  | none => .null

def toJson : LogicalType → SchemaDrift.Json
  | bool => tagged "bool" []
  | int => tagged "int" []
  | float => tagged "float" []
  | decimal precision scale =>
    tagged "decimal" [("precision", optionalNumber (precision.map UInt16.toNat)),
      ("scale", optionalNumber (scale.map UInt16.toNat))]
  | varchar length => tagged "varchar" [("length", optionalNumber (length.map UInt32.toNat))]
  | string => tagged "string" []
  | date => tagged "date" []
  | timestamp => tagged "timestamp" []
  | json => tagged "json" []
  | uuid => tagged "uuid" []
  | array element => tagged "array" [("element_type", element.toJson)]
  | unknown => tagged "unknown" []
where
  /-- An object whose first member names the case. -/
  tagged (name : String) (members : List (String × SchemaDrift.Json)) : SchemaDrift.Json :=
    .object (("type", .string name) :: members)

/-- The case without parameters of a name. -/
def ofTag? (name : String) : Option LogicalType :=
  [("bool", bool), ("int", int), ("float", float), ("string", string), ("date", date),
    ("timestamp", timestamp), ("json", json), ("uuid", uuid), ("unknown", unknown)].lookup name

/-- The type that a JSON value is the form of; `depth` bounds the nesting of arrays. -/
def ofJsonWithin? : Nat → SchemaDrift.Json → Option LogicalType
  | 0, _ => none
  | depth + 1, value => do
    let members ← value.members?
    let name ← SchemaDrift.Json.required members "type" (·.text?)
    match ofTag? name with
    | some type => some type
    | none =>
      if name == "decimal" then
        let precision ←
          SchemaDrift.Json.optional members "precision" (·.nat? SchemaDrift.Json.word16)
        let scale ← SchemaDrift.Json.optional members "scale" (·.nat? SchemaDrift.Json.word16)
        some (decimal (precision.map UInt16.ofNat) (scale.map UInt16.ofNat))
      else if name == "varchar" then
        let length ← SchemaDrift.Json.optional members "length" (·.nat? SchemaDrift.Json.word32)
        some (varchar (length.map UInt32.ofNat))
      else if name == "array" then
        (SchemaDrift.Json.required members "element_type" (ofJsonWithin? depth)).map array
      else none

/-- The number of brackets that any JSON text can open bounds the nesting of its types. -/
def ofJson? (value : SchemaDrift.Json) : Option LogicalType := ofJsonWithin? 128 value

end SchemaDrift.LogicalType
