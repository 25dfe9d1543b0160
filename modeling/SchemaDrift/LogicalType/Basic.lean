namespace SchemaDrift

/-- A column type that code, catalog and statements share. -/
inductive LogicalType where
  | bool
  | int
  | float
  | decimal (precision : Option UInt16) (scale : Option UInt16)
  | varchar (length : Option UInt32)
  | string
  | date
  | timestamp
  | json
  | uuid
  | array (element : LogicalType)
  | unknown
  deriving DecidableEq, Inhabited

namespace LogicalType

/-- The families of types whose values a column can exchange. -/
inductive Family where
  | boolean
  | numeric
  | text
  | temporal
  | json
  | uuid
  | array
  | unknown
  deriving DecidableEq

def family : LogicalType → Family
  | bool => .boolean
  | int => .numeric
  | float => .numeric
  | decimal _ _ => .numeric
  | varchar _ => .text
  | string => .text
  | date => .temporal
  | timestamp => .temporal
  | json => .json
  | uuid => .uuid
  | array _ => .array
  | unknown => .unknown

/-- How much a type says: nothing, unbounded text, bounded text, or something specific. -/
def specificity : LogicalType → Nat
  | unknown => 0
  | string => 1
  | varchar _ => 2
  | _ => 3

/-- The type is outside text and is known. -/
def isSpecific (type : LogicalType) : Bool := type.specificity == 3

/-- The type is bounded or unbounded text. -/
def isText : LogicalType → Bool
  | string => true
  | varchar _ => true
  | _ => false

/-- Values of one type can be kept in a column of the other; nothing speaks against the unknown. -/
def isCompatibleWith (type other : LogicalType) : Bool :=
  type.family == .unknown || other.family == .unknown || type.family == other.family

/-- The type says strictly more than another that is known. -/
def isMoreSpecificThan (type other : LogicalType) : Bool :=
  0 < other.specificity && other.specificity < type.specificity

/-- The greater of two bounds, or no bound when one is missing. -/
def widerLength : Option UInt32 → Option UInt32 → Option UInt32
  | some a, some b => some (max a b)
  | _, _ => none

/-- The type of the same family that holds the values of both. -/
def widen (type other : LogicalType) : Option LogicalType :=
  if type = other then some type
  else match type, other with
    | varchar a, varchar b => some (varchar (widerLength a b))
    | int, float => some float
    | float, int => some float
    | decimal p s, int => some (decimal p s)
    | int, decimal p s => some (decimal p s)
    | decimal _ _, float => some float
    | float, decimal _ _ => some float
    | date, timestamp => some timestamp
    | timestamp, date => some timestamp
    | _, _ => none

end LogicalType

end SchemaDrift
