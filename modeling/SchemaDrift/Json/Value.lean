import SchemaDrift.Text.Chars

/-
This file holds JSON values. Members of an object stay in the order in which they were written, and
a member that was written twice is there twice.
-/

namespace SchemaDrift

/-- A JSON value; a number that is no 64-bit integer keeps only its text. -/
inductive Json where
  | null
  | bool (value : Bool)
  | integer (value : Int)
  | real (text : String)
  | string (value : String)
  | array (items : List Json)
  | object (members : List (String × Json))
  deriving Inhabited

namespace Json

def isNull : Json → Bool
  | null => true
  | _ => false

/-- The natural number as a JSON value. -/
def ofNat (n : Nat) : Json := integer n

/-- The text as a JSON value, with null for its absence. -/
def ofText? : Option String → Json
  | some text => string text
  | none => null

def valuesOf (key : String) (members : List (String × Json)) : List Json :=
  (members.filter (·.1 == key)).map Prod.snd

def members? : Json → Option (List (String × Json))
  | object members => some members
  | _ => none

def text? : Json → Option String
  | string value => some value
  | _ => none

/-- The truth value of a JSON boolean. -/
def bool? : Json → Option Bool
  | bool value => some value
  | _ => none

/-- The natural number up to `bound` that a value is. -/
def nat? (bound : Nat) : Json → Option Nat
  | integer value => if 0 ≤ value && value ≤ bound then some value.toNat else none
  | _ => none

/-- The greatest number of 64 bits. -/
def word64 : Nat := 18446744073709551615

/-- The greatest number of 32 bits. -/
def word32 : Nat := 4294967295

/-- The greatest number of 16 bits. -/
def word16 : Nat := 65535

/-- The elements of an array, each read by `read`; it fails if one of them cannot be read. -/
def list? {α : Type} (read : Json → Option α) : Json → Option (List α)
  | array items => items.mapM read
  | _ => none

/-- Null is the absence of a value; all else is read by `read`. -/
def nullable? {α : Type} (read : Json → Option α) : Json → Option (Option α)
  | null => some none
  | value => (read value).map some

/-- The member of a name that must be there exactly once. -/
def required {α : Type} (members : List (String × Json)) (key : String)
    (read : Json → Option α) : Option α :=
  match valuesOf key members with
  | [value] => read value
  | _ => none

/-- The member of a name that may be missing or null, and must not be there twice. -/
def optional {α : Type} (members : List (String × Json)) (key : String)
    (read : Json → Option α) : Option (Option α) :=
  match valuesOf key members with
  | [] => some none
  | [value] => nullable? read value
  | _ => none

/-- The member of a name that may be missing, in which case `default` stands for it. -/
def defaulted {α : Type} (members : List (String × Json)) (key : String) (default : α)
    (read : Json → Option α) : Option α :=
  match valuesOf key members with
  | [] => some default
  | [value] => read value
  | _ => none

end Json

end SchemaDrift
