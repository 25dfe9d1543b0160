import SchemaDrift.Text.Case

namespace SchemaDrift.Text

/-- The text without the blanks at its start. -/
def trimStart (cs : List Char) : List Char := cs.dropWhile isBlank

/-- The text without its last characters that satisfy `drop`. -/
def dropWhileEnd (drop : Char → Bool) (cs : List Char) : List Char :=
  (cs.reverse.dropWhile drop).reverse

/-- The text without the blanks at its end. -/
def trimEnd (cs : List Char) : List Char := dropWhileEnd isBlank cs

/-- The text without the blanks at both ends. -/
def trim (cs : List Char) : List Char := trimEnd (trimStart cs)

/-- What follows `lead` in a text that starts with it. -/
def dropLead? : List Char → List Char → Option (List Char)
  | [], cs => some cs
  | _ :: _, [] => none
  | l :: lead, c :: cs => if l == c then dropLead? lead cs else none

/-- The text starts with `lead`. -/
def startsWith (lead cs : List Char) : Bool := (dropLead? lead cs).isSome

/-- What precedes `tail` in a text that ends with it. -/
def dropTail? (tail cs : List Char) : Option (List Char) :=
  (dropLead? tail.reverse cs.reverse).map List.reverse

/-- The text ends with `tail`. -/
def endsWith (tail cs : List Char) : Bool := (dropTail? tail cs).isSome

/-- The text holds `part` as a contiguous part. -/
def containsPart (part : List Char) : List Char → Bool
  | [] => part.isEmpty
  | c :: cs => startsWith part (c :: cs) || containsPart part cs

def splitOnce (separator : Char) : List Char → Option (List Char × List Char)
  | [] => none
  | c :: cs =>
    if c == separator then some ([], cs)
    else (splitOnce separator cs).map fun sides => (c :: sides.1, sides.2)

/-- The two sides of the first occurrence of `separator`. -/
def splitOncePart (separator : List Char) : List Char → Option (List Char × List Char)
  | [] => if separator.isEmpty then some ([], []) else none
  | c :: cs =>
    match dropLead? separator (c :: cs) with
    | some rest => some ([], rest)
    | none => (splitOncePart separator cs).map fun sides => (c :: sides.1, sides.2)

/-- The text with `new` in place of every occurrence of `old`, found from the left; `skip`
characters belong to an occurrence already replaced. -/
def replaceFrom (old new : List Char) (skip : Nat) : List Char → List Char
  | [] => []
  | c :: cs =>
    match skip with
    | more + 1 => replaceFrom old new more cs
    | 0 =>
      if startsWith old (c :: cs) then new ++ replaceFrom old new (old.length - 1) cs
      else c :: replaceFrom old new 0 cs

/-- The text with `new` in place of every occurrence of the non-empty text `old`. -/
def replaceAll (old new cs : List Char) : List Char :=
  if old.isEmpty then cs else replaceFrom old new 0 cs

/-- The parts of a text between separators; a text without one is its only part. -/
def splitOn (separator : Char) : List Char → List (List Char)
  | [] => [[]]
  | c :: cs =>
    if c == separator then [] :: splitOn separator cs
    else match splitOn separator cs with
      | [] => [[c]]
      | part :: parts => (c :: part) :: parts

/-- The parts in order with `separator` between neighbours. -/
def joinWith (separator : List Char) : List (List Char) → List Char
  | [] => []
  | [part] => part
  | part :: parts => part ++ separator ++ joinWith separator parts

/-- The number written by a sequence of digits. -/
def digitsValue (cs : List Char) : Nat :=
  cs.foldl (fun value c => value * 10 + (c.toNat - '0'.toNat)) 0

/-- The natural number up to `bound` that a text writes: digits, with a plus sign allowed. -/
def boundedNat? (bound : Nat) (cs : List Char) : Option Nat :=
  let digits := match cs with
    | '+' :: rest => rest
    | _ => cs
  if digits.isEmpty || !digits.all isAsciiDigit then none
  else if digitsValue digits ≤ bound then some (digitsValue digits) else none

/-- The value of a hexadecimal digit. -/
def hexDigit? (c : Char) : Option Nat :=
  if isAsciiDigit c then some (c.toNat - '0'.toNat)
  else if 'a' ≤ c && c ≤ 'f' then some (c.toNat - 'a'.toNat + 10)
  else if 'A' ≤ c && c ≤ 'F' then some (c.toNat - 'A'.toNat + 10)
  else none

/-- The lower-case hexadecimal digit of a number below 16. -/
def hexChar (n : Nat) : Char := Nat.digitChar n

/-- The words of a text between runs of blanks. -/
def words (cs : List Char) : List (List Char) :=
  let step (c : Char) (state : List (List Char) × List Char) : List (List Char) × List Char :=
    if isBlank c then (if state.2.isEmpty then state.1 else state.2 :: state.1, [])
    else (state.1, c :: state.2)
  let state := cs.foldr step ([], [])
  if state.2.isEmpty then state.1 else state.2 :: state.1

/-- The parts of texts joined with a separator, for texts held as strings. -/
def joinStrings (separator : String) (parts : List String) : String :=
  String.ofList (joinWith separator.toList (parts.map String.toList))

end SchemaDrift.Text
