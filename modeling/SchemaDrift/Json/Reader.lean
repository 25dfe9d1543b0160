import SchemaDrift.Json.Value

/-
This file reads JSON texts. A text is refused when it is no JSON, when a number is too large for a
double, when an escape names half of a surrogate pair, and when it nests deeper than 127 levels.
-/

namespace SchemaDrift.Json

/-- The text without the blanks of JSON at its start. -/
def skipBlanks (cs : List Char) : List Char :=
  cs.dropWhile fun c => c == ' ' || c == '\n' || c == '\t' || c == '\r'

/-- The number written by four hexadecimal digits, and what follows them. -/
def readHex4 : List Char → Option (Nat × List Char)
  | a :: b :: c :: d :: rest => do
    let digits ← [a, b, c, d].mapM Text.hexDigit?
    some (digits.foldl (fun value digit => value * 16 + digit) 0, rest)
  | _ => none

/-- The character of an escape, given what follows the backslash. -/
def readEscape : List Char → Option (Char × List Char)
  | '"' :: rest => some ('"', rest)
  | '\\' :: rest => some ('\\', rest)
  | '/' :: rest => some ('/', rest)
  | 'b' :: rest => some (Char.ofNat 8, rest)
  | 'f' :: rest => some (Char.ofNat 12, rest)
  | 'n' :: rest => some ('\n', rest)
  | 'r' :: rest => some ('\r', rest)
  | 't' :: rest => some ('\t', rest)
  | 'u' :: rest =>
    match readHex4 rest with
    | none => none
    | some (unit, rest) =>
      if 0xD800 ≤ unit && unit ≤ 0xDBFF then
        match rest with
        | '\\' :: 'u' :: rest =>
          match readHex4 rest with
          | none => none
          | some (low, rest) =>
            if 0xDC00 ≤ low && low ≤ 0xDFFF then
              some (Char.ofNat (0x10000 + (unit - 0xD800) * 0x400 + (low - 0xDC00)), rest)
            else none
        | _ => none
      else if 0xDC00 ≤ unit && unit ≤ 0xDFFF then none
      else some (Char.ofNat unit, rest)
  | _ => none

/-- The rest of a string after its opening quote; `fuel` bounds the number of characters. -/
def readString : Nat → List Char → Option (List Char × List Char)
  | 0, _ => none
  | _ + 1, [] => none
  | fuel + 1, c :: rest =>
    if c == '"' then some ([], rest)
    else if c == '\\' then do
      let (c, rest) ← readEscape rest
      let (text, rest) ← readString fuel rest
      some (c :: text, rest)
    else if c.toNat < 0x20 then none
    else do
      let (text, rest) ← readString fuel rest
      some (c :: text, rest)

/-- The decimal `digits * 10 ^ exponent` rounds to a double that is not infinite. -/
def fitsDouble (digits : Nat) (exponent : Int) : Bool :=
  if digits == 0 then true
  else
    let size := (Nat.toDigits 10 digits).length + exponent
    if size > 320 then false
    else if size < 300 then true
    else
      let limit : Nat := Nat.pow 2 1024 - Nat.pow 2 970
      if exponent ≥ 0 then digits * Nat.pow 10 exponent.toNat < limit
      else digits < limit * Nat.pow 10 (-exponent).toNat

/-- The digits at the start of a text, of which there must be one, and what follows them. -/
def readDigits (cs : List Char) : Option (List Char × List Char) :=
  let digits := cs.takeWhile Text.isAsciiDigit
  if digits.isEmpty then none else some (digits, cs.dropWhile Text.isAsciiDigit)

/-- The exponent of a number, if one is written: its text, its value and what follows. -/
def readExponent : List Char → Option (List Char × Int × List Char)
  | c :: rest =>
    if c == 'e' || c == 'E' then
      match rest with
      | '+' :: rest =>
        (readDigits rest).map fun d => ([c, '+'] ++ d.1, (Text.digitsValue d.1 : Int), d.2)
      | '-' :: rest =>
        (readDigits rest).map fun d => ([c, '-'] ++ d.1, -(Text.digitsValue d.1 : Int), d.2)
      | rest => (readDigits rest).map fun d => (c :: d.1, (Text.digitsValue d.1 : Int), d.2)
    else some ([], 0, c :: rest)
  | [] => some ([], 0, [])

/-- The digits after the point of a number, if a point is written, and what follows. -/
def readFraction : List Char → Option (List Char × List Char)
  | '.' :: rest => readDigits rest
  | rest => some ([], rest)

/-- The unsigned number at the start of a text, under its sign. -/
def readUnsigned (negative : Bool) (cs : List Char) : Option (Json × List Char) := do
  let (whole, rest) ← readDigits cs
  if whole.length > 1 && whole.head? == some '0' then none
  let (fraction, rest) ← readFraction rest
  let (exponentText, exponent, rest) ← readExponent rest
  let value := Text.digitsValue whole
  let sign := if negative then ['-'] else []
  let fits := if negative then 0 < value && value ≤ 9223372036854775808 else value ≤ word64
  if fraction.isEmpty && exponentText.isEmpty && fits then
    some (integer (if negative then -(value : Int) else value), rest)
  else if fitsDouble (Text.digitsValue (whole ++ fraction)) (exponent - fraction.length) then
    let point := if fraction.isEmpty then [] else '.' :: fraction
    some (real (String.ofList (sign ++ whole ++ point ++ exponentText)), rest)
  else none

/-- The number at the start of a text. -/
def readNumber : List Char → Option (Json × List Char)
  | '-' :: rest => readUnsigned true rest
  | cs => readUnsigned false cs

/-- The elements of an array up to its closing bracket; `fuel` bounds their number. -/
def readItems (value : List Char → Option (Json × List Char)) :
    Nat → List Char → Option (List Json × List Char)
  | 0, _ => none
  | fuel + 1, cs => do
    let (item, rest) ← value cs
    match skipBlanks rest with
    | ']' :: rest => some ([item], rest)
    | ',' :: rest =>
      let (items, rest) ← readItems value fuel rest
      some (item :: items, rest)
    | _ => none

/-- The members of an object up to its closing brace; `fuel` bounds their number. -/
def readMembers (value : List Char → Option (Json × List Char)) :
    Nat → List Char → Option (List (String × Json) × List Char)
  | 0, _ => none
  | fuel + 1, cs =>
    match skipBlanks cs with
    | '"' :: rest => do
      let (key, rest) ← readString (rest.length + 1) rest
      match skipBlanks rest with
      | ':' :: rest =>
        let (item, rest) ← value rest
        match skipBlanks rest with
        | '}' :: rest => some ([(String.ofList key, item)], rest)
        | ',' :: rest =>
          let (members, rest) ← readMembers value fuel rest
          some ((String.ofList key, item) :: members, rest)
        | _ => none
      | _ => none
    | _ => none

/-- The value at the start of a text, in which up to `depth` brackets may be open at a time. -/
def readValue : Nat → List Char → Option (Json × List Char)
  | depth, cs =>
    match skipBlanks cs with
    | 'n' :: 'u' :: 'l' :: 'l' :: rest => some (null, rest)
    | 't' :: 'r' :: 'u' :: 'e' :: rest => some (bool true, rest)
    | 'f' :: 'a' :: 'l' :: 's' :: 'e' :: rest => some (bool false, rest)
    | '"' :: rest =>
      (readString (rest.length + 1) rest).map fun r => (string (String.ofList r.1), r.2)
    | '[' :: rest =>
      match depth with
      | 0 => none
      | depth + 1 =>
        match skipBlanks rest with
        | ']' :: rest => some (array [], rest)
        | rest =>
          (readItems (readValue depth) (rest.length + 1) rest).map fun r => (array r.1, r.2)
    | '{' :: rest =>
      match depth with
      | 0 => none
      | depth + 1 =>
        match skipBlanks rest with
        | '}' :: rest => some (object [], rest)
        | rest =>
          (readMembers (readValue depth) (rest.length + 1) rest).map fun r => (object r.1, r.2)
    | rest => readNumber rest

/-- The number of brackets that a text may have open at a time. -/
def maxDepth : Nat := 127

/-- The value that a text writes. -/
def read? (text : List Char) : Option Json :=
  match readValue maxDepth text with
  | some (value, rest) => if (skipBlanks rest).isEmpty then some value else none
  | none => none

end SchemaDrift.Json
