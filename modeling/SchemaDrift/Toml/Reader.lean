import SchemaDrift.Toml.Value

namespace SchemaDrift.Toml

/-- The text without the blanks of a line at its start. -/
def skipBlanks (cs : List Char) : List Char := cs.dropWhile fun c => c == ' ' || c == '\t'

/-- The characters that no TOML text may hold unescaped, line breaks included. -/
def isControl (c : Char) : Bool := (c.toNat < 0x20 && c != '\t') || c.toNat == 0x7F

/-- What follows a comment, if one is written here. -/
def skipComment : List Char → Option (List Char)
  | '#' :: rest =>
    let after := rest.dropWhile fun c => !isControl c
    match after with
    | [] => some []
    | '\n' :: _ => some after
    | '\r' :: '\n' :: _ => some after
    | _ => none
  | cs => some cs

def skipBreak : List Char → Option (List Char)
  | '\n' :: rest => some rest
  | '\r' :: '\n' :: rest => some rest
  | _ => none

/-- What follows the blanks, comments and line breaks that are written here. -/
def skipLayout : Nat → List Char → Option (List Char)
  | 0, cs => some cs
  | fuel + 1, cs => do
    let cs ← skipComment (skipBlanks cs)
    match skipBreak cs with
    | some rest => skipLayout fuel rest
    | none => some cs

def isBareKeyPart (c : Char) : Bool :=
  Text.isAsciiLetter c || Text.isAsciiDigit c || c == '_' || c == '-'

/-- The number written by exactly `count` hexadecimal digits. -/
def readHex (count : Nat) (cs : List Char) : Option (Nat × List Char) := do
  if cs.length < count then none
  let digits ← (cs.take count).mapM Text.hexDigit?
  some (digits.foldl (fun value digit => value * 16 + digit) 0, cs.drop count)

/-- The character of a code point that is one. -/
def scalar? (code : Nat) : Option Char :=
  if code < 0xD800 || (0xDFFF < code && code < 0x110000) then some (Char.ofNat code) else none

/-- The character of an escape, given what follows the backslash. -/
def readEscape : List Char → Option (Char × List Char)
  | 'b' :: rest => some (Char.ofNat 8, rest)
  | 't' :: rest => some ('\t', rest)
  | 'n' :: rest => some ('\n', rest)
  | 'f' :: rest => some (Char.ofNat 12, rest)
  | 'r' :: rest => some ('\r', rest)
  | '"' :: rest => some ('"', rest)
  | '\\' :: rest => some ('\\', rest)
  | 'u' :: rest => do
    let (code, rest) ← readHex 4 rest
    some (← scalar? code, rest)
  | 'U' :: rest => do
    let (code, rest) ← readHex 8 rest
    some (← scalar? code, rest)
  | _ => none

/-- The rest of a one-line string with escapes. -/
def readBasic : Nat → List Char → Option (List Char × List Char)
  | 0, _ => none
  | _ + 1, [] => none
  | _ + 1, '"' :: rest => some ([], rest)
  | fuel + 1, '\\' :: rest => do
    let (c, rest) ← readEscape rest
    let (text, rest) ← readBasic fuel rest
    some (c :: text, rest)
  | fuel + 1, c :: rest =>
    if isControl c then none
    else do
      let (text, rest) ← readBasic fuel rest
      some (c :: text, rest)

/-- The rest of a one-line string without escapes. -/
def readLiteral : List Char → Option (List Char × List Char)
  | [] => none
  | '\'' :: rest => some ([], rest)
  | c :: rest =>
    if isControl c then none
    else (readLiteral rest).map fun r => (c :: r.1, r.2)

/-- Three quotes close a long string; up to two more belong to its text. -/
def closeLong (quote : Char) (cs : List Char) : Option (List Char × List Char) :=
  let run := (cs.takeWhile (· == quote)).length
  if run < 3 then none
  else
    let inside := min (run - 3) 2
    some (List.replicate inside quote, cs.drop (inside + 3))

/-- The rest of a string of several lines. -/
def readLong (quote : Char) (escapes : Bool) : Nat → List Char → Option (List Char × List Char)
  | 0, _ => none
  | _ + 1, [] => none
  | fuel + 1, c :: rest =>
    if c == quote then
      match closeLong quote (c :: rest) with
      | some closed => some closed
      | none => (readLong quote escapes fuel rest).map fun r => (c :: r.1, r.2)
    else if c == '\\' && escapes then
      let after := skipBlanks rest
      match skipBreak after with
      | some next =>
        readLong quote escapes fuel
          (next.dropWhile fun c => c == ' ' || c == '\t' || c == '\n' || c == '\r')
      | none => do
        let (c, rest) ← readEscape rest
        let (text, rest) ← readLong quote escapes fuel rest
        some (c :: text, rest)
    else match skipBreak (c :: rest) with
      | some next => (readLong quote escapes fuel next).map fun r => ('\n' :: r.1, r.2)
      | none =>
        if isControl c then none
        else (readLong quote escapes fuel rest).map fun r => (c :: r.1, r.2)

/-- The rest of a long string whose first line break does not count. -/
def readLongBody (quote : Char) (escapes : Bool) (cs : List Char) :
    Option (List Char × List Char) :=
  let body := (skipBreak cs).getD cs
  readLong quote escapes (body.length + 1) body

/-- The string at the start of a text. -/
def readText : List Char → Option (List Char × List Char)
  | '"' :: '"' :: '"' :: rest => readLongBody '"' true rest
  | '\'' :: '\'' :: '\'' :: rest => readLongBody '\'' false rest
  | '"' :: rest => readBasic (rest.length + 1) rest
  | '\'' :: rest => readLiteral rest
  | _ => none

def readKeyPart : List Char → Option (String × List Char)
  | '"' :: rest => (readBasic (rest.length + 1) rest).map fun r => (String.ofList r.1, r.2)
  | '\'' :: rest => (readLiteral rest).map fun r => (String.ofList r.1, r.2)
  | cs =>
    let part := cs.takeWhile isBareKeyPart
    if part.isEmpty then none else some (String.ofList part, cs.dropWhile isBareKeyPart)

/-- A key with dots between its parts; the answer is the parts before the last, the last, and what
follows, without the blanks before it. -/
def readKey : Nat → List Char → Option (List String × String × List Char)
  | 0, _ => none
  | fuel + 1, cs => do
    let (part, rest) ← readKeyPart (skipBlanks cs)
    match skipBlanks rest with
    | '.' :: rest =>
      let (path, last, rest) ← readKey fuel rest
      some (part :: path, last, rest)
    | rest => some ([], part, rest)

/-- The digits of a number with single underscores between them, without the underscores. -/
def plainDigits? (isDigit : Char → Bool) (cs : List Char) : Option (List Char) :=
  let parts := Text.splitOn '_' cs
  if parts.all (fun part => !part.isEmpty && part.all isDigit) then some parts.flatten else none

/-- The number that digits write in a base. -/
def baseValue (base : Nat) (digits : List Char) : Nat :=
  digits.foldl (fun value c => value * base + (Text.hexDigit? c).getD 0) 0

/-- The integer of 64 bits that a word writes. -/
def readInteger (word : List Char) : Option Int :=
  let inRange (n : Int) : Option Int :=
    if -9223372036854775808 ≤ n && n ≤ 9223372036854775807 then some n else none
  let based (base : Nat) (isDigit : Char → Bool) (cs : List Char) : Option Int := do
    inRange (baseValue base (← plainDigits? isDigit cs))
  let decimal (cs : List Char) : Option Int := do
    let digits ← plainDigits? Text.isAsciiDigit cs
    if digits.length > 1 && digits.head? == some '0' then none
    some (baseValue 10 digits)
  match word with
  | '0' :: 'x' :: rest => based 16 (fun c => (Text.hexDigit? c).isSome) rest
  | '0' :: 'o' :: rest => based 8 (fun c => '0' ≤ c && c ≤ '7') rest
  | '0' :: 'b' :: rest => based 2 (fun c => c == '0' || c == '1') rest
  | '-' :: rest => do inRange (-(← decimal rest))
  | '+' :: rest => do inRange (← decimal rest)
  | rest => do inRange (← decimal rest)

/-- A word writes a float: digits with a fraction, an exponent or both, or a special value. -/
def isFloat (word : List Char) : Bool :=
  let unsigned := match word with
    | '+' :: rest => rest
    | '-' :: rest => rest
    | rest => rest
  let isWhole (cs : List Char) : Bool :=
    match plainDigits? Text.isAsciiDigit cs with
    | some digits => !(digits.length > 1 && digits.head? == some '0')
    | none => false
  let isDigits (cs : List Char) : Bool := (plainDigits? Text.isAsciiDigit cs).isSome
  let isMantissa (cs : List Char) : Bool :=
    match Text.splitOnce '.' cs with
    | some (whole, fraction) => isWhole whole && isDigits fraction
    | none => isWhole cs
  let isExponent (cs : List Char) : Bool :=
    match cs with
    | '+' :: rest => isDigits rest
    | '-' :: rest => isDigits rest
    | rest => isDigits rest
  if unsigned == "inf".toList || unsigned == "nan".toList then true
  else
    let lowered := unsigned.map Text.lowerAscii
    match Text.splitOnce 'e' lowered with
    | some (mantissa, exponent) => isMantissa mantissa && isExponent exponent
    | none => unsigned.contains '.' && isMantissa unsigned

/-- A text has the digits and marks of a pattern, in which `d` stands for a digit. -/
def matchesShape : List Char → List Char → Bool
  | [], [] => true
  | 'd' :: pattern, c :: cs => Text.isAsciiDigit c && matchesShape pattern cs
  | p :: pattern, c :: cs => p == c && matchesShape pattern cs
  | _, _ => false

def twoDigits (cs : List Char) (position : Nat) : Nat :=
  Text.digitsValue ((cs.drop position).take 2)

/-- A text writes a day of a month. -/
def isDay (cs : List Char) : Bool :=
  matchesShape "dddd-dd-dd".toList cs && 1 ≤ twoDigits cs 5 && twoDigits cs 5 ≤ 12 &&
    1 ≤ twoDigits cs 8 && twoDigits cs 8 ≤ 31

/-- A text writes a time of day, with or without an offset. -/
def isTimeOfDay (offset : Bool) (cs : List Char) : Bool :=
  let head := cs.take 8
  let rest := cs.drop 8
  let afterFraction := match rest with
    | '.' :: more =>
      if (more.takeWhile Text.isAsciiDigit).isEmpty then none
      else some (more.dropWhile Text.isAsciiDigit)
    | more => some more
  let isOffset (cs : List Char) : Bool :=
    cs.isEmpty || (offset && (cs == ['Z'] || cs == ['z'] ||
      ((matchesShape "+dd:dd".toList cs || matchesShape "-dd:dd".toList cs) &&
        twoDigits cs 1 ≤ 23 && twoDigits cs 4 ≤ 59)))
  matchesShape "dd:dd:dd".toList head && twoDigits head 0 ≤ 23 && twoDigits head 3 ≤ 59 &&
    twoDigits head 6 ≤ 60 && (afterFraction.map isOffset).getD false

/-- A word writes a date, a time or both. -/
def isDate (word : List Char) : Bool :=
  let day := word.take 10
  match word.drop 10 with
  | [] => isDay day || isTimeOfDay false word
  | separator :: time =>
    (isDay day && (separator == 'T' || separator == 't' || separator == ' ') &&
      isTimeOfDay true time) || isTimeOfDay false word

/-- The characters of a number or a date. -/
def isWordPart (c : Char) : Bool :=
  Text.isAsciiLetter c || Text.isAsciiDigit c || c == '_' || c == '+' || c == '-' || c == '.' ||
    c == ':'

/-- The word at the start of a text, with the time that follows a day after one blank. -/
def readWord (cs : List Char) : List Char × List Char :=
  let word := cs.takeWhile isWordPart
  let rest := cs.dropWhile isWordPart
  match rest with
  | ' ' :: c :: _ =>
    if isDay word && Text.isAsciiDigit c then
      let time := (rest.drop 1).takeWhile isWordPart
      (word ++ ' ' :: time, (rest.drop 1).dropWhile isWordPart)
    else (word, rest)
  | _ => (word, rest)

def wordValue? (word : List Char) : Option Toml :=
  if word == "true".toList then some (.bool true)
  else if word == "false".toList then some (.bool false)
  else match readInteger word with
    | some value => some (.integer value)
    | none => if isFloat word then some .float else if isDate word then some .date else none

/-- The elements of an array up to its closing bracket. -/
def readItems (value : List Char → Option (Toml × List Char)) :
    Nat → List Char → Option (List Toml × List Char)
  | 0, _ => none
  | fuel + 1, cs => do
    let cs ← skipLayout (cs.length + 1) cs
    match cs with
    | ']' :: rest => some ([], rest)
    | _ =>
      let (item, rest) ← value cs
      let rest ← skipLayout (rest.length + 1) rest
      match rest with
      | ']' :: rest => some ([item], rest)
      | ',' :: rest =>
        let (items, rest) ← readItems value fuel rest
        some (item :: items, rest)
      | _ => none

/-- The pairs of an inline table up to its closing brace. -/
def readPairs (value : List Char → Option (Toml × List Char)) :
    Nat → Entries → List Char → Option (Entries × List Char)
  | 0, _, _ => none
  | fuel + 1, entries, cs => do
    let (path, key, rest) ← readKey (cs.length + 1) cs
    match rest with
    | '=' :: rest =>
      let (item, rest) ← value (skipBlanks rest)
      let entries ← insertValue path key item .dotted entries
      match skipBlanks rest with
      | '\x7d' :: rest => some (entries, rest)
      | ',' :: rest => readPairs value fuel entries rest
      | _ => none
    | _ => none

/-- The value at the start of a text, in which up to `depth` brackets may be open at a time. -/
def readValue : Nat → List Char → Option (Toml × List Char)
  | 0, _ => none
  | depth + 1, cs =>
    match cs with
    | '"' :: _ => (readText cs).map fun r => (.string (String.ofList r.1), r.2)
    | '\'' :: _ => (readText cs).map fun r => (.string (String.ofList r.1), r.2)
    | '[' :: rest =>
      (readItems (readValue depth) (rest.length + 1) rest).map fun r => (.array r.1, r.2)
    | '\x7b' :: rest =>
      match skipBlanks rest with
      | '\x7d' :: rest => some (.table [], rest)
      | rest =>
        (readPairs (readValue depth) (rest.length + 1) [] rest).map fun r =>
          ((Node.table .header r.1).toValue, r.2)
    | _ =>
      let (word, rest) := readWord cs
      (wordValue? word).map fun value => (value, rest)

/-- A line must end after what it says; the answer is what follows the line. -/
def endLine (cs : List Char) : Option (List Char) := do
  let cs ← skipComment (skipBlanks cs)
  match cs with
  | [] => some []
  | _ => skipBreak cs

/-- The table that the following pairs belong to, and the document so far. -/
structure Growth where
  path : List String
  root : Entries

/-- The number of brackets that a value may have open at a time. -/
def maxDepth : Nat := 80

def readLine (growth : Growth) (cs : List Char) : Option (Growth × List Char) :=
  match cs with
  | '[' :: '[' :: rest => do
    let (path, key, rest) ← readKey (rest.length + 1) rest
    match rest with
    | ']' :: ']' :: rest =>
      let root ← openElement path key growth.root
      some (⟨path ++ [key], root⟩, ← endLine rest)
    | _ => none
  | '[' :: rest => do
    let (path, key, rest) ← readKey (rest.length + 1) rest
    match rest with
    | ']' :: rest =>
      let root ← openTable path key growth.root
      some (⟨path ++ [key], root⟩, ← endLine rest)
    | _ => none
  | _ => do
    let (path, key, rest) ← readKey (cs.length + 1) cs
    match rest with
    | '=' :: rest =>
      let (value, rest) ← readValue maxDepth (skipBlanks rest)
      let root ← changeAt .parent (insertValue path key value) growth.path .header growth.root
      some (⟨growth.path, root⟩, ← endLine rest)
    | _ => none

/-- Reads the lines of a document one after the other. -/
def readLines : Nat → Growth → List Char → Option Entries
  | 0, growth, _ => some growth.root
  | fuel + 1, growth, cs => do
    let cs ← skipLayout (cs.length + 1) cs
    match cs with
    | [] => some growth.root
    | _ =>
      let (growth, rest) ← readLine growth cs
      readLines fuel growth rest

/-- The entries of the document that a text writes. -/
def read? (text : List Char) : Option (List (String × Toml)) := do
  let text := match text with
    | c :: rest => if c.toNat == 0xFEFF then rest else text
    | [] => []
  let root ← readLines (text.length + 1) ⟨[], []⟩ text
  some (Node.toValue.entriesToValue root)

end SchemaDrift.Toml
