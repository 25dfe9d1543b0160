import SchemaDrift.Sql.Token

/-
This file cuts the text of statements into tokens. It fails only on a quoted text, a quoted name or
a block comment that does not end.
-/

namespace SchemaDrift.Sql.Lexer

/-- The rest of a text in quotes, in which a quote is written twice; with `escapes`, a backslash
writes the character after it. -/
def readQuoted (quote : Char) (escapes : Bool) : List Char → Option (List Char × List Char)
  | [] => none
  | c :: rest =>
    if c == quote then
      match rest with
      | d :: more =>
        if d == quote then (readQuoted quote escapes more).map fun r => (quote :: r.1, r.2)
        else some ([], rest)
      | [] => some ([], [])
    else if escapes && c == '\\' then
      match rest with
      | [] => none
      | d :: more =>
        let meaning :=
          if d == '0' then Char.ofNat 0 else if d == 'a' then Char.ofNat 7
          else if d == 'b' then Char.ofNat 8 else if d == 'f' then Char.ofNat 12
          else if d == 'n' then '\n' else if d == 'r' then '\r' else if d == 't' then '\t'
          else if d == 'Z' then Char.ofNat 26 else d
        (readQuoted quote escapes more).map fun r => (meaning :: r.1, r.2)
    else (readQuoted quote escapes rest).map fun r => (c :: r.1, r.2)

/-- The character of a code point, unless it is zero or none. -/
def nonZeroChar? (code : Nat) : Option Char :=
  if code == 0 || (0xD800 ≤ code && code ≤ 0xDFFF) || code ≥ 0x110000 then none
  else some (Char.ofNat code)

/-- The number of exactly `count` hexadecimal digits. -/
def readHex (count : Nat) (cs : List Char) : Option (Nat × List Char) := do
  if cs.length < count then none
  let digits ← (cs.take count).mapM Text.hexDigit?
  some (digits.foldl (fun value digit => value * 16 + digit) 0, cs.drop count)

/-- The character of a byte, if it is one of ASCII. -/
def asciiByte? (value : Nat) : Option Char :=
  let byte := value % 256
  if byte ≤ 127 then nonZeroChar? byte else none

/-- The character of an escape in an escaped text, given what follows the backslash. -/
def readEscape : List Char → Option (Char × List Char)
  | [] => none
  | c :: rest =>
    if c == 'b' then some (Char.ofNat 8, rest)
    else if c == 'f' then some (Char.ofNat 12, rest)
    else if c == 'n' then some ('\n', rest)
    else if c == 'r' then some ('\r', rest)
    else if c == 't' then some ('\t', rest)
    else if c == 'u' then do
      let (code, rest) ← readHex 4 rest
      some (← nonZeroChar? code, rest)
    else if c == 'U' then do
      let (code, rest) ← readHex 8 rest
      some (← nonZeroChar? code, rest)
    else if c == 'x' then
      let digits := (rest.take 2).takeWhile fun d => (Text.hexDigit? d).isSome
      if digits.isEmpty then some ('x', rest)
      else do
        let value := digits.foldl (fun value d => value * 16 + (Text.hexDigit? d).getD 0) 0
        some (← asciiByte? value, rest.drop digits.length)
    else if '0' ≤ c && c ≤ '7' then do
      let digits := c :: (rest.take 2).takeWhile fun d => '0' ≤ d && d ≤ '7'
      let value := digits.foldl (fun value d => value * 8 + (Text.hexDigit? d).getD 0) 0
      some (← asciiByte? value, rest.drop (digits.length - 1))
    else if c.toNat == 0 then none
    else some (c, rest)

/-- The rest of a text with backslash escapes. -/
def readEscaped : Nat → List Char → Option (List Char × List Char)
  | 0, _ => none
  | _ + 1, [] => none
  | fuel + 1, '\'' :: '\'' :: rest => (readEscaped fuel rest).map fun r => ('\'' :: r.1, r.2)
  | _ + 1, '\'' :: rest => some ([], rest)
  | fuel + 1, '\\' :: rest => do
    let (c, rest) ← readEscape rest
    let (text, rest) ← readEscaped fuel rest
    some (c :: text, rest)
  | fuel + 1, c :: rest => (readEscaped fuel rest).map fun r => (c :: r.1, r.2)

/-- The rest of a text with escapes that name code points. -/
def readUnicode : Nat → List Char → Option (List Char × List Char)
  | 0, _ => none
  | _ + 1, [] => none
  | fuel + 1, '\'' :: '\'' :: rest => (readUnicode fuel rest).map fun r => ('\'' :: r.1, r.2)
  | _ + 1, '\'' :: rest => some ([], rest)
  | fuel + 1, '\\' :: '\\' :: rest => (readUnicode fuel rest).map fun r => ('\\' :: r.1, r.2)
  | fuel + 1, '\\' :: '+' :: rest => do
    let (code, rest) ← readHex 6 rest
    let (text, rest) ← readUnicode fuel rest
    some (Char.ofNat code :: text, rest)
  | fuel + 1, '\\' :: rest => do
    let (code, rest) ← readHex 4 rest
    let (text, rest) ← readUnicode fuel rest
    some (Char.ofNat code :: text, rest)
  | fuel + 1, c :: rest => (readUnicode fuel rest).map fun r => (c :: r.1, r.2)

/-- The body of a text up to the delimiter that opened it. -/
def readUpTo (delimiter : List Char) : List Char → Option (List Char × List Char)
  | [] => none
  | c :: rest =>
    match Text.dropLead? delimiter (c :: rest) with
    | some after => some ([], after)
    | none => (readUpTo delimiter rest).map fun r => (c :: r.1, r.2)

/-- What follows a block comment whose opening was just read; comments nest. -/
def skipBlock (depth : Nat) (last : Char) : List Char → Option (List Char)
  | [] => none
  | c :: rest =>
    if last == '/' && c == '*' then skipBlock (depth + 1) c rest
    else if last == '*' && c == '/' then
      if depth ≤ 1 then some rest else skipBlock (depth - 1) c rest
    else skipBlock depth c rest

/-- The number at the start of a text that starts with a digit or a point. -/
def readNumber (cs : List Char) : Token × List Char :=
  let whole := cs.takeWhile Text.isAsciiDigit
  let rest := cs.dropWhile Text.isAsciiDigit
  match whole, rest with
  | ['0'], 'x' :: more =>
    let isHex (c : Char) : Bool := (Text.hexDigit? c).isSome
    (.text .hex (String.ofList (more.takeWhile isHex)), more.dropWhile isHex)
  | _, _ =>
    let (mantissa, rest) := match rest with
      | '.' :: more =>
        (whole ++ '.' :: more.takeWhile Text.isAsciiDigit, more.dropWhile Text.isAsciiDigit)
      | _ => (whole, rest)
    if mantissa == ['.'] then (.symbol ".", rest)
    else
      let exponent := match rest with
        | e :: more =>
          if e == 'e' || e == 'E' then
            let (sign, digits) := match more with
              | '+' :: digits => (['+'], digits)
              | '-' :: digits => (['-'], digits)
              | digits => ([], digits)
            let taken := digits.takeWhile Text.isAsciiDigit
            if taken.isEmpty then [] else e :: sign ++ taken
          else []
        | [] => []
      let rest := rest.drop exponent.length
      match rest with
      | 'L' :: more => (.number (String.ofList (mantissa ++ exponent)) true, more)
      | _ => (.number (String.ofList (mantissa ++ exponent)) false, rest)

/-- The token that starts with a dollar sign: a text between tags, or a placeholder. -/
def readDollar (cs : List Char) : Option (Token × List Char) :=
  let isTag (c : Char) : Bool := Text.isAlphanumeric c || c == '_'
  let tag := cs.takeWhile isTag
  match cs.dropWhile isTag with
  | '$' :: body =>
    (readUpTo ('$' :: tag ++ ['$']) body).map fun r =>
      (.text (.dollar (String.ofList tag)) (String.ofList r.1), r.2)
  | rest => some (.placeholder (String.ofList ('$' :: tag)), rest)

/-- An operator, extended by the characters that make it one of the user's own. -/
def extendOperator (dialect : Dialect) (operator : List Char) (rest : List Char) :
    Token × List Char :=
  (.symbol (String.ofList (operator ++ rest.takeWhile dialect.isOperatorPart)),
    rest.dropWhile dialect.isOperatorPart)

/-- The operators that may be extended, longest first. -/
def extensibleOperators : List String :=
  ["<=>", "->>", "#>>", "||/", "~~*", "<=", "<>", "<<", "<@", ">=", ">>", "->", "||", "|/", "&&",
    "~*", "~~", "#-", "#>", "<", ">", "-", "|", "&", "~", "#", "%"]

/-- The marks and operators that stand as they are, longest first. -/
def fixedOperators : List String :=
  ["!~~*", "!~*", "!~~", "!~", "!=", "!!", "=>", "==", "::", ":=", "^@", "@>", "@?", "@@", "(", ")",
    ",", "+", "*", "/", "=", "!", ":", ";", "\\", "[", "]", "^", "\x7b", "\x7d", "@"]

/-- The first of the given spellings that a text starts with, and what follows it. -/
def firstSpelling (spellings : List String) (cs : List Char) : Option (List Char × List Char) :=
  spellings.findSome? fun spelling =>
    (Text.dropLead? spelling.toList cs).map fun rest => (spelling.toList, rest)

/-- The unquoted word at the start of a text. -/
def readWord (dialect : Dialect) (cs : List Char) : Token × List Char :=
  let word := cs.take 1 ++ (cs.drop 1).takeWhile dialect.isNamePart
  (.word (String.ofList word) none, (cs.drop 1).dropWhile dialect.isNamePart)

/-- The token of a question mark, which is an operator in one dialect and a placeholder in the
other; the single operator takes the next character with it. -/
def readQuestion (dialect : Dialect) (rest : List Char) : Token × List Char :=
  match dialect with
  | .postgres =>
    match rest with
    | '|' :: more => (.symbol "?|", more)
    | '&' :: more => (.symbol "?&", more)
    | more => (.symbol "?", more.drop 1)
  | .generic =>
    (.placeholder (String.ofList ('?' :: rest.takeWhile Text.isNumeric)),
      rest.dropWhile Text.isNumeric)

/-- A text in the given form, if it ends. -/
def textToken (form : TextForm) (read : Option (List Char × List Char)) :
    Option (Token × List Char) :=
  read.map fun r => (.text form (String.ofList r.1), r.2)

/-- The name that starts with a mark, in a dialect that starts names with it. -/
def readMarkedWord (dialect : Dialect) (mark : List Char) (rest : List Char) :
    Token × List Char :=
  let body := rest.take 1 ++ (rest.drop 1).takeWhile dialect.isNamePart
  (.word (String.ofList (mark ++ body)) none, (rest.drop 1).dropWhile dialect.isNamePart)

/-- The character after a mark makes it the start of a name, in a dialect that has such names. -/
def startsMarkedWord (dialect : Dialect) (rest : List Char) : Bool :=
  dialect == .generic &&
    match rest with
    | [] => false
    | c :: _ => !(" '\"\x60".toList.contains c)

/-- The token of a mark or an operator. -/
def readSymbol (dialect : Dialect) (cs : List Char) : Token × List Char :=
  match firstSpelling extensibleOperators cs with
  | some (['%'], rest) =>
    if (rest.head?.map Text.isBlank).getD false then (.symbol "%", rest)
    else extendOperator dialect ['%'] rest
  | some (['#'], rest) =>
    if rest.head? == some ' ' then (.symbol "#", rest)
    else if dialect == .generic && !rest.isEmpty then readMarkedWord dialect ['#'] rest
    else extendOperator dialect ['#'] rest
  | some (operator, rest) => extendOperator dialect operator rest
  | none =>
    match firstSpelling fixedOperators cs with
    | some (['/'], '/' :: more) =>
      if dialect == .generic then (.symbol "//", more) else (.symbol "/", '/' :: more)
    | some (['@'], rest) =>
      if startsMarkedWord dialect rest then readMarkedWord dialect ['@'] rest
      else (.symbol "@", rest)
    | some (['@', '@'], rest) =>
      if dialect == .generic && !rest.isEmpty && rest.head? != some ' ' then
        readMarkedWord dialect ['@', '@'] rest
      else (.symbol "@@", rest)
    | some (operator, rest) => (.symbol (String.ofList operator), rest)
    | none => (.symbol (String.ofList (cs.take 1)), cs.drop 1)

/-- The token at the start of a text that is neither blank nor a comment. -/
def readToken (dialect : Dialect) (cs : List Char) : Option (Token × List Char) :=
  match cs with
  | [] => none
  | c :: rest =>
    match c, rest with
    | 'b', '\'' :: more => textToken .bits (readQuoted '\'' false more)
    | 'B', '\'' :: more => textToken .bits (readQuoted '\'' false more)
    | 'b', '"' :: more => textToken .bitsDoubleQuoted (readQuoted '"' false more)
    | 'B', '"' :: more => textToken .bitsDoubleQuoted (readQuoted '"' false more)
    | 'n', '\'' :: more => textToken .national (readQuoted '\'' false more)
    | 'N', '\'' :: more => textToken .national (readQuoted '\'' false more)
    | 'e', '\'' :: more => textToken .escaped (readEscaped (more.length + 1) more)
    | 'E', '\'' :: more => textToken .escaped (readEscaped (more.length + 1) more)
    | 'u', '&' :: '\'' :: more => textToken .unicode (readUnicode (more.length + 1) more)
    | 'U', '&' :: '\'' :: more => textToken .unicode (readUnicode (more.length + 1) more)
    | 'x', '\'' :: more => textToken .hex (readQuoted '\'' true more)
    | 'X', '\'' :: more => textToken .hex (readQuoted '\'' true more)
    | '\'', _ => textToken .plain (readQuoted '\'' false rest)
    | '?', _ => some (readQuestion dialect rest)
    | '$', _ => readDollar rest
    | _, _ =>
      if dialect == .generic && (c == 'r' || c == 'R') && rest.head? == some '\'' then
        textToken .raw (readQuoted '\'' false (rest.drop 1))
      else if dialect == .generic && (c == 'r' || c == 'R') && rest.head? == some '"' then
        textToken .rawDoubleQuoted (readQuoted '"' false (rest.drop 1))
      else if dialect.isNameQuote c then
        (readQuoted c false rest).map fun r => (.word (String.ofList r.1) (some c), r.2)
      else if Text.isAsciiDigit c || c == '.' then some (readNumber cs)
      else if Text.isAlphabetic c || c == '_' then some (readWord dialect cs)
      else some (readSymbol dialect cs)

/-- The tokens of a text; `fuel` bounds the number of steps. -/
def readTokens (dialect : Dialect) : Nat → List Char → Option (List Token)
  | 0, _ => some []
  | fuel + 1, cs =>
    match cs with
    | [] => some []
    | '-' :: '-' :: rest => readTokens dialect fuel (rest.dropWhile (· != '\n'))
    | '/' :: '*' :: rest => do
      let rest ← skipBlock 1 ' ' rest
      readTokens dialect fuel rest
    | c :: rest =>
      if Text.isBlank c then readTokens dialect fuel rest
      else do
        let (token, rest) ← readToken dialect (c :: rest)
        (readTokens dialect fuel rest).map (token :: ·)

end SchemaDrift.Sql.Lexer

namespace SchemaDrift.Sql

/-- The tokens of a text, unless a quoted part or a comment in it does not end. -/
def tokenize (dialect : Dialect) (text : List Char) : Option (List Token) :=
  Lexer.readTokens dialect (text.length + 1) text

end SchemaDrift.Sql
