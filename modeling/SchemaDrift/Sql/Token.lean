import SchemaDrift.Settings.Basic

namespace SchemaDrift.Sql

/-- The ways to write a text inside a statement. -/
inductive TextForm where
  | plain
  | dollar (tag : String)
  | escaped
  | national
  | unicode
  | bits
  | bitsDoubleQuoted
  | raw
  | rawDoubleQuoted
  | hex
  deriving DecidableEq, Inhabited

/-- A token; blanks and comments are none. A word keeps the quote that it was written in. -/
inductive Token where
  | word (text : String) (quote : Option Char)
  | number (text : String) (long : Bool)
  | text (form : TextForm) (value : String)
  | placeholder (text : String)
  | symbol (text : String)
  deriving DecidableEq, Inhabited

/-- The token is an unquoted word that spells a keyword in any case. -/
def Token.isKeyword (keyword : String) : Token → Bool
  | .word spelling none => Text.upperString spelling == keyword
  | _ => false

/-- The token is a mark of punctuation or an operator. -/
def Token.isSymbol (mark : String) : Token → Bool
  | .symbol spelling => spelling == mark
  | _ => false

end SchemaDrift.Sql

namespace SchemaDrift.Dialect

/-- The characters that an unquoted name goes on with. -/
def isNamePart (dialect : Dialect) (c : Char) : Bool :=
  Text.isAlphabetic c || Text.isAsciiDigit c || c == '$' || c == '_' ||
    match dialect with
    | postgres => false
    | generic => c == '#' || c == '@'

/-- The characters that a quoted name is written between. -/
def isNameQuote (dialect : Dialect) (c : Char) : Bool :=
  c == '"' || (dialect == generic && c == '\x60')

/-- The characters that extend an operator to one of the user's own. -/
def isOperatorPart (dialect : Dialect) (c : Char) : Bool :=
  match dialect with
  | postgres => "+-*/<>=~!@#%^&|?".toList.contains c || c == '\x60'
  | generic => false

end SchemaDrift.Dialect
