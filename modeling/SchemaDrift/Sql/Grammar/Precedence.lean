import SchemaDrift.Sql.Grammar.Basic
import SchemaDrift.Sql.Lexer

namespace SchemaDrift.Sql

inductive Rank where
  | disjunction
  | conjunction
  | negation
  | identity
  | equality
  | range
  | pattern
  | special
  | pipe
  | ampersand
  | caret
  | exclusion
  | sum
  | product
  | timeZone
  | collation
  | bracket
  | cast
  deriving DecidableEq

end SchemaDrift.Sql

namespace SchemaDrift.Dialect

open Sql

/-- The strength of a rank; an operator takes the operand for which two of them compete if it is
the stronger. -/
def strength (dialect : Dialect) (rank : Rank) : Nat :=
  match dialect with
  | postgres =>
    match rank with
    | .disjunction => 10
    | .conjunction => 20
    | .negation => 30
    | .identity => 40
    | .equality => 50
    | .range | .pattern => 60
    | .special | .pipe | .ampersand => 70
    | .exclusion => 75
    | .sum => 80
    | .product => 90
    | .caret => 100
    | .timeZone => 110
    | .collation => 120
    | .bracket => 130
    | .cast => 140
  | generic =>
    match rank with
    | .disjunction => 5
    | .conjunction => 10
    | .negation => 15
    | .special => 16
    | .identity => 17
    | .pattern => 19
    | .equality | .range => 20
    | .pipe => 21
    | .caret => 22
    | .ampersand => 23
    | .exclusion => 24
    | .sum => 30
    | .product => 40
    | .timeZone => 41
    | .collation => 42
    | .bracket | .cast => 50

end SchemaDrift.Dialect

namespace SchemaDrift.Sql

/-- The marks that the lexer knows. -/
def knownMarks : List String :=
  Lexer.extensibleOperators ++ Lexer.fixedOperators ++ ["//", "?|", "?&"]

/-- A mark is an operator of the user's own: a known one with more characters. -/
def isCustomOperator (mark : String) : Bool := mark.length ≥ 2 && !knownMarks.contains mark

/-- The marks that compare two values. -/
def comparisonMarks : List String :=
  ["=", "<", "<=", "<>", "!=", ">", ">=", "==", "~", "~*", "!~", "!~*", "~~", "~~*", "!~~", "!~~*",
    "<=>"]

/-- The marks that look into a structured value. -/
def accessMarks : List String :=
  ["->", "->>", "#>", "#>>", "@>", "<@", "#-", "@?", "@@", "?", "?&", "?|"]

/-- The rank of a mark that stands between two expressions. -/
def markRank? (dialect : Dialect) (mark : String) : Option Rank :=
  if comparisonMarks.contains mark then some .equality
  else if accessMarks.contains mark || isCustomOperator mark then some .special
  else if mark == "|" then some .pipe
  else if mark == "&" then some .ampersand
  else if mark == "^" then some .caret
  else if ["#", ">>", "<<"].contains mark then
    some (if dialect == .postgres then .special else .caret)
  else if mark == "+" || mark == "-" then some .sum
  else if ["*", "/", "//", "%"].contains mark then some .product
  else if mark == "||" then some (if dialect == .postgres then .special else .product)
  else if mark == "[" then some .bracket
  else if ["!", "&&", "^@"].contains mark then
    some (if dialect == .postgres then .special else .cast)
  else if mark == "::" then some .cast
  else none

/-- The words that test a value against a range, a list or a pattern, with their ranks. -/
def testRank? (token : Token) : Option Rank :=
  if ["IN", "BETWEEN"].any token.isKeyword then some .range
  else if ["LIKE", "ILIKE", "RLIKE", "REGEXP", "SIMILAR"].any token.isKeyword then some .pattern
  else none

def operatorRank? (dialect : Dialect) (tokens : List Token) : Option Rank :=
  match tokens with
  | [] => none
  | .symbol mark :: _ => markRank? dialect mark
  | token :: rest =>
    if token.isKeyword "OR" then some .disjunction
    else if token.isKeyword "AND" then some .conjunction
    else if token.isKeyword "XOR" then some .exclusion
    else if token.isKeyword "IS" then some .identity
    else if token.isKeyword "OPERATOR" then some .range
    else if token.isKeyword "DIV" then some .product
    else if token.isKeyword "COLLATE" && dialect == .postgres then some .collation
    else if token.isKeyword "AT" then
      if (Grammar.afterKeywords ["TIME", "ZONE"] rest).isSome then some .timeZone else none
    else if token.isKeyword "NOT" then rest.head?.bind testRank?
    else testRank? token

/-- The strength of the operator that the tokens start with; zero where there is none. -/
def operatorStrength (dialect : Dialect) (tokens : List Token) : Nat :=
  match operatorRank? dialect tokens with
  | some rank => dialect.strength rank
  | none => 0

end SchemaDrift.Sql
