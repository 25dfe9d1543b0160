import SchemaDrift.Sql.Grammar.DataType
import SchemaDrift.Sql.Grammar.Precedence

/-
This file reads expressions. The readers of nested expressions and queries are parameters, so that
the depth of nesting is bounded in one place.
-/

namespace SchemaDrift.Sql.Grammar

/-- The readers that one level of nesting may use for what is nested in it. -/
structure Level where
  dialect : Dialect
  subexpr : Nat → Reading Expr
  query : Reading Query

namespace Level

def expr (level : Level) : Reading Expr := level.subexpr 0

/-- The canonical text of an expression. -/
def exprText (level : Level) : Reading String := Expr.render <$> level.expr

/-- An operand that stops before operators of a rank and weaker ones. -/
def operand (level : Level) (rank : Rank) : Reading Expr :=
  level.subexpr (level.dialect.strength rank)

end Level

/-- The reader stands before a query in parentheses whose opening was taken. -/
def seesQuery : Reading Bool := do
  pure ((← seesKeyword "SELECT") || (← seesKeyword "WITH"))

/-- A constant. A mark before a name makes a placeholder. -/
def constant : Reading Expr := do
  match ← next with
  | .number text long => pure (.number text long)
  | .text form value => pure (.text form value)
  | .placeholder text => pure (.placeholder text)
  | .word text none =>
    match Text.upperString text with
    | "TRUE" => pure (.boolean true)
    | "FALSE" => pure (.boolean false)
    | "NULL" => pure .null
    | _ => fail
  | .symbol mark =>
    if mark == ":" || mark == "@" then
      match ← next with
      | .word text _ => pure (.placeholder (mark ++ text))
      | .number text false => pure (.placeholder (mark ++ text))
      | _ => fail
    else fail
  | _ => fail

/-- The direction of an ordering and the place of nulls in it. -/
def orderText : Reading String := do
  let direction ← oneOf? ["ASC", "DESC"]
  let nulls ← if ← keywords? ["NULLS", "FIRST"] then pure " NULLS FIRST"
    else wordIf (keywords? ["NULLS", "LAST"]) " NULLS LAST"
  pure ((direction.map (" " ++ ·)).getD "" ++ nulls)

/-- The text of an expression to order by. -/
def orderItem (level : Level) : Reading String := do
  let expr ← level.exprText
  pure (expr ++ (← orderText))

/-- The text of the expressions to order by. -/
def orderItems (level : Level) : Reading String := do
  pure (commaSeparated (← commaList (orderItem level)))

def timeField : Reading String := do
  match ← next with
  | .word text quote =>
    let word := Text.upperString text
    if quote.isNone && Keyword.timeFields.contains word then pure word
    else pure (Name.mk text quote).render
  | .text .plain value => pure (quoteText '\'' value)
  | _ => fail

/-- The unit behind the text of an interval, with its precision. -/
def intervalUnit : Reading String := do
  let seesUnit ← looksAt 0 fun token => Keyword.timeUnits.any token.isKeyword
  if !seesUnit then pure ""
  else
    let lead ← timeField
    if lead == "SECOND" then
      if ← symbol? "(" then
        let digits ← wholeNumber
        let fraction ← if ← symbol? "," then (fun n => ", " ++ toString n) <$> wholeNumber
          else pure ""
        expectSymbol ")"
        pure (" SECOND (" ++ toString digits ++ fraction ++ ")")
      else pure " SECOND"
    else
      let digits ← precision?
      let start := " " ++ lead ++ (if digits.isEmpty then "" else " " ++ digits)
      if ← keyword? "TO" then
        let last ← timeField
        let fraction ← if last == "SECOND" then precision? else pure ""
        pure (start ++ " TO " ++ last ++ (if fraction.isEmpty then "" else " " ++ fraction))
      else pure start

/-- An interval behind its first word; `leading` reads the amount. -/
def interval (leading : Reading Expr) : Reading Expr := do
  let amount ← leading
  pure (.phrase ("INTERVAL " ++ amount.render ++ (← intervalUnit)))

/-- A choice behind its first word. -/
def choice (level : Level) : Reading Expr := do
  let operand ← if ← keyword? "WHEN" then pure none
    else do
      let operand ← level.expr
      expectKeyword "WHEN"
      pure (some operand)
  let branch : Reading (Expr × Expr) := do
    let condition ← level.expr
    expectKeyword "THEN"
    pure (condition, ← level.expr)
  let first ← branch
  let others ← many (afterKeyword? "WHEN" branch)
  let otherwise ← afterKeyword? "ELSE" level.expr
  expectKeyword "END"
  let branches := first :: others
  pure (.choice operand (branches.map Prod.fst) (branches.map Prod.snd) otherwise)

/-- A cast behind its first word. -/
def cast (level : Level) (form : CastForm) : Reading Expr := inParentheses do
  let operand ← level.expr
  expectKeyword "AS"
  pure (.cast form operand (← dataType))

/-- A conversion behind its first word. -/
def conversion (level : Level) : Reading Expr := inParentheses do
  let operand ← level.exprText
  if ← keyword? "USING" then
    pure (.phrase ("CONVERT(" ++ operand ++ " USING " ++ (← qualifiedName).render ++ ")"))
  else
    expectSymbol ","
    pure (.phrase ("CONVERT(" ++ operand ++ ", " ++ (← dataType) ++ ")"))

/-- A test for rows behind its word. -/
def existence (level : Level) (negated : Bool) : Reading Expr := inParentheses do
  pure (.exists negated (← level.query))

/-- A field taken out of a time, behind the first word. -/
def extraction (level : Level) : Reading Expr := inParentheses do
  let field ← timeField
  if ← keyword? "FROM" then
    pure (.phrase ("EXTRACT(" ++ field ++ " FROM " ++ (← level.exprText) ++ ")"))
  else
    expectSymbol ","
    if level.dialect == .generic then
      pure (.phrase ("EXTRACT(" ++ field ++ ", " ++ (← level.exprText) ++ ")"))
    else fail

/-- A rounding behind its first word. -/
def rounding (level : Level) (word : String) : Reading Expr := inParentheses do
  let operand ← level.exprText
  if ← keyword? "TO" then
    pure (.phrase (word ++ "(" ++ operand ++ " TO " ++ (← timeField) ++ ")"))
  else if ← symbol? "," then
    match ← constant with
    | .number text long =>
      pure (.phrase (word ++ "(" ++ operand ++ ", " ++ (Expr.number text long).render ++ ")"))
    | _ => fail
  else pure (.phrase (word ++ "(" ++ operand ++ ")"))

/-- The position of a text in another, behind the first word. -/
def position (level : Level) : Reading Expr := inParentheses do
  let part ← level.operand .range
  expectKeyword "IN"
  pure (.phrase ("POSITION(" ++ part.render ++ " IN " ++ (← level.exprText) ++ ")"))

/-- A part of a text, behind the first word. -/
def substring (level : Level) : Reading Expr := inParentheses do
  let operand ← level.exprText
  let special ← symbol? ","
  let start ← if special || (← keyword? "FROM") then some <$> level.exprText else pure none
  let length ← if (← keyword? "FOR") || (← symbol? ",") then some <$> level.exprText else pure none
  let before (text : Option String) (word : String) : String :=
    match text with
    | none => ""
    | some text => (if special then ", " else " " ++ word ++ " ") ++ text
  pure (.phrase ("SUBSTRING(" ++ operand ++ before start "FROM" ++ before length "FOR" ++ ")"))

/-- A text laid over another, behind the first word. -/
def overlay (level : Level) : Reading Expr := inParentheses do
  let operand ← level.exprText
  expectKeyword "PLACING"
  let part ← level.exprText
  expectKeyword "FROM"
  let start ← level.exprText
  let length ← afterKeyword? "FOR" level.exprText
  pure (.phrase ("OVERLAY(" ++ operand ++ " PLACING " ++ part ++ " FROM " ++ start ++
    (length.map (" FOR " ++ ·)).getD "" ++ ")"))

/-- A trimmed text, behind the first word. -/
def trimming (level : Level) : Reading Expr := inParentheses do
  let side ← oneOf? ["BOTH", "LEADING", "TRAILING"]
  let start := "TRIM(" ++ (side.map (· ++ " ")).getD ""
  let first ← level.exprText
  if ← keyword? "FROM" then
    pure (.phrase (start ++ first ++ " FROM " ++ (← level.exprText) ++ ")"))
  else if level.dialect == .generic && (← seesSymbol ",") then
    expectSymbol ","
    let characters ← commaList level.exprText
    pure (.phrase (start ++ first ++ ", " ++ commaSeparated characters ++ ")"))
  else pure (.phrase (start ++ first ++ ")"))

/-- The elements of an array up to the closing bracket. -/
def arrayElements (level : Level) (word : String) : Reading Expr := do
  if ← symbol? "]" then pure (.phrase (word ++ "[]"))
  else
    let elements ← commaList level.exprText
    expectSymbol "]"
    pure (.phrase (word ++ "[" ++ commaSeparated elements ++ "]"))

/-- The parts of a name behind a point, up to a star or the end of the name; the flag says that a
star ends it. -/
def pointedParts : Nat → Reading (List Name × Bool)
  | 0 => fail
  | fuel + 1 => do
    if ← symbol? "." then
      if ← symbol? "*" then pure ([], true)
      else
        let part ← name
        let (parts, star) ← pointedParts fuel
        pure (part :: parts, star)
    else pure ([], false)

/-- The text of all the columns of a relation. -/
def starText (parts : List Name) : String := QualifiedName.render parts ++ ".*"

/-- A star, a star behind the name of a relation, or an expression. -/
def starOrExpr (level : Level) : Reading (String ⊕ Expr) := do
  let tokens ← get
  match tokens with
  | .symbol "*" :: rest => set rest; pure (.inl "*")
  | first :: .symbol "." :: _ =>
    let isName := match first with
      | .word _ _ | .text .plain _ => true
      | _ => false
    if isName then
      let head ← name
      let (parts, star) ← pointedParts (tokens.length + 1)
      if star then pure (.inl (starText (head :: parts)))
      else
        set tokens
        .inr <$> level.expr
    else .inr <$> level.expr
  | _ => .inr <$> level.expr

/-- An argument of a function call. -/
def argument (level : Level) : Reading Argument := do
  let named : Reading Argument := do
    let label ← name
    let operator ← if ← symbol? "=>" then pure "=>" else do expectSymbol ":="; pure ":="
    match ← starOrExpr level with
    | .inl star => pure (.wildcard (label.render ++ " " ++ operator ++ " " ++ star))
    | .inr expr => pure (.named label operator expr)
  match ← attempt named with
  | some argument => pure argument
  | none =>
    match ← starOrExpr level with
    | .inl star => pure (.wildcard star)
    | .inr expr => pure (.value expr)

/-- How nulls are treated by a function over rows. -/
def nullTreatment? : Reading String := do
  match ← oneOf? ["RESPECT", "IGNORE"] with
  | some word => do expectKeyword "NULLS"; pure (word ++ " NULLS")
  | none => pure ""

/-- The arguments of a function behind the opening parenthesis, with the closing one. -/
def argumentList (level : Level) : Reading Arguments := do
  if ← symbol? ")" then pure (.list "" [] "")
  else
    let lead ← oneOf? ["ALL", "DISTINCT"]
    let items ← commaList (argument level)
    let nulls ← if level.dialect == .generic then nullTreatment? else pure ""
    let order ← if ← keywords? ["ORDER", "BY"] then ("ORDER BY " ++ ·) <$> orderItems level
      else pure ""
    let limit ← afterKeyword? "LIMIT" level.exprText
    expectSymbol ")"
    let clauses := [nulls, order, (limit.map ("LIMIT " ++ ·)).getD ""].filter (!·.isEmpty)
    pure (.list ((lead.map (· ++ " ")).getD "") items (Text.joinStrings " " clauses))

/-- A bound of the rows that a window spans. -/
def frameBound (level : Level) (leading : Reading Expr) : Reading String := do
  if ← keywords? ["CURRENT", "ROW"] then pure "CURRENT ROW"
  else
    let distance ← if ← keyword? "UNBOUNDED" then pure "UNBOUNDED"
      else if ← looksAt 0 (fun token => match token with
        | .text .plain _ => true
        | _ => false) then Expr.render <$> interval leading
      else level.exprText
    pure (distance ++ " " ++ (← expectOneOf ["PRECEDING", "FOLLOWING"]))

/-- The rows that a window spans. -/
def frame (level : Level) (leading : Reading Expr) : Reading String := do
  let unit ← expectOneOf ["ROWS", "RANGE", "GROUPS"]
  if ← keyword? "BETWEEN" then
    let first ← frameBound level leading
    expectKeyword "AND"
    pure (unit ++ " BETWEEN " ++ first ++ " AND " ++ (← frameBound level leading))
  else pure (unit ++ " " ++ (← frameBound level leading))

/-- A window behind the opening parenthesis, with the closing one. -/
def window (level : Level) (leading : Reading Expr) : Reading String := do
  let isPlain ← looksAt 0 fun token => match token with
    | .word text none => !Keyword.known.contains (Text.upperString text)
    | .word _ (some _) => true
    | _ => false
  let base ← if isPlain then Name.render <$> name else pure ""
  let groups ← if ← keywords? ["PARTITION", "BY"] then
      (fun texts => "PARTITION BY " ++ commaSeparated texts) <$> commaList level.exprText
    else pure ""
  let order ← if ← keywords? ["ORDER", "BY"] then ("ORDER BY " ++ ·) <$> orderItems level
    else pure ""
  let rows ← if ← symbol? ")" then pure ""
    else do
      let rows ← frame level leading
      expectSymbol ")"
      pure rows
  pure (Text.joinStrings " " ([base, groups, order, rows].filter (!·.isEmpty)))

/-- What may follow the arguments of a function: an order, a filter, and a window. -/
def callTail (level : Level) (leading : Reading Expr) (hasNulls : Bool) : Reading String := do
  let within ← if ← keywords? ["WITHIN", "GROUP"] then inParentheses do
      expectKeywords ["ORDER", "BY"]
      pure (" WITHIN GROUP (ORDER BY " ++ (← orderItems level) ++ ")")
    else pure ""
  let filter ← if ← keyword? "FILTER" then
      if ← symbol? "(" then
        if ← keyword? "WHERE" then do
          let condition ← level.exprText
          expectSymbol ")"
          pure (" FILTER (WHERE " ++ condition ++ ")")
        else pure ""
      else pure ""
    else pure ""
  let nulls ← if hasNulls then pure "" else nullTreatment?
  let overText ← if ← keyword? "OVER" then
      if ← symbol? "(" then (fun text => " OVER (" ++ text ++ ")") <$> window level leading
      else (fun label => " OVER " ++ label.render) <$> name
    else pure ""
  pure (within ++ filter ++ (if nulls.isEmpty then "" else " " ++ nulls) ++ overText)

/-- A call of a function, from the opening parenthesis on. -/
def call (level : Level) (leading : Reading Expr) (label : QualifiedName) : Reading Expr := do
  expectSymbol "("
  let arguments ← argumentList level
  let hasNulls := match arguments with
    | .list _ _ clauses => Text.containsPart "NULLS".toList clauses.toList
    | _ => false
  pure (.call label arguments (← callTail level leading hasNulls))

/-- An expression that starts with a name: a call, a column, or all columns of a relation. -/
def namedExpr (level : Level) (leading : Reading Expr) (head : Name) : Reading Expr := do
  match ← get with
  | .symbol "(" :: _ => call level leading [head]
  | .symbol "." :: _ =>
    let (parts, star) ← pointedParts ((← get).length + 1)
    if star then
      if level.dialect == .postgres then pure (.phrase (starText (head :: parts))) else fail
    else if ← seesSymbol "(" then call level leading (head :: parts)
    else pure (.column (head :: parts))
  | .text .plain value :: rest =>
    if head.text.startsWith "_" then do
      set rest
      pure (.phrase (head.text ++ " " ++ quoteText '\'' value))
    else pure (.column [head])
  | .text .hex value :: rest =>
    if head.text.startsWith "_" then do
      set rest
      pure (.phrase (head.text ++ " " ++ TextForm.hex.render value))
    else pure (.column [head])
  | _ => pure (.column [head])

/-- The functions that are called without arguments. -/
def bareFunctions : List String := ["CURRENT_CATALOG", "CURRENT_USER", "SESSION_USER", "USER"]

/-- The functions of the current time, which may have arguments. -/
def clockFunctions : List String :=
  ["CURRENT_TIMESTAMP", "CURRENT_TIME", "CURRENT_DATE", "LOCALTIME", "LOCALTIMESTAMP"]

/-- An expression that a word with a meaning of its own starts; the word was taken. -/
def specialExpr (level : Level) (leading : Reading Expr) (head : Name) : Reading (Option Expr) := do
  let word := if head.quote.isNone then Text.upperString head.text else ""
  if bareFunctions.contains word then pure (some (.call [head] .absent ""))
  else if clockFunctions.contains word then
    let arguments ← if ← symbol? "(" then argumentList level else pure .absent
    pure (some (.call [head] arguments ""))
  else match word with
    | "TRUE" => pure (some (.boolean true))
    | "FALSE" => pure (some (.boolean false))
    | "NULL" => pure (some .null)
    | "CASE" => some <$> choice level
    | "CONVERT" => some <$> conversion level
    | "CAST" => some <$> cast level .plain
    | "TRY_CAST" => some <$> cast level .trying
    | "SAFE_CAST" => some <$> cast level .safe
    | "EXISTS" => some <$> existence level false
    | "EXTRACT" => some <$> extraction level
    | "CEIL" => some <$> rounding level "CEIL"
    | "FLOOR" => some <$> rounding level "FLOOR"
    | "POSITION" =>
      if ← seesSymbol "(" then
        match ← attempt (position level) with
        | some expr => pure (some expr)
        | none => some <$> call level leading [head]
      else pure none
    | "SUBSTRING" => some <$> substring level
    | "OVERLAY" => some <$> overlay level
    | "TRIM" => some <$> trimming level
    | "INTERVAL" => some <$> interval leading
    | "ARRAY" =>
      if ← symbol? "[" then some <$> arrayElements level "ARRAY"
      else if ← symbol? "(" then do
        let query ← level.query
        expectSymbol ")"
        pure (some (.call [head] (.query query) ""))
      else pure none
    | "NOT" =>
      if ← keyword? "EXISTS" then some <$> existence level true
      else some <$> (.unary .negation <$> level.operand .negation)
    | _ => pure none

/-- An expression that a word starts. A word with a meaning of its own is taken for a name where
that meaning does not fit; then the flag says that no collation can follow. -/
def wordExpr (level : Level) (leading : Reading Expr) (head : Name) : Reading (Expr × Bool) :=
  fun tokens =>
    match specialExpr level leading head tokens with
    | .ok (some expr, rest) => .ok ((expr, true), rest)
    | .ok (none, rest) => ((·, true) <$> namedExpr level leading head) rest
    | .error failure =>
      if head.quote.isNone && Keyword.notName.contains (Text.upperString head.text) then
        .error failure
      else match attempt (namedExpr level leading head) tokens with
        | .ok (some expr, rest) => .ok ((expr, false), rest)
        | _ => .error failure

/-- The expressions in parentheses whose opening was taken, with what may follow them. -/
def parenthesised (level : Level) : Reading Expr := do
  let expr ← if ← seesQuery then .subquery <$> level.query
    else do
      match ← commaList level.expr with
      | [inner] => pure (.nested inner)
      | items => pure (.tuple items)
  expectSymbol ")"
  if ← symbol? "." then
    match ← next with
    | .word text quote => pure (.phrase (expr.render ++ "." ++ (Name.mk text quote).render))
    | _ => fail
  else pure expr

/-- A constant with its type in front of it. -/
def typedText (leading : Reading Expr) : Reading Expr := do
  match ← classifiedDataType with
  | (.interval, _) => interval leading
  | (.custom, _) => fail
  | (.standard, type) => pure (.typedText type (← textConstant))

/-- The marks that stand before an operand in one dialect. -/
def leadingMarks : List String := ["!!", "|/", "||/", "@", "~"]

/-- An expression up to its first operator, and whether a collation may follow. -/
def operandExpr (level : Level) (leading : Reading Expr) : Reading (Expr × Bool) := do
  let tokens ← get
  match ← next with
  | .word text quote => wordExpr level leading ⟨text, quote⟩
  | .number text long => pure (.number text long, true)
  | .text form value => pure (.text form value, true)
  | .placeholder text => pure (.placeholder text, true)
  | .symbol mark =>
    if mark == "[" then (·, true) <$> arrayElements level ""
    else if mark == "-" then (fun inner => (.unary .minus inner, true)) <$> level.operand .product
    else if mark == "+" then
      (fun inner => (.unary (.mark "+") inner, true)) <$> level.operand .product
    else if level.dialect == .postgres && leadingMarks.contains mark then
      (fun inner => (.unary (.mark mark) inner, true)) <$> level.operand .sum
    else if mark == "(" then (·, true) <$> parenthesised level
    else do
      set tokens
      (·, true) <$> constant

/-- The start of an expression: a typed constant, or an operand with its collation. -/
def leadingWithin (level : Level) : Nat → Reading Expr
  | 0 => fail
  | fuel + 1 => do
    let leading := leadingWithin level fuel
    match ← attempt (typedText leading) with
    | some expr => pure expr
    | none =>
      let (expr, open?) ← operandExpr level leading
      if open? then
        if ← keyword? "COLLATE" then
          pure (.phrase (expr.render ++ " COLLATE " ++ (← qualifiedName).render))
        else pure expr
      else pure expr

/-- The operator that a mark stands for between two expressions. -/
def markOperator? (dialect : Dialect) (mark : String) : Option Operator :=
  match mark with
  | "=" | "==" => some .equal
  | "<>" | "!=" => some .notEqual
  | "<" => some .less
  | "<=" => some .lessOrEqual
  | ">" => some .greater
  | ">=" => some .greaterOrEqual
  | "!" | "[" | "::" => none
  | "#" => if dialect == .postgres then some (.other "#") else none
  | _ => (markRank? dialect mark).map fun _ => .other mark

/-- The operator that a word stands for between two expressions. -/
def wordOperator? (word : String) : Reading (Option Operator) := do
  match word with
  | "AND" | "OR" | "XOR" => pure (some (.other word))
  | "OPERATOR" =>
    expectSymbol "("
    let part : Reading String := do
      match ← next with
      | .word text quote => pure (Name.mk text quote).render
      | .symbol mark => pure mark
      | .number text _ => pure text
      | _ => fail
    let first ← part
    let others ← many do if ← symbol? "." then some <$> part else pure none
    expectSymbol ")"
    pure (some (.other ("OPERATOR(" ++ Text.joinStrings "." (first :: others) ++ ")")))
  | _ => pure none

def binaryExpr (level : Level) (left : Expr) (operator : Operator) (strength : Nat) :
    Reading Expr := do
  match ← oneOf? ["ANY", "ALL", "SOME"] with
  | none => pure (.binary operator left (← level.subexpr strength))
  | some word =>
    let tokens ← get
    expectSymbol "("
    let right ← if ← seesQuery then do
        set tokens
        level.subexpr strength
      else do
        let right ← level.subexpr strength
        expectSymbol ")"
        pure right
    match operator with
    | .other _ => fail
    | _ =>
      if word == "ALL" then
        pure (.phrase (Expr.anyOf operator "ALL" left right).render)
      else pure (.anyOf operator word left right)

/-- A test behind the word `IS`. -/
def identityTest (level : Level) (left : Expr) : Reading Expr := do
  if ← keyword? "NULL" then pure (.isNull left false)
  else if ← keywords? ["NOT", "NULL"] then pure (.isNull left true)
  else if ← keywords? ["DISTINCT", "FROM"] then
    pure (.phrase (left.render ++ " IS DISTINCT FROM " ++ (← level.exprText)))
  else if ← keywords? ["NOT", "DISTINCT", "FROM"] then
    pure (.phrase (left.render ++ " IS NOT DISTINCT FROM " ++ (← level.exprText)))
  else
    let negation ← wordIf (keyword? "NOT") "NOT "
    let word ← expectOneOf ["TRUE", "FALSE", "UNKNOWN"]
    pure (.phrase (left.render ++ " IS " ++ negation ++ word))

/-- The mark that takes the meaning from the signs of a pattern. -/
def escapeMark? : Reading (Option String) := afterKeyword? "ESCAPE" textConstant

/-- A membership test behind the word `IN`. -/
def membership (level : Level) (left : Expr) (negated : Bool) : Reading Expr := do
  if ← keyword? "UNNEST" then
    let array ← inParentheses level.exprText
    pure (.phrase (left.render ++ " " ++ notWord negated ++ "IN UNNEST(" ++ array ++ ")"))
  else inParentheses do
    if ← seesQuery then pure (.inQuery left negated (← level.query))
    else pure (.inList left negated (← commaList level.expr))

/-- A test against a list, a range or a pattern behind a left operand. -/
def valueTest (level : Level) (left : Expr) : Reading Expr := do
  let negated ← keyword? "NOT"
  let likeWith (words : String) : Reading Expr := do
    let any ← wordIf (keyword? "ANY") " ANY"
    let pattern ← level.operand .pattern
    pure (.like (notWord negated ++ words ++ any) left pattern (← escapeMark?))
  if ← keyword? "IN" then membership level left negated
  else if ← keyword? "BETWEEN" then
    let low ← level.operand .range
    expectKeyword "AND"
    pure (.between left negated low (← level.operand .range))
  else if ← keyword? "LIKE" then likeWith "LIKE"
  else if ← keyword? "ILIKE" then likeWith "ILIKE"
  else if ← keywords? ["SIMILAR", "TO"] then
    let pattern ← level.operand .pattern
    pure (.phrase (Expr.like (notWord negated ++ "SIMILAR TO") left pattern (← escapeMark?)).render)
  else
    let word ← expectOneOf ["REGEXP", "RLIKE"]
    let pattern ← level.operand .pattern
    pure (.phrase (Expr.like (notWord negated ++ word) left pattern none).render)

/-- The index or slice of an array behind the opening bracket. -/
def subscript (level : Level) (left : Expr) : Reading Expr := do
  let finish (text : String) : Reading Expr := pure (.phrase (left.render ++ "[" ++ text ++ "]"))
  let low ← if ← symbol? ":" then pure none else some <$> level.exprText
  if ← symbol? "]" then
    match low with
    | some index => finish index
    | none => finish ":"
  else
    if low.isSome then expectSymbol ":"
    let start := low.getD "" ++ ":"
    if ← symbol? "]" then finish start
    else
      let high ← level.exprText
      if ← symbol? "]" then finish (start ++ high)
      else
        expectSymbol ":"
        if ← symbol? "]" then finish (start ++ high)
        else
          let stride ← level.exprText
          expectSymbol "]"
          finish (start ++ high ++ ":" ++ stride)

/-- The operator that follows an expression, with what belongs to it. -/
def followingExpr (level : Level) (left : Expr) (strength : Nat) : Reading Expr := do
  let tokens ← get
  match ← next with
  | .symbol mark =>
    match markOperator? level.dialect mark with
    | some operator => binaryExpr level left operator strength
    | none =>
      match mark with
      | "::" => pure (.cast .doubleColon left (← dataType))
      | "!" => if level.dialect == .postgres then pure (.unary .factorial left) else fail
      | "[" => subscript level left
      | _ => fail
  | .word text none =>
    let word := Text.upperString text
    match ← wordOperator? word with
    | some operator => binaryExpr level left operator strength
    | none =>
      match word with
      | "IS" => identityTest level left
      | "AT" =>
        expectKeywords ["TIME", "ZONE"]
        let zone ← level.subexpr strength
        pure (.phrase (left.render ++ " AT TIME ZONE " ++ zone.render))
      | "NOT" | "IN" | "BETWEEN" | "LIKE" | "ILIKE" | "SIMILAR" | "REGEXP" | "RLIKE" => do
        set tokens
        valueTest level left
      | _ => fail
  | _ => fail

/-- Extends an expression by operators stronger than `minimum`; `fuel` bounds their number. -/
def extendWithin (level : Level) (minimum : Nat) : Nat → Expr → Reading Expr
  | 0, left => pure left
  | fuel + 1, left => do
    let strength := operatorStrength level.dialect (← get)
    if minimum < strength then extendWithin level minimum fuel (← followingExpr level left strength)
    else pure left

/-- An expression of operators stronger than `minimum`. -/
def exprAbove (level : Level) (minimum : Nat) : Reading Expr := do
  let fuel := (← get).length + 1
  extendWithin level minimum fuel (← leadingWithin level fuel)

end SchemaDrift.Sql.Grammar
