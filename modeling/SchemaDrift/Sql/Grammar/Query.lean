import SchemaDrift.Sql.Grammar.Change

namespace SchemaDrift.Sql.Grammar

/-- What stands between the first word of a selection and its items. -/
def selectLead (level : Level) : Reading String := do
  let all ← keyword? "ALL"
  let distinct ← if ← keyword? "DISTINCT" then
      if all then fail
      else if ← keyword? "ON" then do
        expectSymbol "("
        let columns ← if ← seesSymbol ")" then pure [] else commaList level.exprText
        expectSymbol ")"
        pure ("DISTINCT ON (" ++ commaSeparated columns ++ ") ")
      else pure "DISTINCT "
    else pure ""
  let top ← if ← keyword? "TOP" then do
      let count ← if ← symbol? "(" then do
          let count ← level.exprText
          expectSymbol ")"
          pure ("(" ++ count ++ ")")
        else toString <$> wholeNumber
      let percent ← wordIf (keyword? "PERCENT") " PERCENT"
      let ties ← wordIf (keywords? ["WITH", "TIES"]) " WITH TIES"
      pure ("TOP " ++ count ++ percent ++ ties ++ " ")
    else pure ""
  pure (distinct ++ top)

/-- The table that a selection is written to. -/
def selectTarget : Reading String := do
  if ← keyword? "INTO" then
    let temporary ← wordIf ((Option.isSome) <$> oneOf? ["TEMP", "TEMPORARY"]) " TEMPORARY"
    let unlogged ← wordIf (keyword? "UNLOGGED") " UNLOGGED"
    let table ← wordIf (keyword? "TABLE") " TABLE"
    pure (" INTO" ++ temporary ++ unlogged ++ table ++ " " ++ (← qualifiedName).render)
  else pure ""

/-- The text of a set of expressions to group by; a single one may stand without parentheses. -/
def groupSet (level : Level) (single : Bool) : Reading String := do
  if !single || (← seesSymbol "(") then
    expectSymbol "("
    if ← symbol? ")" then pure "()"
    else
      let items ← commaList level.exprText
      expectSymbol ")"
      match items with
      | [item] => pure (if single then item else "(" ++ item ++ ")")
      | _ => pure ("(" ++ commaSeparated items ++ ")")
  else level.exprText

def groupItem (level : Level) : Reading Expr := do
  let sets (lead : String) (single : Bool) : Reading Expr := do
    let items ← inParentheses (commaList (groupSet level single))
    pure (.phrase (lead ++ " (" ++ commaSeparated items ++ ")"))
  if ← keywords? ["GROUPING", "SETS"] then sets "GROUPING SETS" false
  else if ← keyword? "CUBE" then sets "CUBE" true
  else if ← keyword? "ROLLUP" then sets "ROLLUP" true
  else
    match ← get with
    | .symbol "(" :: .symbol ")" :: rest => do set rest; pure (.tuple [])
    | _ => level.expr

def namedWindows (level : Level) : Reading String := do
  if ← keyword? "WINDOW" then
    let windows ← commaList do
      let label ← name
      expectKeyword "AS"
      if ← symbol? "(" then
        pure (label.render ++ " AS (" ++ (← window level fail) ++ ")")
      else pure (label.render ++ " AS " ++ (← name).render)
    pure (" WINDOW " ++ commaSeparated windows)
  else pure ""

/-- A selection behind its first word. -/
def select (level : Level) : Reading Select := do
  let lead ← selectLead level
  let items ← commaList (item level)
  let target ← selectTarget
  let sources ← if ← keyword? "FROM" then commaList (source level) else pure []
  let condition ← afterKeyword? "WHERE" level.expr
  let (groups, groupWord) ← if ← keywords? ["GROUP", "BY"] then
      if ← keyword? "ALL" then pure ([], " GROUP BY ALL")
      else do
        let groups ← commaList (groupItem level)
        pure (groups, "")
    else pure ([], "")
  let having ← afterKeyword? "HAVING" level.expr
  let windows ← namedWindows level
  let qualify ← afterKeyword? "QUALIFY" level.exprText
  let tail := windows ++ (qualify.map (" QUALIFY " ++ ·)).getD ""
  pure (.mk lead items target sources condition groups groupWord having tail)

/-- The rows of values behind their first word. -/
def valueRows (level : Level) : Reading Body := do
  let rows ← commaList do
    let named ← keyword? "ROW"
    pure (named, ← inParentheses (commaList level.expr))
  let lead := if rows.any (·.1) then "ROW" else ""
  pure (.values lead (rows.map (·.2)))

/-- How a combination of queries treats equal rows. -/
def combinationQuantifier (union : Bool) : Reading String := do
  if union then
    if ← keywords? ["DISTINCT", "BY", "NAME"] then pure " DISTINCT BY NAME"
    else if ← keywords? ["BY", "NAME"] then pure " BY NAME"
    else if ← keyword? "ALL" then
      if ← keywords? ["BY", "NAME"] then pure " ALL BY NAME" else pure " ALL"
    else wordIf (keyword? "DISTINCT") " DISTINCT"
  else if ← keyword? "ALL" then pure " ALL"
  else wordIf (keyword? "DISTINCT") " DISTINCT"

/-- The first part of the body of a query. -/
def bodyStart (level : Level) : Reading Body := do
  if ← keyword? "SELECT" then .select <$> select level
  else if ← symbol? "(" then
    let query ← level.query
    expectSymbol ")"
    pure (.query query)
  else if ← keyword? "VALUES" then valueRows level
  else if ← keyword? "TABLE" then
    let first ← name
    if ← symbol? "." then pure (.phrase ("TABLE " ++ first.render ++ "." ++ (← name).render))
    else pure (.phrase ("TABLE " ++ first.render))
  else fail

def combinationStrength : Reading Nat := do
  if (← seesKeyword "UNION") || (← seesKeyword "EXCEPT") then pure 10
  else if ← seesKeyword "INTERSECT" then pure 20
  else pure 0

mutual

/-- The body of a query with combinations stronger than `minimum`; `fuel` bounds their number. -/
def bodyAbove (level : Level) (minimum : Nat) : Nat → Reading Body
  | 0 => fail
  | fuel + 1 => do extendBody level minimum fuel (← bodyStart level)

def extendBody (level : Level) (minimum : Nat) : Nat → Body → Reading Body
  | 0, left => pure left
  | fuel + 1, left => do
    let strength ← combinationStrength
    if minimum < strength then
      let word ← expectOneOf ["UNION", "EXCEPT", "INTERSECT"]
      let quantifier ← combinationQuantifier (word == "UNION")
      let right ← bodyAbove level strength fuel
      extendBody level minimum fuel (.combination (word ++ quantifier) left right)
    else pure left

end

/-- The marker of how a named query is kept. -/
def materialisation (dialect : Dialect) : Reading String := do
  if dialect == .postgres then
    if ← keyword? "MATERIALIZED" then pure "MATERIALIZED "
    else wordIf (keywords? ["NOT", "MATERIALIZED"]) "NOT MATERIALIZED "
  else pure ""

/-- A query with a name. -/
def definition (level : Level) : Reading Definition := do
  let label ← name
  let columns ← if ← seesKeyword "AS" then pure "" else aliasColumns
  expectKeyword "AS"
  let marker ← materialisation level.dialect
  let query ← inParentheses level.query
  let tail ← if ← keyword? "FROM" then (fun label => " FROM " ++ label.render) <$> name else pure ""
  pure (.mk label columns marker query tail)

/-- The limit and the offset of a query, in either order. -/
def limits (level : Level) : Reading String := do
  let limitText : Reading (Option String) := do
    if ← keyword? "LIMIT" then
      if ← keyword? "ALL" then pure none else some <$> level.exprText
    else pure none
  let offsetText : Reading (Option String) := do
    if ← keyword? "OFFSET" then
      let value ← level.exprText
      let rows ← oneOf? ["ROWS", "ROW"]
      pure (some (value ++ (rows.map (" " ++ ·)).getD ""))
    else pure none
  let limit ← limitText
  let offset ← offsetText
  let (limit, offset) ← if level.dialect == .generic && limit.isSome && offset.isNone &&
      (← symbol? ",") then pure (some (← level.exprText), limit)
    else pure (limit, offset)
  let limit ← if limit.isNone then limitText else pure limit
  let offset ← if offset.isNone then offsetText else pure offset
  pure ((limit.map (" LIMIT " ++ ·)).getD "" ++ (offset.map (" OFFSET " ++ ·)).getD "")

/-- The number of rows to fetch. -/
def fetch : Reading String := do
  if ← keyword? "FETCH" then
    let _ ← oneOf? ["FIRST", "NEXT"]
    let quantity ← if (← oneOf? ["ROW", "ROWS"]).isSome then pure ""
      else do
        let quantity ← constant
        let percent ← wordIf (keyword? "PERCENT") " PERCENT"
        let _ ← oneOf? ["ROW", "ROWS"]
        pure (" " ++ quantity.render ++ percent)
    let ties ← if ← keyword? "ONLY" then pure " ONLY"
      else do
        expectKeywords ["WITH", "TIES"]
        pure " WITH TIES"
    pure (" FETCH FIRST" ++ quantity ++ " ROWS" ++ ties)
  else pure ""

/-- A lock on the rows of a query. -/
def lock : Reading (Option String) := do
  if ← keyword? "FOR" then
    let kind ← expectOneOf ["UPDATE", "SHARE"]
    let tables ← if ← keyword? "OF" then (fun table => " OF " ++ table.render) <$> qualifiedName
      else pure ""
    let waiting ← if ← keyword? "NOWAIT" then pure " NOWAIT"
      else wordIf (keywords? ["SKIP", "LOCKED"]) " SKIP LOCKED"
    pure (some (" FOR " ++ kind ++ tables ++ waiting))
  else pure none

def query (level : Level) : Reading Query := do
  let introduced ← keyword? "WITH"
  let recursive ← if introduced then keyword? "RECURSIVE" else pure false
  let definitions ← if introduced then commaList (definition level) else pure []
  if ← keyword? "INSERT" then
    pure (.mk recursive definitions (.phrase (← insert level).render) "")
  else if ← keyword? "UPDATE" then
    pure (.mk recursive definitions (.phrase (← update level).render) "")
  else
    let body ← bodyAbove level 0 (2 * (← get).length + 2)
    let order ← if ← keywords? ["ORDER", "BY"] then (" ORDER BY " ++ ·) <$> orderItems level
      else pure ""
    let limits ← limits level
    let rows ← fetch
    let locks ← many lock
    pure (.mk recursive definitions body (order ++ limits ++ rows ++ String.join locks))

/-- The readers for a number of nested levels; below the last one nothing is read. -/
def levelOf (dialect : Dialect) : Nat → Level
  | 0 => ⟨dialect, fun _ => throw .nestingTooDeep, throw .nestingTooDeep⟩
  | depth + 1 =>
    let inner := levelOf dialect depth
    ⟨dialect, exprAbove inner, query inner⟩

end SchemaDrift.Sql.Grammar
