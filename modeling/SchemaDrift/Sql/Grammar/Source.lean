import SchemaDrift.Sql.Grammar.Expression

namespace SchemaDrift.Sql.Grammar

/-- The names, and types if any, of the columns of an alias. -/
def aliasColumns : Reading String := do
  if ← symbol? "(" then
    let items ← commaList do
      let column ← name
      match ← attempt dataType with
      | some type => pure (column.render ++ " " ++ type)
      | none => pure column.render
    expectSymbol ")"
    pure (" (" ++ commaSeparated items ++ ")")
  else pure ""

def relationAlias? : Reading (Option Alias) := do
  match ← alias? Keyword.notRelationAlias with
  | some label => pure (some ⟨label, ← aliasColumns⟩)
  | none => pure none

/-- An item of a selection or of what a change returns. -/
def item (level : Level) : Reading Item := do
  match ← starOrExpr level with
  | .inl star => pure (.wildcard star)
  | .inr expr =>
    match expr with
    | .column [⟨text, none⟩] => if Text.lowerString text == "from" then fail
    | _ => pure ()
    match ← alias? Keyword.notItemAlias with
    | some label => pure (.aliased expr label)
    | none => pure (.value expr)

/-- The text of what a change returns. -/
def returning (level : Level) : Reading String := do
  if ← keyword? "RETURNING" then
    let items ← commaList (item level)
    pure (" RETURNING " ++ commaSeparated (items.map Item.render))
  else pure ""

/-- The arguments of a function that gives rows, behind the opening parenthesis. -/
def rowArguments (level : Level) : Reading String := do
  if ← symbol? ")" then pure "()"
  else
    let arguments ← commaList (argument level)
    expectSymbol ")"
    pure ("(" ++ commaSeparated (arguments.map Argument.render) ++ ")")

/-- The share of the rows of a relation that is taken, or all of them. -/
def sample (level : Level) : Reading String := do
  match ← oneOf? ["TABLESAMPLE", "SAMPLE"] with
  | none => pure ""
  | some word =>
    let method ← oneOf? ["BERNOULLI", "ROW", "SYSTEM", "BLOCK"]
    let share : Reading String := do
      let value ← level.exprText
      pure (value ++ ((← oneOf? ["ROWS", "PERCENT"]).map (" " ++ ·)).getD "")
    let quantity ← if ← seesSymbol "(" then (fun text => "(" ++ text ++ ")") <$> inParentheses share
      else share
    let seed ← match ← oneOf? ["REPEATABLE", "SEED"] with
      | some word => (fun text => " " ++ word ++ " (" ++ text ++ ")") <$> inParentheses level.exprText
      | none => pure ""
    let offset ← if ← keyword? "OFFSET" then (" OFFSET " ++ ·) <$> level.exprText else pure ""
    pure (" " ++ word ++ (method.map (" " ++ ·)).getD "" ++ " " ++ quantity ++ seed ++ offset)

/-- A relation that a name stands for. -/
def namedFactor (level : Level) : Reading Factor := do
  let relation ← qualifiedName
  let arguments ← if ← symbol? "(" then rowArguments level else pure ""
  let ordinality ← wordIf (keywords? ["WITH", "ORDINALITY"]) " WITH ORDINALITY"
  let label ← relationAlias?
  let tokens ← get
  let hints ← if ← keyword? "WITH" then
      if ← symbol? "(" then do
        let hints ← commaList level.exprText
        expectSymbol ")"
        pure (" WITH (" ++ commaSeparated hints ++ ")")
      else do
        set tokens
        pure ""
    else pure ""
  pure (.table relation (arguments ++ ordinality) label (hints ++ (← sample level)))

/-- A query as a relation, behind the opening parenthesis. -/
def derivedFactor (level : Level) (lateral : Bool) : Reading Factor := do
  let query ← level.query
  expectSymbol ")"
  pure (.derived lateral query (← relationAlias?))

/-- A relation behind the word `LATERAL`. -/
def lateralFactor (level : Level) : Reading Factor := do
  if ← symbol? "(" then derivedFactor level true
  else
    let relation ← qualifiedName
    expectSymbol "("
    let arguments ← rowArguments level
    let label ← relationAlias?
    pure (.phrase ("LATERAL " ++ relation.render ++ arguments ++ renderAlias label))

/-- The elements of arrays as a relation, behind the first word. -/
def unnestFactor (level : Level) : Reading Factor := do
  let arrays ← inParentheses (commaList level.exprText)
  let ordinality ← wordIf (keywords? ["WITH", "ORDINALITY"]) " WITH ORDINALITY"
  let label ← relationAlias?
  let offset ← if ← keyword? "WITH" then
      if ← keyword? "OFFSET" then
        match ← alias? Keyword.notItemAlias with
        | some name => pure (" WITH OFFSET AS " ++ name.render)
        | none => pure " WITH OFFSET"
      else pure ""
    else pure ""
  pure (.phrase
    ("UNNEST(" ++ commaSeparated arrays ++ ")" ++ ordinality ++ renderAlias label ++ offset))

def joinCondition (level : Level) : Reading JoinCondition := do
  if ← keyword? "ON" then .on <$> level.expr
  else if ← keyword? "USING" then .using <$> columnNames
  else pure .absent

/-- The words of a join that has a condition, after any `NATURAL`; none stands for no join. -/
def joinWords : Reading (Option String) := do
  if (← seesKeyword "INNER") || (← seesKeyword "JOIN") then
    let _ ← keyword? "INNER"
    expectKeyword "JOIN"
    pure (some "JOIN")
  else
    match ← oneOf? ["LEFT", "RIGHT"] with
    | some side =>
      match ← expectOneOf ["OUTER", "SEMI", "ANTI", "JOIN"] with
      | "JOIN" => pure (some (side ++ " JOIN"))
      | kind =>
        expectKeyword "JOIN"
        pure (some (if kind == "OUTER" then side ++ " JOIN" else side ++ " " ++ kind ++ " JOIN"))
    | none =>
      if ← keyword? "FULL" then
        let _ ← keyword? "OUTER"
        expectKeyword "JOIN"
        pure (some "FULL JOIN")
      else pure none

/-- A joined relation, if there is one; `factor` reads a relation. -/
def join? (level : Level) (factor : Reading Factor) : Reading (Option Join) := do
  let lead ← wordIf (keyword? "GLOBAL") "GLOBAL "
  if ← keyword? "CROSS" then
    let word ← expectOneOf ["JOIN", "APPLY"]
    pure (some (.mk (lead ++ "CROSS " ++ word) (← factor) .absent))
  else if ← keyword? "OUTER" then
    expectKeyword "APPLY"
    pure (some (.mk (lead ++ "OUTER APPLY") (← factor) .absent))
  else
    let natural ← keyword? "NATURAL"
    match ← joinWords with
    | some words =>
      let relation ← factor
      if natural then pure (some (.mk (lead ++ "NATURAL " ++ words) relation .absent))
      else pure (some (.mk (lead ++ words) relation (← joinCondition level)))
    | none => if natural then fail else pure none

/-- A relation with the relations joined to it; `factor` reads a relation. -/
def sourceOf (level : Level) (factor : Reading Factor) : Reading Source := do
  let relation ← factor
  pure (.mk relation (← many (join? level factor)))

/-- The relation with an alias from outside of its parentheses. -/
def relabel (relation : Factor) (label : Alias) : Reading Factor :=
  match relation with
  | .table relation extras none hints => pure (.table relation extras (some label) hints)
  | .derived lateral query none => pure (.derived lateral query (some label))
  | .phrase text => pure (.phrase (text ++ renderAlias (some label)))
  | _ => fail

/-- Relations in parentheses whose opening was taken; `factor` reads a relation. -/
def joinedFactor (level : Level) (factor : Reading Factor) : Reading Factor := do
  let source ← sourceOf level factor
  match source with
  | .mk (.joined _ _) _ | .mk _ (_ :: _) =>
    expectSymbol ")"
    pure (.joined source (← relationAlias?))
  | .mk relation [] =>
    if level.dialect == .postgres then fail
    else
      expectSymbol ")"
      match ← relationAlias? with
      | some label => relabel relation label
      | none => pure relation

/-- A relation; `fuel` bounds the nesting of parentheses. -/
def factorWithin (level : Level) : Nat → Reading Factor
  | 0 => fail
  | fuel + 1 => do
    if ← keyword? "LATERAL" then lateralFactor level
    else if ← keyword? "TABLE" then
      let expr ← inParentheses level.exprText
      pure (.phrase ("TABLE(" ++ expr ++ ")" ++ renderAlias (← relationAlias?)))
    else if ← symbol? "(" then
      match ← attempt (derivedFactor level false) with
      | some factor => pure factor
      | none => joinedFactor level (factorWithin level fuel)
    else if ← keyword? "UNNEST" then unnestFactor level
    else namedFactor level

/-- A relation with the relations joined to it. -/
def source (level : Level) : Reading Source := do
  sourceOf level (factorWithin level ((← get).length + 1))

end SchemaDrift.Sql.Grammar
