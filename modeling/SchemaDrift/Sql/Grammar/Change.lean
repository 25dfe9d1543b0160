import SchemaDrift.Sql.Grammar.Source

namespace SchemaDrift.Sql.Grammar

def assignmentTarget : Reading AssignmentTarget := do
  if ← symbol? "(" then
    let names ← commaList qualifiedName
    expectSymbol ")"
    pure (.tuple names)
  else .column <$> qualifiedName

def assignment (level : Level) : Reading Assignment := do
  let target ← assignmentTarget
  expectSymbol "="
  pure ⟨target, ← level.expr⟩

/-- The text of the condition behind `WHERE`, with the word. -/
def whereText (level : Level) : Reading String := do
  if ← keyword? "WHERE" then (" WHERE " ++ ·) <$> level.exprText else pure ""

/-- What to do with a row that breaks a constraint. -/
def conflictText (level : Level) : Reading String := do
  if ← keyword? "CONFLICT" then
    let target ← if ← keywords? ["ON", "CONSTRAINT"] then
        (fun constraint => " ON CONSTRAINT " ++ constraint.render) <$> qualifiedName
      else if ← seesSymbol "(" then (fun names => "(" ++ renderNames names ++ ")") <$> columnNames
      else pure ""
    expectKeyword "DO"
    if ← keyword? "NOTHING" then pure (" ON CONFLICT" ++ target ++ " DO NOTHING")
    else
      expectKeywords ["UPDATE", "SET"]
      let assignments ← commaList (assignment level)
      let condition ← whereText level
      pure (" ON CONFLICT" ++ target ++ " DO UPDATE SET " ++ renderAssignments assignments ++
        condition)
  else
    expectKeywords ["DUPLICATE", "KEY", "UPDATE"]
    let assignments ← commaList (assignment level)
    pure (" ON DUPLICATE KEY UPDATE " ++ renderAssignments assignments)

/-- The alternative to a failing change. -/
def alternative : Reading (Option String) := do
  if ← keyword? "OR" then
    some <$> expectOneOf ["REPLACE", "ROLLBACK", "ABORT", "FAIL", "IGNORE"]
  else pure none

/-- An insertion of rows behind its first word. -/
def insert (level : Level) : Reading Statement := do
  let choice ← alternative
  let ignore ← if level.dialect == .generic then wordIf (keyword? "IGNORE") " IGNORE" else pure ""
  let overwrite ← wordIf (keyword? "OVERWRITE") " OVERWRITE"
  let into ← wordIf (keyword? "INTO") " INTO"
  let _ ← keyword? "LOCAL"
  let table ← wordIf (keyword? "TABLE") " TABLE"
  let lead := match choice with
    | some word => " OR " ++ word ++ " INTO"
    | none => ignore ++ overwrite ++ into ++ table
  let relation ← qualifiedName
  let label ← if level.dialect == .postgres then afterKeyword? "AS" name else pure none
  let (columns, source) ← if ← keywords? ["DEFAULT", "VALUES"] then pure ([], none)
    else do
      let startsQuery := (← seesSymbol "(") && (← looksAt 1 (Token.isKeyword "SELECT"))
      let columns ← if startsQuery then pure [] else columnNames?
      pure (columns, some (← level.query))
  let conflict ← if ← keyword? "ON" then conflictText level else pure ""
  pure (.insert lead relation label columns source (conflict ++ (← returning level)))

/-- A change of rows behind its first word. -/
def update (level : Level) : Reading Statement := do
  let choice ← alternative
  let table ← source level
  expectKeyword "SET"
  let assignments ← commaList (assignment level)
  let from? ← afterKeyword? "FROM" (source level)
  let condition ← afterKeyword? "WHERE" level.expr
  let lead := (choice.map fun word => "OR " ++ word ++ " ").getD ""
  pure (.update lead table assignments from? condition (← returning level))

end SchemaDrift.Sql.Grammar
