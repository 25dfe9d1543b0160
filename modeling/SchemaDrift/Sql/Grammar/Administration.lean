import SchemaDrift.Sql.Grammar.Definition

namespace SchemaDrift.Sql.Grammar

/-- What happens to the objects that depend on a dropped one. -/
def dropBehaviour : Reading String := do
  pure (((← oneOf? ["CASCADE", "RESTRICT"]).map (" " ++ ·)).getD "")

/-- A removal of objects, behind the first word. -/
def dropText (level : Level) : Reading String := do
  let what ← expectOneOf
    ["TABLE", "VIEW", "INDEX", "ROLE", "SCHEMA", "DATABASE", "SEQUENCE", "STAGE", "TYPE",
      "FUNCTION", "PROCEDURE", "TRIGGER", "POLICY"]
  let guarded ← wordIf (keywords? ["IF", "EXISTS"]) " IF EXISTS"
  let start := "DROP " ++ what ++ guarded ++ " "
  if what == "FUNCTION" || what == "PROCEDURE" then
    let names ← commaList do
      let label ← qualifiedName
      if ← seesSymbol "(" then pure (label.render ++ (← argumentDeclarations level))
      else pure label.render
    pure (start ++ commaSeparated names ++ (← dropBehaviour))
  else if what == "TRIGGER" || what == "POLICY" then
    let label ← name
    expectKeyword "ON"
    let table ← qualifiedName
    pure (start ++ label.render ++ " ON " ++ table.render ++ (← dropBehaviour))
  else
    let names ← commaList qualifiedName
    let behaviour ← dropBehaviour
    let purge ← wordIf (keyword? "PURGE") " PURGE"
    if what == "ROLE" && !(behaviour ++ purge).isEmpty then fail
    pure (start ++ commaSeparated (names.map QualifiedName.render) ++ behaviour ++ purge)

/-- A removal of all rows, behind the first word. -/
def truncateText : Reading String := do
  let table ← wordIf (keyword? "TABLE") "TABLE "
  let only ← wordIf (keyword? "ONLY") "ONLY "
  let names ← commaList qualifiedName
  let identity ← if ← keywords? ["RESTART", "IDENTITY"] then pure " RESTART IDENTITY"
    else wordIf (keywords? ["CONTINUE", "IDENTITY"]) " CONTINUE IDENTITY"
  pure ("TRUNCATE " ++ table ++ only ++ commaSeparated (names.map QualifiedName.render) ++
    identity ++ (← dropBehaviour))

/-- A removal of rows, behind the first word. -/
def deleteText (level : Level) : Reading String := do
  let tables ← if ← keyword? "FROM" then pure "FROM "
    else if level.dialect == .generic then pure ""
    else do
      let names ← commaList qualifiedName
      expectKeyword "FROM"
      pure (commaSeparated (names.map QualifiedName.render) ++ " FROM ")
  let sources ← commaList (source level)
  let others ← if ← keyword? "USING" then do
      let others ← commaList (source level)
      pure (" USING " ++ commaSeparated (others.map Source.render))
    else pure ""
  let condition ← whereText level
  let items ← returning level
  let order ← if ← keywords? ["ORDER", "BY"] then (" ORDER BY " ++ ·) <$> orderItems level
    else pure ""
  let limit ← if ← keyword? "LIMIT" then
      if ← keyword? "ALL" then pure "" else (" LIMIT " ++ ·) <$> level.exprText
    else pure ""
  pure ("DELETE " ++ tables ++ commaSeparated (sources.map Source.render) ++ others ++ condition ++
    items ++ order ++ limit)

/-- A privilege, with the columns that it is limited to. -/
def privilege : Reading String := do
  let word ← expectOneOf
    ["CONNECT", "CREATE", "DELETE", "EXECUTE", "INSERT", "REFERENCES", "SELECT", "TEMPORARY",
      "TEMP", "TRIGGER", "TRUNCATE", "UPDATE", "USAGE"]
  if ["INSERT", "REFERENCES", "SELECT", "UPDATE"].contains word && (← seesSymbol "(") then
    pure (word ++ " (" ++ renderNames (← columnNames) ++ ")")
  else pure (if word == "TEMP" then "TEMPORARY" else word)

def privileges : Reading String := do
  let actions ← if ← keyword? "ALL" then
      ("ALL" ++ ·) <$> wordIf (keyword? "PRIVILEGES") " PRIVILEGES"
    else commaSeparated <$> commaList privilege
  expectKeyword "ON"
  let kind ← if ← keywords? ["ALL", "TABLES", "IN", "SCHEMA"] then pure "ALL TABLES IN SCHEMA "
    else if ← keywords? ["ALL", "SEQUENCES", "IN", "SCHEMA"] then pure "ALL SEQUENCES IN SCHEMA "
    else do
      match ← oneOf? ["SEQUENCE", "SCHEMA", "TABLE"] with
      | some "SEQUENCE" => pure "SEQUENCE "
      | some "SCHEMA" => pure "SCHEMA "
      | _ => pure ""
  let objects ← commaList qualifiedName
  pure (actions ++ " ON " ++ kind ++ commaSeparated (objects.map QualifiedName.render))

/-- The role that grants a privilege, behind the grantees. -/
def grantor : Reading String := do
  if ← keywords? ["GRANTED", "BY"] then (fun role => " GRANTED BY " ++ role.render) <$> name
  else pure ""

def grantText : Reading String := do
  let what ← privileges
  expectKeyword "TO"
  let roles ← commaList name
  let option ← wordIf (keywords? ["WITH", "GRANT", "OPTION"]) " WITH GRANT OPTION"
  pure ("GRANT " ++ what ++ " TO " ++ renderNames roles ++ option ++ (← grantor))

def revokeText : Reading String := do
  let what ← privileges
  expectKeyword "FROM"
  let roles ← commaList name
  let role ← grantor
  pure ("REVOKE " ++ what ++ " FROM " ++ renderNames roles ++ role ++ (← dropBehaviour))

/-- A remark on an object, behind the first word. -/
def commentText : Reading String := do
  let guarded ← wordIf (keywords? ["IF", "EXISTS"]) "IF EXISTS "
  expectKeyword "ON"
  let what ← expectOneOf ["COLUMN", "TABLE", "EXTENSION", "SCHEMA", "DATABASE", "USER", "ROLE"]
  let object ← qualifiedName
  expectKeyword "IS"
  let remark ← if ← keyword? "NULL" then pure "NULL" else bareText
  pure ("COMMENT " ++ guarded ++ "ON " ++ what ++ " " ++ object.render ++ " IS " ++ remark)

/-- A statement for the administration of the database, whose first word was taken; none if it is no
first word of one. -/
def administration (level : Level) (word : String) : Option (Reading String) :=
  match word with
  | "DROP" => some (dropText level)
  | "TRUNCATE" => some truncateText
  | "DELETE" => some (deleteText level)
  | "GRANT" => some grantText
  | "REVOKE" => some revokeText
  | "COMMENT" => some commentText
  | "ANALYZE" => some do
    expectKeyword "TABLE"
    pure ("ANALYZE TABLE " ++ (← qualifiedName).render)
  | "DISCARD" => some (("DISCARD " ++ ·) <$> expectOneOf ["ALL", "PLANS", "SEQUENCES", "TEMP"])
  | _ => none

end SchemaDrift.Sql.Grammar
