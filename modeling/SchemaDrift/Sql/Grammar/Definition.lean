import SchemaDrift.Sql.Grammar.Table

namespace SchemaDrift.Sql.Grammar

/-- A text that stands when a test holds, in front of what follows. -/
def guardWords : Reading String := wordIf (keywords? ["IF", "NOT", "EXISTS"]) "IF NOT EXISTS "

/-- An argument of a function: its mode, its name, its type and its default. A type of the user's
own in front of another type is taken for the name. -/
def argumentDeclaration (level : Level) : Reading String := do
  let mode ← oneOf? ["INOUT", "IN", "OUT"]
  let (kind, first) ← classifiedDataType
  let rest ← if kind == .custom then (" " ++ ·) <$> dataType else pure ""
  let value ← if (← keyword? "DEFAULT") || (← symbol? "=") then (" = " ++ ·) <$> level.exprText
    else pure ""
  pure ((mode.map (· ++ " ")).getD "" ++ first ++ rest ++ value)

/-- The arguments of a function in parentheses. -/
def argumentDeclarations (level : Level) : Reading String := inParentheses do
  if ← seesSymbol ")" then pure "()"
  else (fun texts => "(" ++ commaSeparated texts ++ ")") <$> commaList (argumentDeclaration level)

/-- The definition of a view, behind the first words. -/
def viewText (level : Level) (lead : String) : Reading String := do
  let materialized ← wordIf (keyword? "MATERIALIZED") "MATERIALIZED "
  expectKeyword "VIEW"
  let guarded ← if level.dialect == .generic then guardWords else pure ""
  let label ← qualifiedName
  let columns ← columnNames?
  let options ← storageOptions level
  expectKeyword "AS"
  let query ← level.query
  let list := if columns.isEmpty then "" else " (" ++ renderNames columns ++ ")"
  pure ("CREATE " ++ lead ++ materialized ++ "VIEW " ++ guarded ++ label.render ++ list ++
    options ++ " AS " ++ query.render)

def functionPart (level : Level) : Reading (Option String) := do
  if ← keyword? "AS" then
    match ← next with
    | .text form value => pure (some (" AS " ++ form.render value))
    | _ => fail
  else if ← keyword? "LANGUAGE" then (fun label => some (" LANGUAGE " ++ label.render)) <$> name
  else if ← keywords? ["CALLED", "ON", "NULL", "INPUT"] then pure (some " CALLED ON NULL INPUT")
  else if ← keywords? ["RETURNS", "NULL", "ON", "NULL", "INPUT"] then
    pure (some " RETURNS NULL ON NULL INPUT")
  else if ← keyword? "PARALLEL" then
    pure (some (" PARALLEL " ++ (← expectOneOf ["UNSAFE", "RESTRICTED", "SAFE"])))
  else if ← keyword? "RETURN" then (fun text => some (" RETURN " ++ text)) <$> level.exprText
  else
    match ← oneOf? ["IMMUTABLE", "STABLE", "VOLATILE", "STRICT"] with
    | some word => pure (some (" " ++ word))
    | none => pure none

/-- The definition of a function, behind the first words. -/
def functionText (level : Level) (lead : String) : Reading String := do
  let label ← qualifiedName
  let arguments ← argumentDeclarations level
  let result ← if ← keyword? "RETURNS" then (" RETURNS " ++ ·) <$> dataType else pure ""
  let parts ← many (functionPart level)
  pure ("CREATE " ++ lead ++ "FUNCTION " ++ label.render ++ arguments ++ result ++
    String.join parts)

/-- The definition of a type, behind the first words. -/
def typeText : Reading String := do
  let label ← qualifiedName
  expectKeyword "AS"
  if ← keyword? "ENUM" then
    let labels ← inParentheses do if ← seesSymbol ")" then pure [] else commaList name
    pure ("CREATE TYPE " ++ label.render ++ " AS ENUM (" ++ renderNames labels ++ ")")
  else
    let members ← inParentheses do
      if ← seesSymbol ")" then pure []
      else commaList do
        let member ← name
        pure (member.render ++ " " ++ (← dataType))
    pure ("CREATE TYPE " ++ label.render ++ " AS (" ++ commaSeparated members ++ ")")

/-- The definition of a schema, behind the first words. -/
def schemaText : Reading String := do
  let guarded ← guardWords
  if ← keyword? "AUTHORIZATION" then
    pure ("CREATE SCHEMA " ++ guarded ++ "AUTHORIZATION " ++ (← name).render)
  else
    let label ← qualifiedName
    let owner ← if ← keyword? "AUTHORIZATION" then
        (fun owner => " AUTHORIZATION " ++ owner.render) <$> name
      else pure ""
    pure ("CREATE SCHEMA " ++ guarded ++ label.render ++ owner)

/-- The definition of a sequence of numbers, behind the first words. -/
def sequenceText (lead : String) : Reading String := do
  let guarded ← guardWords
  let label ← qualifiedName
  let type ← if ← keyword? "AS" then (" AS " ++ ·) <$> dataType else pure ""
  let options ← sequenceOptions
  let owner ← if ← keywords? ["OWNED", "BY"] then
      if ← keyword? "NONE" then pure " OWNED BY NONE"
      else (fun owner => " OWNED BY " ++ owner.render) <$> qualifiedName
    else pure ""
  pure ("CREATE " ++ lead ++ "SEQUENCE " ++ guarded ++ label.render ++ type ++ options ++ owner)

/-- The installation of an extension, behind the first words. -/
def extensionText : Reading String := do
  let guarded ← guardWords
  let label ← name
  let options ← if ← keyword? "WITH" then do
      let schema ← if ← keyword? "SCHEMA" then (fun s => " SCHEMA " ++ s.render) <$> name
        else pure ""
      let version ← if ← keyword? "VERSION" then (fun v => " VERSION " ++ v.render) <$> name
        else pure ""
      let cascade ← wordIf (keyword? "CASCADE") " CASCADE"
      let all := schema ++ version ++ cascade
      pure (if all.isEmpty then "" else " WITH" ++ all)
    else pure ""
  pure ("CREATE EXTENSION " ++ guarded ++ label.render ++ options)

/-- A change that sets off a trigger. -/
def triggerEvent : Reading String := do
  match ← expectOneOf ["INSERT", "UPDATE", "DELETE", "TRUNCATE"] with
  | "UPDATE" =>
    if ← keyword? "OF" then (fun names => "UPDATE OF " ++ renderNames names) <$> commaList name
    else pure "UPDATE"
  | word => pure word

/-- The changes that set off a trigger, with `OR` between them. -/
def triggerEvents : Reading String := do
  let first ← triggerEvent
  let more ← many do
    if ← keyword? "OR" then some <$> triggerEvent else pure none
  pure (Text.joinStrings " OR " (first :: more))

/-- A table of changed rows that a trigger may refer to. -/
def transitionTable : Reading (Option String) := do
  match ← oneOf? ["OLD", "NEW"] with
  | some age =>
    expectKeyword "TABLE"
    let link ← wordIf (keyword? "AS") " AS"
    pure (some (" " ++ age ++ " TABLE" ++ link ++ " " ++ (← qualifiedName).render))
  | none => pure none

/-- The definition of a trigger, behind the first words. -/
def triggerText (level : Level) (lead : String) : Reading String := do
  let label ← qualifiedName
  let period ← match ← expectOneOf ["BEFORE", "AFTER", "INSTEAD"] with
    | "INSTEAD" => do
      expectKeyword "OF"
      pure "INSTEAD OF"
    | word => pure word
  let events ← triggerEvents
  expectKeyword "ON"
  let table ← qualifiedName
  let referred ← if ← keyword? "FROM" then (fun table => " FROM " ++ table.render) <$> qualifiedName
    else pure ""
  let checked ← characteristics
  let referencing ← if ← keyword? "REFERENCING" then
      (fun tables => " REFERENCING" ++ String.join tables) <$> many transitionTable
    else pure ""
  expectKeyword "FOR"
  let each ← wordIf (keyword? "EACH") "EACH "
  let object ← expectOneOf ["ROW", "STATEMENT"]
  let condition ← if ← keyword? "WHEN" then (" WHEN " ++ ·) <$> level.exprText else pure ""
  expectKeyword "EXECUTE"
  let kind ← expectOneOf ["FUNCTION", "PROCEDURE"]
  let function ← qualifiedName
  let arguments ← if ← seesSymbol "(" then argumentDeclarations level else pure ""
  pure ("CREATE " ++ lead ++ "TRIGGER " ++ label.render ++ " " ++ period ++ " " ++ events ++
    " ON " ++ table.render ++ referred ++ checked ++ referencing ++ " FOR " ++ each ++ object ++
    condition ++ " EXECUTE " ++ kind ++ " " ++ function.render ++ arguments)

/-- A condition in parentheses behind the given words, or nothing. -/
def guardedBy (level : Level) (words : List String) : Reading String := do
  if ← keywords? words then
    (fun text => " " ++ Text.joinStrings " " words ++ " (" ++ text ++ ")") <$>
      inParentheses level.exprText
  else pure ""

/-- The definition of a policy on the rows of a table, behind the first words. -/
def policyText (level : Level) : Reading String := do
  let label ← name
  expectKeyword "ON"
  let table ← qualifiedName
  let kind ← if ← keyword? "AS" then (" AS " ++ ·) <$> expectOneOf ["PERMISSIVE", "RESTRICTIVE"]
    else pure ""
  let action ← if ← keyword? "FOR" then
      (" FOR " ++ ·) <$> expectOneOf ["ALL", "SELECT", "INSERT", "UPDATE", "DELETE"]
    else pure ""
  let roles ← if ← keyword? "TO" then (fun roles => " TO " ++ renderNames roles) <$> commaList name
    else pure ""
  let visible ← guardedBy level ["USING"]
  let checked ← guardedBy level ["WITH", "CHECK"]
  pure ("CREATE POLICY " ++ label.render ++ " ON " ++ table.render ++ kind ++ action ++ roles ++
    visible ++ checked)

/-- A definition other than that of a table or an index, behind the first word and the words of
`lead`. -/
def definitionText (level : Level) (lead : String) (replaces : Bool) : Reading String := do
  if (← seesKeyword "MATERIALIZED") || (← seesKeyword "VIEW") then viewText level lead
  else if ← keyword? "POLICY" then policyText level
  else if ← keyword? "FUNCTION" then functionText level lead
  else if ← keyword? "TRIGGER" then triggerText level (if replaces then "OR REPLACE " else "")
  else if ← keywords? ["CONSTRAINT", "TRIGGER"] then
    triggerText level (if replaces then "OR REPLACE CONSTRAINT " else "CONSTRAINT ")
  else if replaces then fail
  else
    match ← expectOneOf ["EXTENSION", "SCHEMA", "DATABASE", "SEQUENCE", "TYPE"] with
    | "EXTENSION" => extensionText
    | "SCHEMA" => schemaText
    | "DATABASE" =>
      let guarded ← guardWords
      pure ("CREATE DATABASE " ++ guarded ++ (← qualifiedName).render)
    | "SEQUENCE" => sequenceText lead
    | _ => typeText

end SchemaDrift.Sql.Grammar
