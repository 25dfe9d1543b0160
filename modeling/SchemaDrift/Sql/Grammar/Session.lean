import SchemaDrift.Sql.Grammar.Administration

namespace SchemaDrift.Sql.Grammar

def transactionModes : Reading String := do
  let mode : Reading (Option String) := do
    if ← keywords? ["ISOLATION", "LEVEL"] then
      let name ← if ← keywords? ["READ", "UNCOMMITTED"] then pure "READ UNCOMMITTED"
        else if ← keywords? ["READ", "COMMITTED"] then pure "READ COMMITTED"
        else if ← keywords? ["REPEATABLE", "READ"] then pure "REPEATABLE READ"
        else expectOneOf ["SERIALIZABLE"]
      let _ ← symbol? ","
      pure (some ("ISOLATION LEVEL " ++ name))
    else if ← keyword? "READ" then
      let word ← expectOneOf ["ONLY", "WRITE"]
      let _ ← symbol? ","
      pure (some ("READ " ++ word))
    else pure none
  let modes ← many mode
  pure (if modes.isEmpty then "" else " " ++ commaSeparated modes)

/-- Whether a transaction starts where another ends. -/
def chain : Reading String := do
  let _ ← oneOf? ["TRANSACTION", "WORK"]
  if ← keyword? "AND" then
    let negation ← keyword? "NO"
    expectKeyword "CHAIN"
    pure (if negation then "" else " AND CHAIN")
  else pure ""

/-- The end of a transaction without its changes, behind the first word. -/
def rollbackText : Reading String := do
  let following ← chain
  let savepoint ← if ← keyword? "TO" then do
      let _ ← keyword? "SAVEPOINT"
      pure (" TO SAVEPOINT " ++ (← name).render)
    else pure ""
  pure ("ROLLBACK" ++ following ++ savepoint)

def settingValues (level : Level) : Reading (Option String) := do
  if (← symbol? "=") || (← keyword? "TO") then
    (fun values => some (commaSeparated values)) <$> commaList level.exprText
  else pure none

/-- A setting of the session, behind the first word. The word `SESSION` says what holds anyway. -/
def settingText (level : Level) : Reading String := do
  let scope ← oneOf? ["SESSION", "LOCAL"]
  let lead := if scope == some "LOCAL" then "SET LOCAL " else "SET "
  let role ← attempt do
    expectKeyword "ROLE"
    if ← keyword? "NONE" then pure "NONE" else Name.render <$> name
  match role with
  | some role => pure ("SET" ++ (scope.map (" " ++ ·)).getD "" ++ " ROLE " ++ role)
  | none =>
    let label ← if ← keywords? ["TIME", "ZONE"] then pure "TIMEZONE"
      else QualifiedName.render <$> qualifiedName
    match ← settingValues level with
    | some values => pure (lead ++ label ++ " = " ++ values)
    | none =>
      if Text.lowerString label == "timezone" then (lead ++ "TIME ZONE " ++ ·) <$> level.exprText
      else if label == "CHARACTERISTICS" then
        expectKeywords ["AS", "TRANSACTION"]
        ("SET SESSION CHARACTERISTICS AS TRANSACTION" ++ ·) <$> transactionModes
      else if label == "TRANSACTION" && scope.isNone then
        ("SET TRANSACTION" ++ ·) <$> transactionModes
      else fail

/-- A question about the session, behind the first word. It reaches to an equals sign or the end,
and only its words count. -/
def showText : Reading String := do
  let tokens ← get
  set (tokens.dropWhile fun token => !token.isSymbol "=")
  let names := (tokens.takeWhile fun token => !token.isSymbol "=").filterMap fun
    | .word text quote => some (Name.mk text quote).render
    | _ => none
  pure (Text.joinStrings " " ("SHOW" :: names))

/-- A question about the tables of the database, behind the first word, or one about the session. -/
def showing : Reading String := do
  match ← oneOf? ["TABLES", "DATABASES", "SCHEMAS", "VIEWS"] with
  | some word => pure ("SHOW " ++ word)
  | none => showText

/-- The definition of a prepared statement, behind the first word. -/
def preparationText (nested : Reading Statement) : Reading String := do
  let label ← name
  let types ← if ← seesSymbol "(" then
      (fun types => "(" ++ commaSeparated types ++ ") ") <$> inParentheses (commaList dataType)
    else pure ""
  expectKeyword "AS"
  pure ("PREPARE " ++ label.render ++ " " ++ types ++ "AS " ++ (← nested).render)

/-- The run of a prepared statement, behind the first word. -/
def executionText (level : Level) : Reading String := do
  let label ← qualifiedName
  let parameters ← if ← symbol? "(" then
      let values ← if ← seesSymbol ")" then pure [] else commaList level.exprText
      expectSymbol ")"
      pure ("(" ++ commaSeparated values ++ ")")
    else if (← get).isEmpty || (← seesSymbol ";") || (← seesKeyword "USING") then pure ""
    else (fun values => " " ++ commaSeparated values) <$> commaList level.exprText
  let values ← if ← keyword? "USING" then
      (fun values => " USING " ++ commaSeparated values) <$> commaList level.exprText
    else pure ""
  pure ("EXECUTE " ++ label.render ++ parameters ++ values)

/-- The declaration of a cursor, behind the first word. -/
def cursorText (level : Level) : Reading String := do
  let label ← name
  let binary ← wordIf (keyword? "BINARY") " BINARY"
  let sensitivity ← oneOf? ["INSENSITIVE", "ASENSITIVE"]
  let scroll ← if ← keywords? ["NO", "SCROLL"] then pure " NO SCROLL"
    else wordIf (keyword? "SCROLL") " SCROLL"
  expectKeyword "CURSOR"
  let hold ← match ← oneOf? ["WITH", "WITHOUT"] with
    | some word => do
      expectKeyword "HOLD"
      pure (" " ++ word ++ " HOLD")
    | none => pure ""
  expectKeyword "FOR"
  let query ← level.query
  pure ("DECLARE " ++ label.render ++ binary ++ (sensitivity.map (" " ++ ·)).getD "" ++ scroll ++
    " CURSOR" ++ hold ++ " FOR " ++ query.render)

def rowCount : Reading String := do
  match ← next with
  | .number text _ | .placeholder text => pure text
  | _ => fail

/-- A move of a cursor, behind the first word. -/
def cursorMove : Reading String := do
  let plain ← oneOf? ["NEXT", "PRIOR", "FIRST", "LAST", "ALL"]
  let counted ← if plain.isSome then pure none
    else oneOf? ["ABSOLUTE", "RELATIVE", "FORWARD", "BACKWARD"]
  let direction ← match plain <|> counted with
    | some word =>
      if word == "ABSOLUTE" || word == "RELATIVE" then ((word ++ " ") ++ ·) <$> rowCount
      else if word == "FORWARD" || word == "BACKWARD" then
        if ← keyword? "ALL" then pure (word ++ " ALL") else ((word ++ " ") ++ ·) <$> rowCount
      else pure word
    | none => rowCount
  let _ ← expectOneOf ["FROM", "IN"]
  let label ← name
  let target ← if ← keyword? "INTO" then (fun table => " INTO " ++ table.render) <$> qualifiedName
    else pure ""
  pure ("FETCH " ++ direction ++ " IN " ++ label.render ++ target)

def explanationOption (level : Level) : Reading String := do
  let label ← name
  if (← seesSymbol ",") || (← seesSymbol ")") then pure label.render
  else ((label.render ++ " ") ++ ·) <$> level.exprText

/-- The words between the first word of an explanation and the statement, each with a blank. -/
def explanationLead (level : Level) (word : String) : Reading String := do
  if word == "EXPLAIN" && (← seesSymbol "(") then
    let options ← inParentheses (commaList (explanationOption level))
    pure ("(" ++ commaSeparated options ++ ") ")
  else if ← keywords? ["QUERY", "PLAN"] then pure "QUERY PLAN "
  else if ← keyword? "ESTIMATE" then pure "ESTIMATE "
  else
    let analyze ← wordIf (keyword? "ANALYZE") "ANALYZE "
    let verbose ← wordIf (keyword? "VERBOSE") "VERBOSE "
    let format ← if ← keyword? "FORMAT" then
        (fun format => "FORMAT " ++ format ++ " ") <$> expectOneOf ["TEXT", "GRAPHVIZ", "JSON"]
      else pure ""
    pure (analyze ++ verbose ++ format)

def explanationWords : List String := ["EXPLAIN", "DESCRIBE", "DESC"]

/-- The explanation of a statement or the description of a table, behind the first word. An
explanation is not explained. -/
def explanationText (level : Level) (word : String) (nested : Reading Statement) :
    Reading String := do
  let lead ← explanationLead level word
  let repeated ← looksAt 0 fun token => explanationWords.any token.isKeyword
  match ← attempt nested with
  | some statement => if repeated then fail else pure (word ++ " " ++ lead ++ statement.render)
  | none =>
    let format ← oneOf? ["EXTENDED", "FORMATTED"]
    let table ← qualifiedName
    pure (word ++ " " ++ (format.map (· ++ " ")).getD "" ++ table.render)

/-- A call of a procedure, behind the first word. -/
def procedureCall (level : Level) : Reading String := do
  let label ← qualifiedName
  if ← seesSymbol "(" then
    let call ← call level level.expr label
    pure ("CALL " ++ call.render)
  else pure ("CALL " ++ label.render)

/-- The send of a notification, behind the first word. -/
def notificationText : Reading String := do
  let channel ← name
  let payload ← if ← symbol? "," then (", " ++ ·) <$> bareText else pure ""
  pure ("NOTIFY " ++ channel.render ++ payload)

/-- A statement that concerns the session, whose first word was taken; none if it is no first word
of one. The reader `nested` reads a statement inside another. -/
def sessionText (level : Level) (nested : Reading Statement) (word : String) :
    Option (Reading String) :=
  match word with
  | "BEGIN" => some do
    let _ ← oneOf? ["TRANSACTION", "WORK"]
    pure ("BEGIN TRANSACTION" ++ (← transactionModes))
  | "START" => some do
    expectKeyword "TRANSACTION"
    pure ("START TRANSACTION" ++ (← transactionModes))
  | "COMMIT" | "END" => some (("COMMIT" ++ ·) <$> chain)
  | "ROLLBACK" => some rollbackText
  | "SAVEPOINT" => some ((fun label => "SAVEPOINT " ++ label.render) <$> name)
  | "RELEASE" => some do
    let _ ← keyword? "SAVEPOINT"
    pure ("RELEASE SAVEPOINT " ++ (← name).render)
  | "SET" => some (settingText level)
  | "SHOW" => some showing
  | "USE" => some ((fun label => "USE " ++ label.render) <$> qualifiedName)
  | "PREPARE" => some (preparationText nested)
  | "EXECUTE" | "EXEC" => some (executionText level)
  | "DEALLOCATE" => some do
    let lead ← wordIf (keyword? "PREPARE") "PREPARE "
    pure ("DEALLOCATE " ++ lead ++ (← name).render)
  | "DECLARE" => some (cursorText level)
  | "FETCH" => some cursorMove
  | "CLOSE" => some do
    if ← keyword? "ALL" then pure "CLOSE ALL" else pure ("CLOSE " ++ (← name).render)
  | "CALL" => some (procedureCall level)
  | "LISTEN" => some ((fun channel => "LISTEN " ++ channel.render) <$> name)
  | "UNLISTEN" => some do
    if ← symbol? "*" then pure "UNLISTEN *" else pure ("UNLISTEN " ++ (← name).render)
  | "NOTIFY" => some notificationText
  | word =>
    if explanationWords.contains word then some (explanationText level word nested) else none

end SchemaDrift.Sql.Grammar
