import SchemaDrift.Sql.Grammar.Session

namespace SchemaDrift.Sql.Grammar

def oneByteText : Reading String := do
  let text ← textConstant
  if text.utf8ByteSize == 1 then pure ("'" ++ text ++ "'") else fail

/-- A switch that is on unless it is said to be off. -/
def copySwitch (word : String) : Reading String := do
  match ← oneOf? ["TRUE", "FALSE"] with
  | some "FALSE" => pure (word ++ " FALSE")
  | _ => pure word

/-- An option of a copy in the list of options. -/
def copyOption : Reading String := do
  match ← expectOneOf
      ["FORMAT", "FREEZE", "DELIMITER", "NULL", "HEADER", "QUOTE", "ESCAPE", "FORCE_QUOTE",
        "FORCE_NOT_NULL", "FORCE_NULL", "ENCODING"] with
  | "FORMAT" => (fun format => "FORMAT " ++ format.render) <$> name
  | "NULL" => ("NULL " ++ ·) <$> bareText
  | "ENCODING" => ("ENCODING " ++ ·) <$> bareText
  | word =>
    if word == "FREEZE" || word == "HEADER" then copySwitch word
    else if word == "DELIMITER" || word == "QUOTE" || word == "ESCAPE" then
      ((word ++ " ") ++ ·) <$> oneByteText
    else (fun names => word ++ " (" ++ renderNames names ++ ")") <$> columnNames

/-- A mark of a copy, with or without `AS` before it. -/
def copyMark (word : String) : Reading String := do
  let _ ← keyword? "AS"
  ((word ++ " ") ++ ·) <$> oneByteText

/-- An option of a copy of separated values, in the older form. -/
def separatedValuesOption : Reading String := do
  match ← expectOneOf ["HEADER", "QUOTE", "ESCAPE", "FORCE"] with
  | "HEADER" => pure "HEADER"
  | "FORCE" =>
    if ← keywords? ["NOT", "NULL"] then
      (fun names => "FORCE NOT NULL " ++ renderNames names) <$> commaList name
    else
      expectKeyword "QUOTE"
      (fun names => "FORCE QUOTE " ++ renderNames names) <$> commaList name
  | word => copyMark word

def olderCopyOption : Reading String := do
  match ← expectOneOf ["BINARY", "DELIMITER", "NULL", "CSV"] with
  | "BINARY" => pure "BINARY"
  | "DELIMITER" => copyMark "DELIMITER"
  | "NULL" =>
    let _ ← keyword? "AS"
    ("NULL " ++ ·) <$> bareText
  | _ =>
    (fun options => Text.joinStrings " " ("CSV" :: options)) <$>
      many (attempt separatedValuesOption)

/-- Passes over the rows that stand in the statements themselves, up to a backslash and a point. -/
def passInlineRows : List Token → List Token
  | .symbol "\\" :: .symbol "." :: rest => rest
  | _ :: rest => passInlineRows rest
  | [] => []

/-- A copy between a table or a query and a file, behind the first word. -/
def copyText (level : Level) : Reading String := do
  let isQuery ← symbol? "("
  let source ← if isQuery then do
      let query ← level.query
      expectSymbol ")"
      pure ("(" ++ query.render ++ ")")
    else do
      let table ← qualifiedName
      let columns ← columnNames?
      pure (table.render ++ (if columns.isEmpty then "" else " (" ++ renderNames columns ++ ")"))
  let direction ← expectOneOf ["FROM", "TO"]
  if isQuery && direction == "FROM" then fail
  let target ← match ← oneOf? ["STDIN", "STDOUT", "PROGRAM"] with
    | some "PROGRAM" => (fun text => "PROGRAM " ++ quoteText '\'' text) <$> textConstant
    | some word => pure word
    | none => quoteText '\'' <$> textConstant
  let _ ← keyword? "WITH"
  let options ← if ← seesSymbol "(" then
      (fun options => " (" ++ commaSeparated options ++ ")") <$>
        inParentheses (commaList copyOption)
    else pure ""
  let older ← many (attempt olderCopyOption)
  if target == "STDIN" then
    expectSymbol ";"
    modify passInlineRows
  pure ("COPY " ++ source ++ " " ++ direction ++ " " ++ target ++ options ++
    String.join (older.map (" " ++ ·)))

/-- The rows that a part of a merge is for. -/
def mergeCase : Reading String := do
  expectKeyword "WHEN"
  if ← keyword? "NOT" then
    expectKeyword "MATCHED"
    if ← keywords? ["BY", "SOURCE"] then pure "NOT MATCHED BY SOURCE"
    else ("NOT MATCHED" ++ ·) <$> wordIf (keywords? ["BY", "TARGET"]) " BY TARGET"
  else
    expectKeyword "MATCHED"
    pure "MATCHED"

/-- What a merge does to the rows of a part: rows that are missing are inserted, others are changed
or removed. -/
def mergeAction (level : Level) (missing : Bool) : Reading String := do
  if missing then
    expectKeyword "INSERT"
    let columns ← columnNames?
    expectKeyword "VALUES"
    let rows ← valueRows level
    let list := if columns.isEmpty then "" else "(" ++ renderNames columns ++ ") "
    pure ("INSERT " ++ list ++ rows.render)
  else
    match ← expectOneOf ["UPDATE", "DELETE"] with
    | "UPDATE" =>
      expectKeyword "SET"
      (fun assignments => "UPDATE SET " ++ renderAssignments assignments) <$>
        commaList (assignment level)
    | word => pure word

/-- A part of a merge, unless the statement ends. -/
def mergeClause (level : Level) : Reading (Option String) := do
  if (← get).isEmpty || (← seesSymbol ";") then pure none
  else
    let rows ← mergeCase
    let condition ← if ← keyword? "AND" then (" AND " ++ ·) <$> level.exprText else pure ""
    expectKeyword "THEN"
    let action ← mergeAction level (rows == "NOT MATCHED" || rows == "NOT MATCHED BY TARGET")
    pure (some (" WHEN " ++ rows ++ condition ++ " THEN " ++ action))

/-- A merge of a relation into another, behind the first word. -/
def mergeText (level : Level) : Reading String := do
  let into ← wordIf (keyword? "INTO") " INTO"
  let factor : Reading Factor := do factorWithin level ((← get).length + 1)
  let table ← factor
  expectKeyword "USING"
  let rows ← factor
  expectKeyword "ON"
  let condition ← level.exprText
  let clauses ← many (mergeClause level)
  pure ("MERGE" ++ into ++ " " ++ table.render ++ " USING " ++ rows.render ++ " ON " ++ condition ++
    String.join clauses)

/-- A statement that moves many rows, whose first word was taken; none if it is no first word of
one. -/
def transferText (level : Level) : String → Option (Reading String)
  | "COPY" => some (copyText level)
  | "MERGE" => some (mergeText level)
  | _ => none

end SchemaDrift.Sql.Grammar
