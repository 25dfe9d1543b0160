import SchemaDrift.Sql.Grammar.Query

namespace SchemaDrift.Sql.Grammar

/-- The parts that say when a constraint is checked. -/
def characteristic : Reading (Option (Nat × String)) := do
  if ← keywords? ["NOT", "DEFERRABLE"] then pure (some (0, " NOT DEFERRABLE"))
  else if ← keyword? "DEFERRABLE" then pure (some (0, " DEFERRABLE"))
  else if ← keyword? "INITIALLY" then
    pure (some (1, " INITIALLY " ++ (← expectOneOf ["DEFERRED", "IMMEDIATE"])))
  else if ← keyword? "ENFORCED" then pure (some (2, " ENFORCED"))
  else if ← keywords? ["NOT", "ENFORCED"] then pure (some (2, " NOT ENFORCED"))
  else pure none

/-- When a constraint is checked. -/
def characteristics : Reading String := do
  let parts ← many characteristic
  pure (String.join ([0, 1, 2].map fun slot => ((parts.find? (·.1 == slot)).map (·.2)).getD ""))

/-- What happens to rows that refer to a changed row. -/
def referentialAction : Reading String := do
  if ← keywords? ["SET", "NULL"] then pure "SET NULL"
  else if ← keywords? ["SET", "DEFAULT"] then pure "SET DEFAULT"
  else if ← keywords? ["NO", "ACTION"] then pure "NO ACTION"
  else expectOneOf ["RESTRICT", "CASCADE"]

/-- What happens to rows that refer to a changed row, for each kind of change. -/
def referentialActions : Reading String := do
  let action : Reading (Option (Nat × String)) := do
    if ← keywords? ["ON", "DELETE"] then pure (some (0, " ON DELETE " ++ (← referentialAction)))
    else if ← keywords? ["ON", "UPDATE"] then
      pure (some (1, " ON UPDATE " ++ (← referentialAction)))
    else pure none
  let actions ← many action
  pure (String.join ([0, 1].map fun slot => ((actions.find? (·.1 == slot)).map (·.2)).getD ""))

def signedNumber : Reading String := do
  let sign ← wordIf (symbol? "-") "-"
  match ← next with
  | .number text _ => pure (sign ++ text)
  | _ => fail

def sequenceOptions : Reading String := do
  let increment ← if ← keyword? "INCREMENT" then do
      let link ← wordIf (keyword? "BY") "BY "
      pure (" INCREMENT " ++ link ++ (← signedNumber))
    else pure ""
  let bound (word : String) : Reading String := do
    if ← keyword? word then pure (" " ++ word ++ " " ++ (← signedNumber))
    else wordIf (keywords? ["NO", word]) (" NO " ++ word)
  let minimum ← bound "MINVALUE"
  let maximum ← bound "MAXVALUE"
  let start ← if ← keyword? "START" then do
      let link ← wordIf (keyword? "WITH") "WITH "
      pure (" START " ++ link ++ (← signedNumber))
    else pure ""
  let cache ← if ← keyword? "CACHE" then (" CACHE " ++ ·) <$> signedNumber else pure ""
  let cycle ← if ← keywords? ["NO", "CYCLE"] then pure " NO CYCLE"
    else wordIf (keyword? "CYCLE") " CYCLE"
  pure (increment ++ minimum ++ maximum ++ start ++ cache ++ cycle)

/-- The options of a sequence of numbers in parentheses, or nothing. -/
def sequenceOptions? : Reading String := do
  if ← symbol? "(" then
    let options ← sequenceOptions
    expectSymbol ")"
    pure (if options.isEmpty then "" else " (" ++ options ++ " )")
  else pure ""

/-- A column that the database computes, behind the first word. -/
def generated (level : Level) : Reading (Option ColumnOption) := do
  if ← keywords? ["ALWAYS", "AS", "IDENTITY"] then
    pure (some (.other ("GENERATED ALWAYS AS IDENTITY" ++ (← sequenceOptions?))))
  else if ← keywords? ["BY", "DEFAULT", "AS", "IDENTITY"] then
    pure (some (.other ("GENERATED BY DEFAULT AS IDENTITY" ++ (← sequenceOptions?))))
  else if ← keywords? ["ALWAYS", "AS"] then
    if ← symbol? "(" then
      let expr ← level.exprText
      expectSymbol ")"
      let storage ← if ← keyword? "STORED" then pure " STORED"
        else if level.dialect == .postgres then fail
        else wordIf (keyword? "VIRTUAL") " VIRTUAL"
      pure (some (.other ("GENERATED ALWAYS AS (" ++ expr ++ ")" ++ storage)))
    else pure none
  else pure none

/-- The tables that a column refers to, behind the first word. -/
def reference : Reading ColumnOption := do
  let table ← qualifiedName
  let columns ← columnNames?
  let actions ← referentialActions
  let tail ← characteristics
  let list := if columns.isEmpty then "" else " (" ++ renderNames columns ++ ")"
  pure (.other ("REFERENCES " ++ table.render ++ list ++ actions ++ tail))

/-- The rest of a word list that no statement of the dialect needs: the words are passed over. -/
def passedOver : Reading Unit := do
  for word in ["AUTO_INCREMENT", "AUTOINCREMENT", "ASC", "DESC"] do
    let _ ← keyword? word
  let _ ← keywords? ["ON", "UPDATE"]

/-- An option of a column that one dialect adds. -/
def genericOption (level : Level) : Reading (Option ColumnOption) := do
  match ← oneOf? ["AUTO_INCREMENT", "AUTOINCREMENT", "ASC", "DESC"] with
  | some word => pure (some (.other word))
  | none =>
    if ← keywords? ["ON", "UPDATE"] then
      pure (some (.other ("ON UPDATE " ++ (← level.exprText))))
    else if ← keyword? "GENERATED" then generated level
    else if ← keyword? "IDENTITY" then pure (some (.other "IDENTITY"))
    else if ← keyword? "COLLATE" then
      pure (some (.other ("COLLATE " ++ (← qualifiedName).render)))
    else pure none

def columnOption (level : Level) : Reading (Option ColumnOption) := do
  if ← keywords? ["CHARACTER", "SET"] then
    pure (some (.other ("CHARACTER SET " ++ (← qualifiedName).render)))
  else if ← keywords? ["NOT", "NULL"] then pure (some .notNull)
  else if ← keyword? "COMMENT" then
    match ← next with
    | .text .plain value => pure (some (.other ("COMMENT " ++ quoteText '\'' value)))
    | _ => fail
  else if ← keyword? "NULL" then pure (some (.other "NULL"))
  else if ← keyword? "DEFAULT" then (fun value => some (.default value)) <$> level.expr
  else if ← keywords? ["PRIMARY", "KEY"] then
    (fun tail => some (.unique true tail)) <$> characteristics
  else if ← keyword? "UNIQUE" then (fun tail => some (.unique false tail)) <$> characteristics
  else if ← keyword? "REFERENCES" then some <$> reference
  else if ← keyword? "CHECK" then
    let condition ← inParentheses level.exprText
    pure (some (.other ("CHECK (" ++ condition ++ ")")))
  else if level.dialect == .generic then genericOption level
  else
    passedOver
    if ← keyword? "GENERATED" then generated level
    else
      for word in ["AS", "IDENTITY"] do
        let _ ← keyword? word
      pure none

/-- An option of a column with its name, if it has one. -/
def namedOption (level : Level) : Reading (Option (Option Name × ColumnOption)) := do
  if ← keyword? "CONSTRAINT" then
    let label ← name
    match ← columnOption level with
    | some option => pure (some (some label, option))
    | none => fail
  else
    match ← columnOption level with
    | some option => pure (some (none, option))
    | none => pure none

def column (level : Level) : Reading ColumnDeclaration := do
  let label ← name
  let type ← dataType
  let collation ← if ← keyword? "COLLATE" then
      (fun collation => " COLLATE " ++ collation.render) <$> qualifiedName
    else pure ""
  pure ⟨label, type, collation, ← many (namedOption level)⟩

/-- How an index is built, behind `USING`. -/
def indexMethod? : Reading String := do
  if ← keyword? "USING" then (" USING " ++ ·) <$> expectOneOf ["BTREE", "HASH"] else pure ""

/-- The name of an index before its columns. -/
def indexLabel? : Reading String := do
  match ← get with
  | .word text quote :: rest =>
    if quote.isNone && Text.upperString text == "USING" then pure ""
    else do
      set rest
      pure (" " ++ (Name.mk text quote).render)
  | _ => pure ""

/-- A reference of a table to another, behind the first word. -/
def foreignKey (lead : String) : Reading ConstraintDeclaration := do
  expectKeyword "KEY"
  let columns ← columnNames
  expectKeyword "REFERENCES"
  let table ← qualifiedName
  let referred ← columnNames?
  let actions ← referentialActions
  let tail ← characteristics
  let list := if referred.isEmpty then "" else "(" ++ renderNames referred ++ ")"
  pure (.other (lead ++ "FOREIGN KEY (" ++ renderNames columns ++ ") REFERENCES " ++ table.render ++
    list ++ actions ++ tail))

/-- A constraint of a table, if one follows. -/
def constraint? (level : Level) : Reading (Option ConstraintDeclaration) := do
  let label ← afterKeyword? "CONSTRAINT" name
  let lead := renderConstraintName label
  if ← keyword? "UNIQUE" then
    let kind ← oneOf? ["KEY", "INDEX"]
    if kind.isSome && level.dialect == .postgres then fail
    let nulls ← if ← keywords? ["NULLS", "DISTINCT"] then pure " NULLS DISTINCT"
      else wordIf (keywords? ["NULLS", "NOT", "DISTINCT"]) " NULLS NOT DISTINCT"
    let index ← indexLabel?
    let method ← indexMethod?
    let columns ← columnNames
    let tail ← characteristics
    pure (some (.other (lead ++ "UNIQUE" ++ nulls ++ (kind.map (" " ++ ·)).getD "" ++ index ++
      method ++ " (" ++ renderNames columns ++ ")" ++ tail)))
  else if ← keyword? "PRIMARY" then
    expectKeyword "KEY"
    let index ← indexLabel?
    let method ← indexMethod?
    let columns ← columnNames
    pure (some (.primaryKey label (index ++ method) columns (← characteristics)))
  else if ← keyword? "FOREIGN" then some <$> foreignKey lead
  else if ← keyword? "CHECK" then
    let condition ← inParentheses level.exprText
    pure (some (.other (lead ++ "CHECK (" ++ condition ++ ")")))
  else if label.isSome then fail
  else pure none

/-- A column or a constraint in the list of a table; `fuel` bounds the length of the list. -/
def tableItemsWithin (level : Level) :
    Nat → Reading (List (ColumnDeclaration ⊕ ConstraintDeclaration))
  | 0 => fail
  | fuel + 1 => do
    let item ← match ← constraint? level with
      | some constraint => pure (.inr constraint)
      | none =>
        let isWord ← looksAt 0 fun token => match token with
          | .word _ _ => true
          | _ => false
        if isWord then .inl <$> column level else fail
    if ← symbol? "," then pure (item :: (← tableItemsWithin level fuel))
    else
      expectSymbol ")"
      pure [item]

/-- The columns and constraints of a table in parentheses, or nothing. -/
def tableItems (level : Level) : Reading (List ColumnDeclaration × List ConstraintDeclaration) := do
  if ← symbol? "(" then
    if ← symbol? ")" then pure ([], [])
    else
      let items ← tableItemsWithin level ((← get).length + 1)
      let columns := items.filterMap fun item => match item with
        | .inl column => some column
        | .inr _ => none
      let constraints := items.filterMap fun item => match item with
        | .inl _ => none
        | .inr constraint => some constraint
      pure (columns, constraints)
  else pure ([], [])

/-- A word behind an equals sign. -/
def settingWord : Reading String := do
  expectSymbol "="
  match ← next with
  | .word text _ => pure text
  | _ => fail

/-- The storage options of a table, behind `WITH`. -/
def storageOptions (level : Level) : Reading String := do
  if ← keyword? "WITH" then
    let options ← inParentheses (commaList do
      let label ← name
      expectSymbol "="
      pure (label.render ++ " = " ++ (← level.exprText)))
    pure (" WITH (" ++ commaSeparated options ++ ")")
  else pure ""

/-- What happens to a temporary table at the end of a transaction. -/
def commitAction : Reading String := do
  if ← keywords? ["ON", "COMMIT"] then
    if ← keywords? ["DELETE", "ROWS"] then pure " ON COMMIT DELETE ROWS"
    else if ← keywords? ["PRESERVE", "ROWS"] then pure " ON COMMIT PRESERVE ROWS"
    else do
      expectKeyword "DROP"
      pure " ON COMMIT DROP"
  else pure ""

/-- What may follow the columns of a table, and whether it gives the table columns of its own. -/
def tableTail (level : Level) : Reading (String × Bool) := do
  let plain ← wordIf (keywords? ["WITHOUT", "ROWID"]) " WITHOUT ROWID"
  let options ← storageOptions level
  let engine ← if ← keyword? "ENGINE" then (" ENGINE=" ++ ·) <$> settingWord else pure ""
  let offset ← if ← keyword? "AUTO_INCREMENT" then do
      let _ ← symbol? "="
      pure (" AUTO_INCREMENT " ++ toString (← wholeNumber))
    else pure ""
  let partition ← if level.dialect == .postgres then
      if ← keywords? ["PARTITION", "BY"] then (" PARTITION BY " ++ ·) <$> level.exprText
      else pure ""
    else pure ""
  let charset ← if ← keywords? ["DEFAULT", "CHARSET"] then
      (" DEFAULT CHARSET=" ++ ·) <$> settingWord
    else pure ""
  let collation ← if ← keyword? "COLLATE" then (" COLLATE=" ++ ·) <$> settingWord else pure ""
  let commit ← commitAction
  let strict ← wordIf (keyword? "STRICT") " STRICT"
  let rows ← afterKeyword? "AS" level.query
  pure (plain ++ options ++ engine ++ offset ++ partition ++ charset ++ collation ++ commit ++
    strict ++ (rows.map fun query => " AS " ++ query.render).getD "", rows.isSome)

/-- The definition of a table behind its first words. -/
def createTable (level : Level) (lead : String) : Reading Statement := do
  let guarded ← keywords? ["IF", "NOT", "EXISTS"]
  let table ← qualifiedName
  let model ← if (← keyword? "LIKE") || (← keyword? "ILIKE") then
      (fun model => " LIKE " ++ model.render) <$> qualifiedName
    else pure ""
  let (columns, constraints) ← tableItems level
  let (tail, hasRows) ← tableTail level
  let isBare := columns.isEmpty && constraints.isEmpty && model.isEmpty && !hasRows
  let empty := if isBare then " ()" else ""
  pure (.createTable lead guarded table columns constraints (empty ++ model ++ tail))

def indexColumn (level : Level) : Reading IndexColumn := do
  let expr ← level.expr
  pure ⟨expr, ← orderText⟩

/-- What may follow the columns of an index. -/
def indexTail (level : Level) : Reading String := do
  let included ← if ← keyword? "INCLUDE" then
      (fun names => " INCLUDE (" ++ Text.joinStrings "," (names.map Name.render) ++ ")") <$>
        columnNames
    else pure ""
  let nulls ← if ← keyword? "NULLS" then do
      let negation ← wordIf (keyword? "NOT") "NOT "
      expectKeyword "DISTINCT"
      pure (" NULLS " ++ negation ++ "DISTINCT")
    else pure ""
  let options ← if ← keyword? "WITH" then
      (fun texts => " WITH (" ++ commaSeparated texts ++ ")") <$>
        inParentheses (commaList level.exprText)
    else pure ""
  pure (included ++ nulls ++ options ++ (← whereText level))

/-- The definition of an index behind its first words. -/
def createIndex (level : Level) (unique : Bool) : Reading Statement := do
  let concurrent ← keyword? "CONCURRENTLY"
  let guarded ← keywords? ["IF", "NOT", "EXISTS"]
  let label ← if !guarded && (← keyword? "ON") then pure none
    else do
      let label ← qualifiedName
      expectKeyword "ON"
      pure (some label)
  let table ← qualifiedName
  let method ← afterKeyword? "USING" name
  let columns ← inParentheses (commaList (indexColumn level))
  pure (.createIndex unique concurrent guarded label table method columns (← indexTail level))

/-- An added column or constraint, behind the first word. -/
def addition (level : Level) : Reading TableChange := do
  match ← constraint? level with
  | some constraint => pure (.other ("ADD " ++ constraint.render))
  | none =>
    let early ← keywords? ["IF", "NOT", "EXISTS"]
    let word ← wordIf (keyword? "COLUMN") " COLUMN"
    let late ← keywords? ["IF", "NOT", "EXISTS"]
    pure (.addColumn word (late || early) (← column level))

/-- A new name, behind the first word. -/
def newLabel (level : Level) : Reading TableChange := do
  let pair (lead : String) : Reading TableChange := do
    let before ← name
    expectKeyword "TO"
    pure (.other (lead ++ before.render ++ " TO " ++ (← name).render))
  if level.dialect == .postgres && (← keyword? "CONSTRAINT") then pair "RENAME CONSTRAINT "
  else if ← keyword? "TO" then pure (.other ("RENAME TO " ++ (← qualifiedName).render))
  else
    let _ ← keyword? "COLUMN"
    pair "RENAME COLUMN "

/-- A removal, behind the first word. -/
def removal : Reading TableChange := do
  let what ← if ← keyword? "CONSTRAINT" then pure "CONSTRAINT"
    else do
      let _ ← keyword? "COLUMN"
      pure "COLUMN"
  let guarded ← wordIf (keywords? ["IF", "EXISTS"]) "IF EXISTS "
  let label ← name
  let cascade ← wordIf (keyword? "CASCADE") " CASCADE"
  pure (.other ("DROP " ++ what ++ " " ++ guarded ++ label.render ++ cascade))

/-- A change of a column, behind the first word. -/
def columnChange (level : Level) : Reading TableChange := do
  let _ ← keyword? "COLUMN"
  let label ← name
  let other (text : String) : TableChange := .other ("ALTER COLUMN " ++ label.render ++ " " ++ text)
  let isPostgres := level.dialect == .postgres
  if ← keywords? ["SET", "NOT", "NULL"] then pure (other "SET NOT NULL")
  else if ← keywords? ["DROP", "NOT", "NULL"] then pure (other "DROP NOT NULL")
  else if ← keywords? ["SET", "DEFAULT"] then pure (other ("SET DEFAULT " ++ (← level.exprText)))
  else if ← keywords? ["DROP", "DEFAULT"] then pure (other "DROP DEFAULT")
  else if (← keywords? ["SET", "DATA", "TYPE"])
      || (← if isPostgres then keyword? "TYPE" else pure false) then
    let type ← dataType
    let conversion ← if isPostgres then afterKeyword? "USING" level.expr else pure none
    pure (.setType label type conversion)
  else
    expectKeywords ["ADD", "GENERATED"]
    let moment ← if ← keyword? "ALWAYS" then pure " ALWAYS"
      else wordIf (keywords? ["BY", "DEFAULT"]) " BY DEFAULT"
    expectKeywords ["AS", "IDENTITY"]
    pure (other ("ADD GENERATED" ++ moment ++ " AS IDENTITY" ++ (← sequenceOptions?)))

/-- A rule or trigger that is switched on or off, behind the first word. -/
def switching (word : String) : Reading TableChange := do
  if ← keywords? ["ROW", "LEVEL", "SECURITY"] then pure (.other (word ++ " ROW LEVEL SECURITY"))
  else
    let mode ← if word == "ENABLE" then oneOf? ["ALWAYS", "REPLICA"] else pure none
    let kind ← expectOneOf ["RULE", "TRIGGER"]
    pure (.other (word ++ (mode.map (" " ++ ·)).getD "" ++ " " ++ kind ++ " " ++ (← name).render))

def tableChange (level : Level) : Reading TableChange := do
  match ← oneOf? ["ADD", "RENAME", "DISABLE", "ENABLE", "DROP", "ALTER", "OWNER"] with
  | some "ADD" => addition level
  | some "RENAME" => newLabel level
  | some "DISABLE" => switching "DISABLE"
  | some "ENABLE" => switching "ENABLE"
  | some "DROP" => removal
  | some "ALTER" => columnChange level
  | some "OWNER" =>
    expectKeyword "TO"
    pure (.other ("OWNER TO " ++ (← name).render))
  | _ => fail

/-- The changes of a table behind the first words. -/
def alterTable (level : Level) : Reading Statement := do
  let guarded ← wordIf (keywords? ["IF", "EXISTS"]) "IF EXISTS "
  let only ← wordIf (keyword? "ONLY") "ONLY "
  let table ← qualifiedName
  pure (.alterTable (guarded ++ only) table (← commaList (tableChange level)))

end SchemaDrift.Sql.Grammar
