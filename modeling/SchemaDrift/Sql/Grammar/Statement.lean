import SchemaDrift.Sql.Grammar.Transfer

namespace SchemaDrift.Sql

namespace Grammar

/-- A definition behind its first word. -/
def create (level : Level) : Reading Statement := do
  let replaces ← keywords? ["OR", "REPLACE"]
  let replace := if replaces then "OR REPLACE " else ""
  let «local» ← keyword? "LOCAL"
  let global ← keyword? "GLOBAL"
  let scope := if global then "GLOBAL " else if «local» then "LOCAL " else ""
  let transient ← wordIf (keyword? "TRANSIENT") "TRANSIENT "
  let temporary ← wordIf (Option.isSome <$> oneOf? ["TEMP", "TEMPORARY"]) "TEMPORARY "
  if ← keyword? "TABLE" then createTable level (replace ++ scope ++ temporary ++ transient)
  else if !replaces && (← keyword? "INDEX") then createIndex level false
  else if !replaces && (← keywords? ["UNIQUE", "INDEX"]) then createIndex level true
  else .other <$> definitionText level (replace ++ temporary) replaces

/-- A change of a definition behind its first word. -/
def alter (level : Level) : Reading Statement := do
  match ← expectOneOf ["TABLE", "INDEX", "VIEW"] with
  | "TABLE" => alterTable level
  | "INDEX" =>
    let index ← qualifiedName
    expectKeywords ["RENAME", "TO"]
    pure (.other ("ALTER INDEX " ++ index.render ++ " RENAME TO " ++ (← qualifiedName).render))
  | _ =>
    let view ← qualifiedName
    let columns ← columnNames?
    let options ← storageOptions level
    expectKeyword "AS"
    let query ← level.query
    let list := if columns.isEmpty then "" else " (" ++ renderNames columns ++ ")"
    pure (.other ("ALTER VIEW " ++ view.render ++ list ++ options ++ " AS " ++ query.render))

def startsQuery : Reading Bool := do
  pure ((← seesQuery) || (← seesKeyword "VALUES") || (← seesSymbol "("))

/-- A statement; `nested` reads a statement inside another one. -/
def statement (level : Level) (nested : Reading Statement) : Reading Statement := do
  if ← startsQuery then .query <$> level.query
  else
    match ← next with
    | .word text none =>
      match Text.upperString text with
      | "INSERT" => insert level
      | "UPDATE" => update level
      | "CREATE" => create level
      | "ALTER" => alter level
      | word =>
        let kinds := [administration level, sessionText level nested, transferText level]
        match kinds.findSome? (· word) with
        | some text => .other <$> text
        | none => fail
    | _ => fail

/-- A statement nested in at most `depth` others, with the expressions and queries in it. -/
def statementOf (dialect : Dialect) : Nat → Reading Statement
  | 0 => throw .nestingTooDeep
  | depth + 1 => statement (levelOf dialect depth) (statementOf dialect depth)

/-- The depth to which a statement may be nested, with itself. -/
def maximumDepth : Nat := 50

/-- Takes the separators at the front and says whether there were any. -/
def separators : Reading Bool := do
  let marks ← many do if ← symbol? ";" then pure (some ()) else pure none
  pure !marks.isEmpty

/-- The statements that are left, of which one may follow another only after a separator. A closing
word behind a statement ends the list. `fuel` bounds the number of statements. -/
def statementsWithin (dialect : Dialect) : Nat → Bool → Reading (List Statement)
  | 0, _ => fail
  | fuel + 1, afterStatement => do
    let separated ← separators
    let separate := separated || !afterStatement
    if (← get).isEmpty then pure []
    else if !separate then
      if ← seesKeyword "END" then pure [] else fail
    else
      let first ← statementOf dialect maximumDepth
      pure (first :: (← statementsWithin dialect fuel true))

end Grammar

/-- The statements of a text, in order; none if the text is no list of statements. -/
def Statement.ofText? (dialect : Dialect) (text : List Char) : Option (List Statement) := do
  let tokens ← tokenize dialect text
  match Grammar.statementsWithin dialect (tokens.length + 1) false tokens with
  | .ok (statements, _) => some statements
  | .error _ => none

end SchemaDrift.Sql
