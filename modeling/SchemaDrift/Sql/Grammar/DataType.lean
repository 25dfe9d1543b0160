import SchemaDrift.Sql.Grammar.Basic

namespace SchemaDrift.Sql.Grammar

/-- Data types of a name of the user's own are told from those that the language defines. -/
inductive DataTypeClass where
  | interval
  | custom
  | standard
  deriving DecidableEq

/-- A number in parentheses behind the name of a type, or nothing. -/
def precision? : Reading String := do
  if ← symbol? "(" then
    let digits ← wholeNumber
    expectSymbol ")"
    pure ("(" ++ toString digits ++ ")")
  else pure ""

/-- One or two numbers in parentheses behind the name of a type, or nothing. -/
def precisionAndScale? : Reading String := do
  if ← symbol? "(" then
    let precision ← wholeNumber
    let scale ← if ← symbol? "," then (fun scale => "," ++ toString scale) <$> wholeNumber
      else pure ""
    expectSymbol ")"
    pure ("(" ++ toString precision ++ scale ++ ")")
  else pure ""

/-- The length of a character type in parentheses, or nothing. -/
def characterLength? : Reading String := do
  if ← symbol? "(" then
    if ← keyword? "MAX" then
      expectSymbol ")"
      pure "(MAX)"
    else
      let length ← wholeNumber
      let unit ← oneOf? ["CHARACTERS", "OCTETS"]
      expectSymbol ")"
      pure ("(" ++ toString length ++ (match unit with
        | some unit => " " ++ unit
        | none => "") ++ ")")
  else pure ""

/-- The mark of a time zone behind a type of time, or nothing. -/
def timeZone? : Reading String := do
  if ← keyword? "WITH" then
    expectKeywords ["TIME", "ZONE"]
    pure " WITH TIME ZONE"
  else if ← keyword? "WITHOUT" then
    expectKeywords ["TIME", "ZONE"]
    pure " WITHOUT TIME ZONE"
  else pure ""

/-- The modifiers of a type of the user's own, up to the closing parenthesis. -/
def modifiersWithin : Nat → Reading (List String)
  | 0 => fail
  | fuel + 1 => do
    match ← next with
    | .word text quote => pure ((Name.mk text quote).render :: (← modifiersWithin fuel))
    | .number text _ => pure (text :: (← modifiersWithin fuel))
    | .text .plain value => pure (value :: (← modifiersWithin fuel))
    | .symbol "," => modifiersWithin fuel
    | .symbol ")" => pure []
    | _ => fail

/-- A type of the user's own. -/
def customType : Reading String := do
  let name ← qualifiedName
  if ← symbol? "(" then
    match ← modifiersWithin ((← get).length + 1) with
    | [] => pure name.render
    | modifiers => pure (name.render ++ "(" ++ commaSeparated modifiers ++ ")")
  else pure name.render

/-- The texts of an enumerated type. -/
def textConstants : Reading String := do
  let values ← inParentheses (commaList do
    match ← next with
    | .text .plain value => pure (quoteText '\'' value)
    | _ => fail)
  pure ("(" ++ commaSeparated values ++ ")")

def plainTypes : List String :=
  ["BOOLEAN", "BOOL", "REAL", "FLOAT4", "FLOAT32", "FLOAT64", "FLOAT8", "INT16", "INT32", "INT64",
    "INT128", "INT256", "UINT8", "UINT16", "UINT32", "UINT64", "UINT128", "UINT256", "TINYBLOB",
    "MEDIUMBLOB", "LONGBLOB", "UUID", "DATE", "DATE32", "JSON", "JSONB", "REGCLASS", "TEXT",
    "TINYTEXT", "MEDIUMTEXT", "LONGTEXT", "BYTEA", "TRIGGER"]

/-- The types of whole numbers, which may have a width and be unsigned. -/
def wholeTypes : List String :=
  ["TINYINT", "INT2", "SMALLINT", "MEDIUMINT", "INT", "INT4", "INT8", "INTEGER", "BIGINT"]

/-- The types that may have one number. -/
def measuredTypes : List String :=
  ["FLOAT", "CLOB", "BINARY", "VARBINARY", "BLOB", "BYTES", "DATETIME", "STRING"]

/-- The types that may have a precision and a scale. -/
def exactTypes : List String := ["NUMERIC", "DECIMAL", "DEC", "BIGNUMERIC", "BIGDECIMAL"]

/-- The rest of a type whose first word was taken. -/
def typeAfter (word : String) (array : Reading String) : Reading String := do
  if plainTypes.contains word then pure word
  else if wholeTypes.contains word then
    let width ← precision?
    let unsigned ← wordIf (keyword? "UNSIGNED") " UNSIGNED"
    pure (word ++ width ++ unsigned)
  else if measuredTypes.contains word then pure (word ++ (← precision?))
  else if exactTypes.contains word then pure (word ++ (← precisionAndScale?))
  else match word with
    | "DOUBLE" => if ← keyword? "PRECISION" then pure "DOUBLE PRECISION" else pure "DOUBLE"
    | "VARCHAR" | "NVARCHAR" => pure (word ++ (← characterLength?))
    | "CHARACTER" | "CHAR" =>
      if ← keyword? "VARYING" then pure (word ++ " VARYING" ++ (← characterLength?))
      else if ← keywords? ["LARGE", "OBJECT"] then
        pure (word ++ " LARGE OBJECT" ++ (← precision?))
      else pure (word ++ (← characterLength?))
    | "BIT" =>
      if ← keyword? "VARYING" then pure ("BIT VARYING" ++ (← precision?))
      else pure ("BIT" ++ (← precision?))
    | "TIMESTAMP" | "TIME" =>
      let digits ← precision?
      pure (word ++ digits ++ (← timeZone?))
    | "TIMESTAMPTZ" | "TIMETZ" => pure (word ++ (← precision?))
    | "ENUM" | "SET" => pure (word ++ (← textConstants))
    | "ARRAY" => array
    | _ => fail

/-- The first words of the types that the language defines. -/
def typeWords : List String :=
  plainTypes ++ wholeTypes ++ measuredTypes ++ exactTypes ++
    ["DOUBLE", "VARCHAR", "NVARCHAR", "CHARACTER", "CHAR", "BIT", "TIMESTAMP", "TIME",
      "TIMESTAMPTZ", "TIMETZ", "ENUM", "SET", "ARRAY"]

/-- The brackets of an array type behind the type of its elements. -/
def arrayBrackets : Reading (Option String) := do
  if ← symbol? "[" then
    let size ← attempt wholeNumber
    expectSymbol "]"
    pure (some ("[" ++ (size.map toString).getD "" ++ "]"))
  else pure none

/-- A data type and its class; `fuel` bounds the nesting of arrays in angle brackets. -/
def dataTypeWithin : Nat → Reading (DataTypeClass × String)
  | 0 => fail
  | fuel + 1 => do
    let tokens ← get
    let (kind, text) ← match ← next with
      | .word spelling quote =>
        let word := Text.upperString spelling
        if quote.isNone && word == "INTERVAL" then pure (DataTypeClass.interval, "INTERVAL")
        else if quote.isNone && typeWords.contains word then
          let array : Reading String := do
            expectSymbol "<"
            let (_, inner) ← dataTypeWithin fuel
            expectSymbol ">"
            pure ("ARRAY<" ++ inner ++ ">")
          pure (DataTypeClass.standard, ← typeAfter word array)
        else
          set tokens
          pure (DataTypeClass.custom, ← customType)
      | _ => fail
    let brackets ← many arrayBrackets
    if brackets.isEmpty then pure (kind, text)
    else pure (DataTypeClass.standard, text ++ String.join brackets)

def classifiedDataType : Reading (DataTypeClass × String) := do
  dataTypeWithin ((← get).length + 1)

/-- The canonical text of a data type. -/
def dataType : Reading String := do pure (← classifiedDataType).2

end SchemaDrift.Sql.Grammar
