import SchemaDrift.Sql.Tree

namespace SchemaDrift.Sql

/-- The body of a quoted text: a quote is written twice, unless it already stands twice or follows
a backslash. -/
def escapeQuote (quote : Char) (afterBackslash : Bool) : List Char → List Char
  | [] => []
  | c :: rest =>
    if c == quote then
      if afterBackslash then c :: escapeQuote quote true rest
      else match rest with
        | d :: more =>
          if d == quote then c :: c :: escapeQuote quote false more
          else c :: c :: escapeQuote quote false (d :: more)
        | [] => [c, c]
    else c :: escapeQuote quote (c == '\\') rest

/-- A text between quotes. -/
def quoteText (quote : Char) (text : String) : String :=
  String.ofList (quote :: escapeQuote quote false text.toList ++ [quote])

def escapeBackslashes (text : String) : String :=
  String.ofList <| text.toList.flatMap fun c =>
    if c == '\'' || c == '\\' then ['\\', c]
    else if c == '\n' then ['\\', 'n']
    else if c == '\t' then ['\\', 't']
    else if c == '\r' then ['\\', 'r']
    else [c]

/-- The upper-case hexadecimal digits of a number, padded with zeros. -/
def paddedHex (width n : Nat) : List Char :=
  let digits := (Nat.toDigits 16 n).map Text.upperAscii
  List.replicate (width - digits.length) '0' ++ digits

def escapeCodePoints (text : String) : String :=
  String.ofList <| text.toList.flatMap fun c =>
    if c == '\'' then ['\'', '\'']
    else if c == '\\' then ['\\', '\\']
    else if c.toNat < 128 then [c]
    else if c.toNat ≤ 0xFFFF then '\\' :: paddedHex 4 c.toNat
    else '\\' :: '+' :: paddedHex 6 c.toNat

/-- A text in the form that it was written in. -/
def TextForm.render (form : TextForm) (value : String) : String :=
  match form with
  | .plain => quoteText '\'' value
  | .dollar tag => "$" ++ tag ++ "$" ++ value ++ "$" ++ tag ++ "$"
  | .escaped => "E'" ++ escapeBackslashes value ++ "'"
  | .national => "N'" ++ value ++ "'"
  | .unicode => "U&'" ++ escapeCodePoints value ++ "'"
  | .bits => "B'" ++ value ++ "'"
  | .bitsDoubleQuoted => "B\"" ++ value ++ "\""
  | .raw => "R'" ++ value ++ "'"
  | .rawDoubleQuoted => "R\"" ++ value ++ "\""
  | .hex => "X'" ++ value ++ "'"

def Name.render (name : Name) : String :=
  match name.quote with
  | none => name.text
  | some quote => quoteText quote name.text

/-- Texts with a comma between neighbours. -/
def commaSeparated (parts : List String) : String := Text.joinStrings ", " parts

def QualifiedName.render (name : QualifiedName) : String :=
  Text.joinStrings "." (name.map Name.render)

/-- Names with a comma between neighbours. -/
def renderNames (names : List Name) : String := commaSeparated (names.map Name.render)

def Operator.render : Operator → String
  | .equal => "="
  | .notEqual => "<>"
  | .less => "<"
  | .lessOrEqual => "<="
  | .greater => ">"
  | .greaterOrEqual => ">="
  | .other text => text

def Alias.render (label : Alias) : String :=
  label.name.render ++ label.columns

/-- The alias of a relation, behind the relation. -/
def renderAlias (label : Option Alias) : String :=
  match label with
  | none => ""
  | some label => " AS " ++ label.render

/-- The word that denies a test, or nothing. -/
def notWord (negated : Bool) : String := if negated then "NOT " else ""

def renderBranches : List String → List String → String
  | condition :: conditions, result :: results =>
    " WHEN " ++ condition ++ " THEN " ++ result ++ renderBranches conditions results
  | _, _ => ""

/-- The body of a call of a function on the given texts. -/
def renderArgumentList (lead : String) (items : List String) (clauses : String) : String :=
  let separator := if clauses.isEmpty || items.isEmpty then "" else " "
  "(" ++ lead ++ commaSeparated items ++ separator ++ clauses ++ ")"

mutual

def Expr.render : Expr → String
  | .column name => name.render
  | .number text long => text ++ if long then "L" else ""
  | .text form value => form.render value
  | .boolean value => if value then "true" else "false"
  | .null => "NULL"
  | .placeholder text => text
  | .typedText dataType value => dataType ++ " " ++ quoteText '\'' value
  | .binary operator left right => left.render ++ " " ++ operator.render ++ " " ++ right.render
  | .unary .minus operand => "-" ++ operand.render
  | .unary .negation operand => "NOT " ++ operand.render
  | .unary (.mark text) operand => text ++ operand.render
  | .unary .factorial operand => operand.render ++ "!"
  | .nested inner => "(" ++ inner.render ++ ")"
  | .cast .plain operand dataType => "CAST(" ++ operand.render ++ " AS " ++ dataType ++ ")"
  | .cast .trying operand dataType => "TRY_CAST(" ++ operand.render ++ " AS " ++ dataType ++ ")"
  | .cast .safe operand dataType => "SAFE_CAST(" ++ operand.render ++ " AS " ++ dataType ++ ")"
  | .cast .doubleColon operand dataType => operand.render ++ "::" ++ dataType
  | .inList operand negated items =>
    operand.render ++ " " ++ notWord negated ++ "IN (" ++ commaSeparated (renderExprs items) ++ ")"
  | .inQuery operand negated query =>
    operand.render ++ " " ++ notWord negated ++ "IN (" ++ query.render ++ ")"
  | .anyOf operator word operand (.subquery query) =>
    operand.render ++ " " ++ operator.render ++ " " ++ word ++ "(" ++ query.render ++ ")"
  | .anyOf operator word operand right =>
    operand.render ++ " " ++ operator.render ++ " " ++ word ++ "(" ++ right.render ++ ")"
  | .between operand negated low high =>
    operand.render ++ " " ++ notWord negated ++ "BETWEEN " ++ low.render ++ " AND " ++ high.render
  | .like words operand pattern escape =>
    operand.render ++ " " ++ words ++ " " ++ pattern.render ++
      match escape with
      | none => ""
      | some mark => " ESCAPE '" ++ mark ++ "'"
  | .isNull operand negated =>
    operand.render ++ if negated then " IS NOT NULL" else " IS NULL"
  | .choice operand conditions results otherwise =>
    "CASE" ++
      (match operand with
        | none => ""
        | some operand => " " ++ operand.render) ++
      renderBranches (renderExprs conditions) (renderExprs results) ++
      (match otherwise with
        | none => ""
        | some otherwise => " ELSE " ++ otherwise.render) ++
      " END"
  | .call name arguments tail => name.render ++ arguments.render ++ tail
  | .exists negated query => notWord negated ++ "EXISTS (" ++ query.render ++ ")"
  | .subquery query => "(" ++ query.render ++ ")"
  | .tuple items => "(" ++ commaSeparated (renderExprs items) ++ ")"
  | .phrase text => text

def renderExprs : List Expr → List String
  | [] => []
  | expr :: exprs => expr.render :: renderExprs exprs

def Arguments.render : Arguments → String
  | .absent => ""
  | .query query => "(" ++ query.render ++ ")"
  | .list lead items clauses => renderArgumentList lead (renderArguments items) clauses

def renderArguments : List Argument → List String
  | [] => []
  | argument :: arguments => argument.render :: renderArguments arguments

def Argument.render : Argument → String
  | .value expr => expr.render
  | .named name operator expr => name.render ++ " " ++ operator ++ " " ++ expr.render
  | .wildcard text => text

def Query.render : Query → String
  | .mk _ [] body tail => body.render ++ tail
  | .mk recursive (first :: definitions) body tail =>
    "WITH " ++ (if recursive then "RECURSIVE " else "") ++
      commaSeparated (first.render :: renderDefinitions definitions) ++ " " ++ body.render ++ tail

def renderDefinitions : List Definition → List String
  | [] => []
  | definition :: definitions => definition.render :: renderDefinitions definitions

def Definition.render : Definition → String
  | .mk name lead marker query tail =>
    name.render ++ lead ++ " AS " ++ marker ++ "(" ++ query.render ++ ")" ++ tail

def Body.render : Body → String
  | .select select => select.render
  | .query query => "(" ++ query.render ++ ")"
  | .combination words left right => left.render ++ " " ++ words ++ " " ++ right.render
  | .values lead rows => "VALUES " ++ commaSeparated (renderRows lead rows)
  | .phrase text => text

def renderRows (lead : String) : List (List Expr) → List String
  | [] => []
  | row :: rows =>
    (lead ++ "(" ++ commaSeparated (renderExprs row) ++ ")") :: renderRows lead rows

def Select.render : Select → String
  | .mk lead items target sources condition groups groupWord having tail =>
    "SELECT " ++ lead ++ commaSeparated (renderItems items) ++ target ++
      (match sources with
        | [] => ""
        | first :: sources =>
          " FROM " ++ commaSeparated (first.render :: renderSources sources)) ++
      (match condition with
        | none => ""
        | some condition => " WHERE " ++ condition.render) ++
      (match groups with
        | [] => groupWord
        | first :: groups => " GROUP BY " ++ commaSeparated (first.render :: renderExprs groups)) ++
      (match having with
        | none => ""
        | some having => " HAVING " ++ having.render) ++
      tail

def renderItems : List Item → List String
  | [] => []
  | item :: items => item.render :: renderItems items

def Item.render : Item → String
  | .value expr => expr.render
  | .aliased expr label => expr.render ++ " AS " ++ label.render
  | .wildcard text => text

def renderSources : List Source → List String
  | [] => []
  | source :: sources => source.render :: renderSources sources

def Source.render : Source → String
  | .mk factor joins => factor.render ++ renderJoins joins

def renderJoins : List Join → String
  | [] => ""
  | join :: joins => join.render ++ renderJoins joins

def Join.render : Join → String
  | .mk words factor condition => " " ++ words ++ " " ++ factor.render ++ condition.render

def JoinCondition.render : JoinCondition → String
  | .on expr => " ON " ++ expr.render
  | .using names => " USING(" ++ renderNames names ++ ")"
  | .absent => ""

def Factor.render : Factor → String
  | .table name extras label hints => name.render ++ extras ++ renderAlias label ++ hints
  | .derived lateral query label =>
    (if lateral then "LATERAL " else "") ++ "(" ++ query.render ++ ")" ++ renderAlias label
  | .joined source label => "(" ++ source.render ++ ")" ++ renderAlias label
  | .phrase text => text

end

def ColumnOption.render : ColumnOption → String
  | .notNull => "NOT NULL"
  | .default value => "DEFAULT " ++ value.render
  | .unique primary characteristics =>
    (if primary then "PRIMARY KEY" else "UNIQUE") ++ characteristics
  | .other text => text

/-- The name of a constraint, before the constraint. -/
def renderConstraintName (name : Option Name) : String :=
  match name with
  | none => ""
  | some name => "CONSTRAINT " ++ name.render ++ " "

def ColumnDeclaration.render (column : ColumnDeclaration) : String :=
  let type := if column.dataType.isEmpty then "" else " " ++ column.dataType
  column.name.render ++ type ++ column.collation ++
    String.join (column.options.map fun option =>
      " " ++ renderConstraintName option.1 ++ option.2.render)

def ConstraintDeclaration.render : ConstraintDeclaration → String
  | .primaryKey name index columns tail =>
    renderConstraintName name ++ "PRIMARY KEY" ++ index ++ " (" ++ renderNames columns ++ ")" ++
      tail
  | .other text => text

def IndexColumn.render (column : IndexColumn) : String := column.expr.render ++ column.order

def TableChange.render : TableChange → String
  | .addColumn words guarded column =>
    "ADD" ++ words ++ (if guarded then " IF NOT EXISTS" else "") ++ " " ++ column.render
  | .setType column dataType conversion =>
    "ALTER COLUMN " ++ column.render ++ " SET DATA TYPE " ++ dataType ++
      match conversion with
      | none => ""
      | some conversion => " USING " ++ conversion.render
  | .other text => text

def AssignmentTarget.render : AssignmentTarget → String
  | .column name => name.render
  | .tuple names => "(" ++ commaSeparated (names.map QualifiedName.render) ++ ")"

def Assignment.render (assignment : Assignment) : String :=
  assignment.target.render ++ " = " ++ assignment.value.render

/-- Assignments with a comma between neighbours. -/
def renderAssignments (assignments : List Assignment) : String :=
  commaSeparated (assignments.map Assignment.render)

def Statement.render : Statement → String
  | .query inner => inner.render
  | .insert lead table label columns source tail =>
    "INSERT" ++ lead ++ " " ++ table.render ++
      (match label with
        | none => ""
        | some label => " AS " ++ label.render) ++ " " ++
      (if columns.isEmpty then "" else "(" ++ renderNames columns ++ ") ") ++
      (match source with
        | some source => source.render
        | none => if columns.isEmpty then "DEFAULT VALUES" else "") ++
      tail
  | .update lead table assignments source condition returning =>
    "UPDATE " ++ lead ++ table.render ++
      (if assignments.isEmpty then "" else " SET " ++ renderAssignments assignments) ++
      (match source with
        | none => ""
        | some source => " FROM " ++ source.render) ++
      (match condition with
        | none => ""
        | some condition => " WHERE " ++ condition.render) ++
      returning
  | .createTable lead guarded table columns constraints tail =>
    "CREATE " ++ lead ++ "TABLE " ++ (if guarded then "IF NOT EXISTS " else "") ++ table.render ++
      (if columns.isEmpty && constraints.isEmpty then ""
        else " (" ++ commaSeparated (columns.map ColumnDeclaration.render ++
          constraints.map ConstraintDeclaration.render) ++ ")") ++
      tail
  | .createIndex unique concurrent guarded name table method columns tail =>
    "CREATE " ++ (if unique then "UNIQUE " else "") ++ "INDEX " ++
      (if concurrent then "CONCURRENTLY " else "") ++ (if guarded then "IF NOT EXISTS " else "") ++
      (match name with
        | none => ""
        | some name => name.render ++ " ") ++
      "ON " ++ table.render ++
      (match method with
        | none => ""
        | some method => " USING " ++ method.render ++ " ") ++
      "(" ++ Text.joinStrings "," (columns.map IndexColumn.render) ++ ")" ++ tail
  | .alterTable lead table changes =>
    "ALTER TABLE " ++ lead ++ table.render ++ " " ++ commaSeparated (changes.map TableChange.render)
  | .other text => text

end SchemaDrift.Sql
