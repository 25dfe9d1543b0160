import SchemaDrift.Sql.Token

/-
This file holds the tree of a SQL statement. The tree keeps the structure that says which columns a
statement touches; every other construct is kept as its canonical text.
-/

namespace SchemaDrift.Sql

/-- A name as it was written; an unquoted name has no quote. -/
structure Name where
  text : String
  quote : Option Char
  deriving DecidableEq, Inhabited

/-- The name that a written name stands for: a quoted one as it is, another in lower case. -/
def Name.folded (name : Name) : String :=
  if name.quote.isSome then name.text else Text.lowerString name.text

/-- A name with its qualifiers, outermost first. -/
abbrev QualifiedName := List Name

/-- The operators between two expressions; the comparisons are told apart. -/
inductive Operator where
  | equal
  | notEqual
  | less
  | lessOrEqual
  | greater
  | greaterOrEqual
  | other (text : String)
  deriving DecidableEq, Inhabited

inductive UnaryOperator where
  | minus
  | negation
  | mark (text : String)
  | factorial
  deriving DecidableEq, Inhabited

/-- The ways to write a cast. -/
inductive CastForm where
  | plain
  | trying
  | safe
  | doubleColon
  deriving DecidableEq, Inhabited

/-- The name that a relation goes by, with the text of the names of its columns. -/
structure Alias where
  name : Name
  columns : String
  deriving DecidableEq, Inhabited

mutual

/-- An expression. A `phrase` stands for an expression whose parts tell nothing about columns. -/
inductive Expr where
  | column (name : QualifiedName)
  | number (text : String) (long : Bool)
  | text (form : TextForm) (value : String)
  | boolean (value : Bool)
  | null
  | placeholder (text : String)
  | typedText (dataType : String) (value : String)
  | binary (operator : Operator) (left right : Expr)
  | unary (operator : UnaryOperator) (operand : Expr)
  | nested (inner : Expr)
  | cast (form : CastForm) (operand : Expr) (dataType : String)
  | inList (operand : Expr) (negated : Bool) (items : List Expr)
  | inQuery (operand : Expr) (negated : Bool) (query : Query)
  | anyOf (operator : Operator) (word : String) (operand right : Expr)
  | between (operand : Expr) (negated : Bool) (low high : Expr)
  | like (words : String) (operand pattern : Expr) (escape : Option String)
  | isNull (operand : Expr) (negated : Bool)
  | choice (operand : Option Expr) (conditions results : List Expr) (otherwise : Option Expr)
  | call (name : QualifiedName) (arguments : Arguments) (tail : String)
  | exists (negated : Bool) (query : Query)
  | subquery (query : Query)
  | tuple (items : List Expr)
  | phrase (text : String)

/-- The arguments of a function call. A function such as the current date is called without. -/
inductive Arguments where
  | absent
  | query (query : Query)
  | list (lead : String) (items : List Argument) (clauses : String)

/-- An argument of a function call. -/
inductive Argument where
  | value (expr : Expr)
  | named (name : Name) (operator : String) (expr : Expr)
  | wildcard (text : String)

/-- A query: the named queries that it starts with, its body, and the text of its ordering, limits
and locks. -/
inductive Query where
  | mk (recursive : Bool) (definitions : List Definition) (body : Body) (tail : String)

/-- A named query; `lead` is the text of its columns and `marker` of its materialisation. -/
inductive Definition where
  | mk (name : Name) (lead : String) (marker : String) (query : Query) (tail : String)

inductive Body where
  | select (select : Select)
  | query (query : Query)
  | combination (words : String) (left right : Body)
  | values (lead : String) (rows : List (List Expr))
  | phrase (text : String)

/-- A selection: `lead` is the text between the first word and the items, `target` that of a table
to select into, and `tail` that of named windows. -/
inductive Select where
  | mk (lead : String) (items : List Item) (target : String) (sources : List Source)
      (condition : Option Expr) (groups : List Expr) (groupWord : String)
      (having : Option Expr) (tail : String)

inductive Item where
  | value (expr : Expr)
  | aliased (expr : Expr) (label : Name)
  | wildcard (text : String)

/-- A relation and the relations joined to it. -/
inductive Source where
  | mk (factor : Factor) (joins : List Join)

/-- A joined relation; `words` say how it is joined. -/
inductive Join where
  | mk (words : String) (factor : Factor) (condition : JoinCondition)

inductive JoinCondition where
  | on (expr : Expr)
  | using (names : List Name)
  | absent

/-- A relation to select from. -/
inductive Factor where
  | table (name : QualifiedName) (extras : String) (label : Option Alias) (hints : String)
  | derived (lateral : Bool) (query : Query) (label : Option Alias)
  | joined (source : Source) (label : Option Alias)
  | phrase (text : String)

end

instance : Inhabited Expr := ⟨.null⟩
instance : Inhabited Query := ⟨.mk false [] (.phrase "") ""⟩

/-- The options of a column that say more than its type. -/
inductive ColumnOption where
  | notNull
  | default (value : Expr)
  | unique (primary : Bool) (characteristics : String)
  | other (text : String)

/-- A column as a statement declares it; `collation` is text between the type and the options. -/
structure ColumnDeclaration where
  name : Name
  dataType : String
  collation : String
  options : List (Option Name × ColumnOption)

inductive ConstraintDeclaration where
  | primaryKey (name : Option Name) (index : String) (columns : List Name) (tail : String)
  | other (text : String)

/-- A column of an index; `order` is the text of its ordering. -/
structure IndexColumn where
  expr : Expr
  order : String

inductive TableChange where
  | addColumn (words : String) (guarded : Bool) (column : ColumnDeclaration)
  | setType (column : Name) (dataType : String) (conversion : Option Expr)
  | other (text : String)

/-- The columns that an assignment writes. -/
inductive AssignmentTarget where
  | column (name : QualifiedName)
  | tuple (names : List QualifiedName)

/-- An assignment of a value to columns. -/
structure Assignment where
  target : AssignmentTarget
  value : Expr

/-- A statement. The texts that a form carries stand where the form is written out. -/
inductive Statement where
  | query (query : Query)
  | insert (lead : String) (table : QualifiedName) (label : Option Name) (columns : List Name)
      (source : Option Query) (tail : String)
  | update (lead : String) (table : Source) (assignments : List Assignment) (source : Option Source)
      (condition : Option Expr) (returning : String)
  | createTable (lead : String) (guarded : Bool) (table : QualifiedName)
      (columns : List ColumnDeclaration) (constraints : List ConstraintDeclaration) (tail : String)
  | createIndex (unique : Bool) (concurrent : Bool) (guarded : Bool) (name : Option QualifiedName)
      (table : QualifiedName) (method : Option Name) (columns : List IndexColumn) (tail : String)
  | alterTable (lead : String) (table : QualifiedName) (changes : List TableChange)
  | other (text : String)

end SchemaDrift.Sql
