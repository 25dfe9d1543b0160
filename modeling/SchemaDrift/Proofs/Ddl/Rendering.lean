import Mathlib.Data.List.Forall2
import SchemaDrift.Proofs.Ddl.Parsed
import SchemaDrift.Proofs.Sql.Tokens

namespace SchemaDrift

open Sql

/-- A part of the form of a statement: a word, number or mark that stands in it, or the place of a
name. -/
inductive FormPart where
  | fixed (token : Token)
  | name (identifier : Identifier)
  deriving DecidableEq

namespace FormPart

/-- A word that stands in a statement. -/
def word (text : String) : FormPart := fixed (.word text none)

/-- A mark that stands in a statement. -/
def mark (text : String) : FormPart := fixed (.symbol text)

/-- A token is what its part of the form asks for: the same token, or a word that stands for the name.
Only a word in quotes stands for a reserved name. -/
inductive Filled : FormPart → Token → Prop where
  | fixed (token : Token) : Filled (fixed token) token
  | name {identifier : Identifier} {text : String} {quote : Option Char}
      (folds : Name.folded ⟨text, quote⟩ = identifier.name)
      (free : quote = none → identifier.isReserved = false) :
      Filled (name identifier) (.word text quote)

def token : FormPart → Token
  | fixed token => token
  | name identifier => .word identifier.name identifier.toSql.quote

/-- Every part is written as what it asks for. -/
theorem filled_token (part : FormPart) : part.Filled part.token := by
  cases part with
  | fixed token => exact .fixed token
  | name identifier =>
      refine .name identifier.folded_toSql fun unquoted => ?_
      rw [Identifier.toSql, ite_eq_right_iff, imp_iff_not (by simp), Bool.not_eq_true,
        Identifier.needsQuotes, Bool.or_eq_false_iff] at unquoted
      exact unquoted.1

/-- Forms with a comma between them. -/
def listed : List (List FormPart) → List FormPart
  | [] => []
  | [form] => form
  | form :: forms => form ++ mark "," :: listed forms

/-- What stands in one of the forms stands in the list of them. -/
theorem mem_listed {part : FormPart} {form : List FormPart} {forms : List (List FormPart)}
    (among : form ∈ forms) (present : part ∈ form) : part ∈ listed forms := by
  induction forms with
  | nil => cases among
  | cons first forms inductionHypothesis =>
      cases forms with
      | nil =>
          rw [List.mem_singleton.mp among] at present
          exact present
      | cons second forms =>
          show part ∈ first ++ mark "," :: listed (second :: forms)
          obtain rfl | later := List.mem_cons.mp among
          · exact List.mem_append_left _ present
          · exact List.mem_append_right _ (List.mem_cons_of_mem _ (inductionHypothesis later))

/-- A form of tokens that stand in it is written as those tokens. -/
theorem map_token_fixed (tokens : List Token) : (tokens.map fixed).map token = tokens := by
  rw [List.map_map]
  exact List.map_id tokens

end FormPart

namespace LogicalType

/-- The tokens of the precision and scale of a decimal type. -/
def parameterTokens : Option UInt16 → Option UInt16 → List Token
  | some p, some s =>
    [.symbol "(", numberToken p.toNat, .symbol ",", numberToken s.toNat, .symbol ")"]
  | some p, none => [.symbol "(", numberToken p.toNat, .symbol ")"]
  | none, _ => []

/-- The tokens of the length of a bounded text type. -/
def lengthTokens : Option UInt32 → List Token
  | some n => [.symbol "(", numberToken n.toNat, .symbol ")"]
  | none => []

def tokens : LogicalType → List Token
  | bool => [.word "BOOLEAN" none]
  | int => [.word "INTEGER" none]
  | float => [.word "DOUBLE" none, .word "PRECISION" none]
  | decimal precision scale => .word "NUMERIC" none :: parameterTokens precision scale
  | varchar length => .word "VARCHAR" none :: lengthTokens length
  | string => [.word "TEXT" none]
  | date => [.word "DATE" none]
  | timestamp => [.word "TIMESTAMPTZ" none]
  | json => [.word "JSONB" none]
  | uuid => [.word "UUID" none]
  | array element => element.tokens ++ [.symbol "[", .symbol "]"]
  | unknown => [.word "TEXT" none]

end LogicalType

namespace ColumnDefinition

/-- The form of the column's type in a statement. -/
def typeForm (column : ColumnDefinition) : List FormPart :=
  if column.autoIncrement then [.word "BIGSERIAL"] else column.type.tokens.map .fixed

/-- The form of the column's marks in a statement. -/
def markForm (column : ColumnDefinition) : List FormPart :=
  if column.primaryKey then [.word "PRIMARY", .word "KEY"]
  else if column.nullable then [] else [.word "NOT", .word "NULL"]

def form (column : ColumnDefinition) : List FormPart :=
  .name column.name :: column.typeForm ++ column.markForm

end ColumnDefinition

namespace DdlStatement

def alterTypeForm (table column : Identifier) (type : LogicalType) : List FormPart :=
  ([.word "ALTER", .word "TABLE", .name table, .word "ALTER", .word "COLUMN", .name column,
    .word "TYPE"] : List FormPart) ++ type.tokens.map FormPart.fixed ++
    ([.word "USING", .name column, .mark "::"] : List FormPart) ++ type.tokens.map FormPart.fixed

def form : DdlStatement → List FormPart
  | createTable table columns =>
    [.word "CREATE", .word "TABLE", .word "IF", .word "NOT", .word "EXISTS", .name table,
      .mark "("] ++ FormPart.listed (columns.map (·.form)) ++ [.mark ")"]
  | addColumn table column =>
    [.word "ALTER", .word "TABLE", .name table, .word "ADD", .word "COLUMN", .word "IF",
      .word "NOT", .word "EXISTS"] ++ column.form
  | createIndex name table columns =>
    [.word "CREATE", .word "INDEX", .word "IF", .word "NOT", .word "EXISTS", .name name,
      .word "ON", .name table, .mark "("] ++ FormPart.listed (columns.map fun column =>
        [.name column]) ++ [.mark ")"]
  | alterColumnType table column type _ => alterTypeForm table column type

/-- The form of the statement that undoes another, which a change from an unknown type does not
have. -/
def compensatingForm : DdlStatement → Option (List FormPart)
  | createTable table _ =>
    some [.word "DROP", .word "TABLE", .word "IF", .word "EXISTS", .name table]
  | addColumn table column =>
    some [.word "ALTER", .word "TABLE", .name table, .word "DROP", .word "COLUMN", .word "IF",
      .word "EXISTS", .name column.name]
  | createIndex name _ _ =>
    some [.word "DROP", .word "INDEX", .word "IF", .word "EXISTS", .name name]
  | alterColumnType table column _ previous =>
    if previous = .unknown then none else some (alterTypeForm table column previous)

end DdlStatement

/-- The characters that stand in a statement outside quotes. -/
def isPlain (c : Char) : Bool :=
  isIdentifierPart c || [' ', ',', ':', '(', ')', '[', ']'].contains c

/-- A text has no quotes but those before and behind a whole name. -/
inductive Quoting (names : List Identifier) : List Char → Prop where
  | nil : Quoting names []
  | plain {c : Char} {rest : List Char} (plain : isPlain c = true) (later : Quoting names rest) :
      Quoting names (c :: rest)
  | quoted {identifier : Identifier} {rest : List Char} (named : identifier ∈ names)
      (later : Quoting names rest) : Quoting names ('"' :: (identifier.name.toList ++ '"' :: rest))

/-- A text is that of a form, with names of a statement: it has no characters but plain ones and the
quotes around whole names, and is cut into tokens as the form asks. -/
structure DdlStatement.Renders (statement : DdlStatement) (text : String) (form : List FormPart) :
    Prop where
  characters : ∀ c ∈ text.toList, isPlain c = true ∨ c = '"'
  quotes : Quoting statement.identifiers text.toList
  reads : ∀ dialect, ∃ tokens, tokenize dialect text.toList = some tokens ∧
    List.Forall₂ FormPart.Filled form tokens

namespace Quoting

variable {names : List Identifier} {first second : List Char}

/-- A name is made of plain characters. -/
theorem isPlain_of_mem (identifier : Identifier) {c : Char}
    (present : c ∈ identifier.name.toList) : isPlain c = true := by
  rw [isPlain, identifier.isIdentifierPart_of_mem present, Bool.true_or]

/-- The characters of a text are plain, or quotes. -/
theorem characters (quoting : Quoting names first) : ∀ c ∈ first, isPlain c = true ∨ c = '"' := by
  induction quoting with
  | nil => nofun
  | plain plain later inductionHypothesis =>
      intro c present
      obtain rfl | present := List.mem_cons.mp present
      · exact .inl plain
      · exact inductionHypothesis c present
  | quoted named later inductionHypothesis =>
      intro c present
      simp only [List.mem_cons, List.mem_append] at present
      obtain rfl | inside | rfl | present := present
      · exact .inr rfl
      · exact .inl (isPlain_of_mem _ inside)
      · exact .inr rfl
      · exact inductionHypothesis c present

/-- Two texts stand after each other. -/
theorem append (left : Quoting names first) (right : Quoting names second) :
    Quoting names (first ++ second) := by
  induction left with
  | nil => exact right
  | plain plain later inductionHypothesis => exact .plain plain inductionHypothesis
  | quoted named later inductionHypothesis =>
      have whole := Quoting.quoted named inductionHypothesis
      simpa only [List.cons_append, List.append_assoc] using whole

theorem of_plain {text : List Char} (plain : text.all isPlain = true) : Quoting names text := by
  induction text with
  | nil => exact .nil
  | cons c text inductionHypothesis =>
      rw [List.all_cons, Bool.and_eq_true] at plain
      exact .plain plain.1 (inductionHypothesis plain.2)

/-- A name has quotes before and behind it, or none. -/
theorem identifier {identifier : Identifier} (named : identifier ∈ names) :
    Quoting names identifier.ddlChars := by
  rw [Identifier.ddlChars]
  split
  · exact .quoted named .nil
  · exact of_plain (List.all_eq_true.mpr fun c present => isPlain_of_mem identifier present)

/-- Parts are listed with commas and blanks between them. -/
theorem listed {parts : List (List Char)} (quoting : ∀ part ∈ parts, Quoting names part) :
    Quoting names (DdlStatement.listed parts) := by
  rw [DdlStatement.listed]
  induction parts with
  | nil => exact .nil
  | cons part parts inductionHypothesis =>
      rw [List.forall_mem_cons] at quoting
      cases parts with
      | nil => exact quoting.1
      | cons next parts =>
          exact (quoting.1.append (of_plain (by decide))).append (inductionHypothesis quoting.2)

/-- A type is made of plain characters. -/
theorem type (type : LogicalType) : Quoting names type.ddlChars := by
  have digits : ∀ n, Quoting names (LogicalType.digits n) := by
    intro n
    refine of_plain (List.all_eq_true.mpr fun c present => ?_)
    have digit := Text.isAsciiDigit_of_mem_toDigits present
    rw [isPlain, isIdentifierPart, digit, Bool.or_true, Bool.true_or, Bool.true_or]
  induction type with
  | array element inductionHypothesis => exact inductionHypothesis.append (of_plain (by decide))
  | decimal precision scale =>
      refine (of_plain (by decide)).append ?_
      rcases precision with _ | p
      · exact .nil
      · rcases scale with _ | s
        · exact .append (.plain (by decide) (digits _)) (of_plain (by decide))
        · exact .append (.append (.plain (by decide) (digits _)) (.plain (by decide)
            (.plain (by decide) (digits _)))) (of_plain (by decide))
  | varchar length =>
      refine (of_plain (by decide)).append ?_
      rcases length with _ | n
      · exact .nil
      · exact .append (.plain (by decide) (digits _)) (of_plain (by decide))
  | _ => exact of_plain (by decide)

theorem column {column : ColumnDefinition} (named : column.name ∈ names) :
    Quoting names column.ddlChars := by
  refine ((identifier named).append (.plain (by decide) ?_)).append ?_
  · rw [ColumnDefinition.typeChars]
    split
    · exact of_plain (by decide)
    · exact type _
  · rw [ColumnDefinition.markChars]
    split
    · exact of_plain (by decide)
    · split
      · exact .nil
      · exact of_plain (by decide)

/-- A change of type has no quotes but those around its names. -/
theorem alterType {table column : Identifier} (owner : table ∈ names) (named : column ∈ names)
    (kind : LogicalType) : Quoting names (DdlStatement.alterTypeChars table column kind) := by
  have named' := identifier named
  exact ((((((((of_plain (by decide)).append (identifier owner)).append (of_plain (by decide))).append
    named').append (of_plain (by decide))).append (type kind)).append
    (of_plain (by decide))).append named').append (of_plain (by decide)) |>.append (type kind)

/-- A statement has no quotes but those around its names. -/
theorem ddlChars (statement : DdlStatement) :
    Quoting statement.identifiers statement.ddlChars := by
  cases statement with
  | createTable table columns =>
      have parts : ∀ part ∈ columns.map (·.ddlChars),
          Quoting (table :: columns.map (·.name)) part := by
        intro part present
        obtain ⟨definition, among, rfl⟩ := List.mem_map.mp present
        exact column (List.mem_cons_of_mem _ (List.mem_map_of_mem among))
      exact ((((of_plain (by decide)).append (identifier List.mem_cons_self)).append
        (of_plain (by decide))).append (listed parts)).append (of_plain (by decide))
  | addColumn table definition =>
      exact (((of_plain (by decide)).append (identifier List.mem_cons_self)).append
        (of_plain (by decide))).append (column (List.mem_cons_of_mem _ List.mem_cons_self))
  | createIndex name table columns =>
      have parts : ∀ part ∈ columns.map (·.ddlChars), Quoting (name :: table :: columns) part := by
        intro part present
        obtain ⟨column, among, rfl⟩ := List.mem_map.mp present
        exact identifier (List.mem_cons_of_mem _ (List.mem_cons_of_mem _ among))
      exact ((((((of_plain (by decide)).append (identifier List.mem_cons_self)).append
        (of_plain (by decide))).append (identifier (List.mem_cons_of_mem _
          List.mem_cons_self))).append (of_plain (by decide))).append (listed parts)).append
        (of_plain (by decide))
  | alterColumnType table column type previous =>
      exact alterType List.mem_cons_self (List.mem_cons_of_mem _ List.mem_cons_self) type

/-- The statement that undoes another has no quotes but those around the names of the other. -/
theorem compensatingChars {statement : DdlStatement} {text : List Char}
    (undone : statement.compensatingChars = some text) : Quoting statement.identifiers text := by
  cases statement with
  | createTable table columns =>
      cases undone
      exact (of_plain (by decide)).append (identifier List.mem_cons_self)
  | addColumn table column =>
      cases undone
      exact (((of_plain (by decide)).append (identifier List.mem_cons_self)).append
        (of_plain (by decide))).append (identifier (List.mem_cons_of_mem _ List.mem_cons_self))
  | createIndex name table columns =>
      cases undone
      exact (of_plain (by decide)).append (identifier List.mem_cons_self)
  | alterColumnType table column type previous =>
      rw [DdlStatement.compensatingChars, ite_eq_iff] at undone
      obtain ⟨_, none⟩ | ⟨_, same⟩ := undone
      · cases none
      · cases same
        exact alterType List.mem_cons_self (List.mem_cons_of_mem _ List.mem_cons_self) previous

end Quoting

namespace Sql.Cuts

variable {dialect : Dialect} {rest : List Char} {tokens : List Token}

/-- A name in front of the end of a word is the token of its place. -/
theorem identifier (identifier : Identifier) (ends : Ends rest) (cuts : Cuts dialect rest tokens) :
    Cuts dialect (identifier.ddlChars ++ rest) ((FormPart.name identifier).token :: tokens) := by
  have parts : ∀ c ∈ identifier.name.toList, isIdentifierPart c = true :=
    fun c => identifier.isIdentifierPart_of_mem
  rw [Identifier.ddlChars, FormPart.token, Identifier.toSql]
  split
  · have unquoted : '"' ∉ identifier.name.toList := fun quote =>
      absurd (parts '"' quote) (by decide)
    have single : ∀ c ∈ rest.head?, c ≠ '"' := by
      rintro c found rfl
      exact absurd (ends '"' found) (by decide)
    have cut := quoted unquoted single cuts
    simpa only [List.cons_append, List.append_assoc, List.nil_append] using cut
  · have valid := identifier.valid
    rw [isValidName, Bool.and_eq_true] at valid
    exact word identifier.name valid.1 ends cuts

theorem parenthesized (n : Nat) (cuts : Cuts dialect rest tokens) :
    Cuts dialect ('(' :: LogicalType.digits n ++ [')'] ++ rest)
      (.symbol "(" :: numberToken n :: .symbol ")" :: tokens) := by
  have inner := number n (.cons (by decide) rest) (mark ')' ")" (by decide) cuts)
  rw [List.append_assoc, List.cons_append]
  exact mark '(' "(" (by decide) inner

/-- The name of a decimal type goes on with its precision and scale. -/
theorem decimal (precision scale : Option UInt16) (ends : Ends rest)
    (cuts : Cuts dialect rest tokens) :
    Cuts dialect ("NUMERIC".toList ++ LogicalType.decimalParameters precision scale ++ rest)
      (.word "NUMERIC" none :: LogicalType.parameterTokens precision scale ++ tokens) := by
  rw [List.append_assoc]
  rcases precision with _ | p
  · exact word "NUMERIC" (by decide) ends cuts
  · refine word "NUMERIC" (by decide) ?_ ?_
    · cases scale <;> exact .cons (by decide) _
    · rcases scale with _ | s
      · exact parenthesized p.toNat cuts
      · have last := number s.toNat (.cons (by decide) rest)
          (mark ')' ")" (by decide) cuts)
        have first := number p.toNat (.cons (by decide) _)
          (mark ',' "," (by decide) last.blank)
        rw [LogicalType.decimalParameters, List.append_assoc, List.append_assoc, List.cons_append]
        exact mark '(' "(" (by decide) first

/-- The name of a bounded text type goes on with its length. -/
theorem varchar (length : Option UInt32) (ends : Ends rest) (cuts : Cuts dialect rest tokens) :
    Cuts dialect ("VARCHAR".toList ++ LogicalType.lengthParameter length ++ rest)
      (.word "VARCHAR" none :: LogicalType.lengthTokens length ++ tokens) := by
  rw [List.append_assoc]
  rcases length with _ | n
  · exact word "VARCHAR" (by decide) ends cuts
  · exact word "VARCHAR" (by decide) (.cons (by decide) _) (parenthesized n.toNat cuts)

/-- A type in front of the end of a word is its tokens. -/
theorem type (type : LogicalType) (ends : Ends rest) (cuts : Cuts dialect rest tokens) :
    Cuts dialect (type.ddlChars ++ rest) (type.tokens ++ tokens) := by
  have plain : ∀ text : String, isIdentifierForm text.toList = true →
      Cuts dialect (text.toList ++ rest) (.word text none :: tokens) := by
    intro text formed
    exact word text formed ends cuts
  induction type generalizing rest tokens with
  | array element inductionHypothesis =>
      have brackets := mark '[' "[" (by decide)
        (mark ']' "]" (by decide) cuts)
      have stops : Ends ('[' :: ']' :: rest) := .cons (by decide) _
      have whole := inductionHypothesis stops brackets fun text formed =>
        word text formed stops brackets
      show Cuts dialect (element.ddlChars ++ ['[', ']'] ++ rest)
        (element.tokens ++ [Token.symbol "[", Token.symbol "]"] ++ tokens)
      simpa only [List.append_assoc, List.cons_append, List.nil_append] using whole
  | decimal precision scale => exact decimal precision scale ends cuts
  | varchar length => exact varchar length ends cuts
  | float =>
      exact word "DOUBLE" (by decide) (.cons (by decide) _)
        (word "PRECISION" (by decide) ends cuts).blank
  | bool => exact plain "BOOLEAN" (by decide)
  | int => exact plain "INTEGER" (by decide)
  | string => exact plain "TEXT" (by decide)
  | date => exact plain "DATE" (by decide)
  | timestamp => exact plain "TIMESTAMPTZ" (by decide)
  | json => exact plain "JSONB" (by decide)
  | uuid => exact plain "UUID" (by decide)
  | unknown => exact plain "TEXT" (by decide)

/-- A column in front of the end of a word has its form. -/
theorem column (column : ColumnDefinition) (ends : Ends rest) (cuts : Cuts dialect rest tokens) :
    Cuts dialect (column.ddlChars ++ rest) (column.form.map FormPart.token ++ tokens) := by
  have marked : Ends (column.markChars ++ rest) ∧ Cuts dialect (column.markChars ++ rest)
      (column.markForm.map FormPart.token ++ tokens) := by
    rw [ColumnDefinition.markChars, ColumnDefinition.markForm]
    split
    · exact ⟨.cons (by decide) _, (word "PRIMARY" (by decide) (.cons (by decide) _)
        (word "KEY" (by decide) ends cuts).blank).blank⟩
    · split
      · exact ⟨ends, cuts⟩
      · exact ⟨.cons (by decide) _, (word "NOT" (by decide) (.cons (by decide) _)
          (word "NULL" (by decide) ends cuts).blank).blank⟩
  have typed : Cuts dialect (column.typeChars ++ (column.markChars ++ rest))
      (column.typeForm.map FormPart.token ++
        (column.markForm.map FormPart.token ++ tokens)) := by
    rw [ColumnDefinition.typeChars, ColumnDefinition.typeForm]
    split
    · exact word "BIGSERIAL" (by decide) marked.1 marked.2
    · rw [FormPart.map_token_fixed]
      exact type column.type marked.1 marked.2
  have named := identifier column.name (.cons (by decide) _) typed.blank
  simpa only [ColumnDefinition.ddlChars, ColumnDefinition.form, List.append_assoc,
    List.cons_append, List.map_cons, List.map_append] using named

/-- Parts with a comma and a blank between them have their forms with a comma between them. -/
theorem listed {Element : Type} {part : Element → List Char} {form : Element → List FormPart}
    {elements : List Element}
    (each : ∀ element ∈ elements, ∀ {rest tokens}, Ends rest → Cuts dialect rest tokens →
      Cuts dialect (part element ++ rest) ((form element).map FormPart.token ++ tokens))
    (ends : Ends rest) (cuts : Cuts dialect rest tokens) :
    Cuts dialect (DdlStatement.listed (elements.map part) ++ rest)
      ((FormPart.listed (elements.map form)).map FormPart.token ++ tokens) := by
  induction elements with
  | nil => exact cuts
  | cons first elements inductionHypothesis =>
      rw [List.forall_mem_cons] at each
      cases elements with
      | nil => exact each.1 ends cuts
      | cons second elements =>
          have later := each.1 (.cons (by decide) _) (mark ',' "," (by decide)
            (inductionHypothesis each.2).blank)
          simpa only [DdlStatement.listed, Text.joinWith, FormPart.listed, FormPart.mark,
            FormPart.token, List.map_cons, List.map_append, List.append_assoc, List.cons_append,
            List.nil_append] using later

theorem alterType (table column : Identifier) (kind : LogicalType) :
    Cuts dialect (DdlStatement.alterTypeChars table column kind)
      ((DdlStatement.alterTypeForm table column kind).map FormPart.token) := by
  have target : Cuts dialect (kind.ddlChars ++ []) (kind.tokens ++ []) := type kind .nil .nil
  rw [List.append_nil, List.append_nil] at target
  obtain ⟨cast, targeted⟩ := colons target
  obtain ⟨stop, converted⟩ := between " USING " ["USING"] rfl (by decide)
    (identifier column cast targeted)
  obtain ⟨halt, typed⟩ := between " TYPE " ["TYPE"] rfl (by decide)
    (type kind stop converted)
  obtain ⟨pause, altered⟩ := between " ALTER COLUMN " ["ALTER", "COLUMN"] rfl
    (by decide) (identifier column halt typed)
  have whole := lead "ALTER TABLE " ["ALTER", "TABLE"] rfl (by decide)
    (identifier table pause altered)
  show Cuts dialect ("ALTER TABLE ".toList ++ table.ddlChars ++ " ALTER COLUMN ".toList ++
    column.ddlChars ++ " TYPE ".toList ++ kind.ddlChars ++ " USING ".toList ++ column.ddlChars ++
    "::".toList ++ kind.ddlChars) _
  simpa only [DdlStatement.alterTypeForm, FormPart.map_token_fixed, FormPart.word, FormPart.mark,
    FormPart.token, List.append_assoc, List.map_append, List.map_cons, List.map_nil,
    List.cons_append, List.nil_append] using whole

/-- A list in parentheses has the form of the list, and ends the word before it. -/
theorem parenthesizedList (dialect : Dialect) {Element : Type} (part : Element → List Char)
    (form : Element → List FormPart) (elements : List Element)
    (each : ∀ element ∈ elements, ∀ {rest tokens}, Ends rest → Cuts dialect rest tokens →
      Cuts dialect (part element ++ rest) ((form element).map FormPart.token ++ tokens)) :
    Ends (" (".toList ++ (DdlStatement.listed (elements.map part) ++ [')'])) ∧
      Cuts dialect (" (".toList ++ (DdlStatement.listed (elements.map part) ++ [')']))
        (.symbol "(" :: ((FormPart.listed (elements.map form)).map FormPart.token ++
          [Token.symbol ")"])) := by
  have inner := listed each (.cons (by decide) []) (mark ')' ")" (by decide) nil)
  exact ⟨.cons (by decide) _, (mark '(' "(" (by decide) inner).blank⟩

theorem ddlChars (statement : DdlStatement) :
    Cuts dialect statement.ddlChars (statement.form.map FormPart.token) := by
  cases statement with
  | createTable table columns =>
      obtain ⟨stop, inner⟩ := parenthesizedList dialect ColumnDefinition.ddlChars
        ColumnDefinition.form columns fun definition _ => column definition
      have whole := lead "CREATE TABLE IF NOT EXISTS "
        ["CREATE", "TABLE", "IF", "NOT", "EXISTS"] rfl (by decide)
        (identifier table stop inner)
      show Cuts dialect ("CREATE TABLE IF NOT EXISTS ".toList ++ table.ddlChars ++ " (".toList ++
        DdlStatement.listed (columns.map (·.ddlChars)) ++ [')']) _
      simpa only [DdlStatement.form, FormPart.word, FormPart.mark, FormPart.token,
        List.append_assoc, List.map_append, List.map_cons, List.map_nil, List.cons_append,
        List.nil_append] using whole
  | addColumn table definition =>
      have last : Cuts dialect (definition.ddlChars ++ [])
        (definition.form.map FormPart.token ++ []) := column definition .nil .nil
      rw [List.append_nil, List.append_nil] at last
      obtain ⟨stop, added⟩ := between " ADD COLUMN IF NOT EXISTS "
        ["ADD", "COLUMN", "IF", "NOT", "EXISTS"] rfl (by decide) last
      have whole := lead "ALTER TABLE " ["ALTER", "TABLE"] rfl (by decide)
        (identifier table stop added)
      show Cuts dialect ("ALTER TABLE ".toList ++ table.ddlChars ++
        " ADD COLUMN IF NOT EXISTS ".toList ++ definition.ddlChars) _
      simpa only [DdlStatement.form, FormPart.word, FormPart.token, List.append_assoc,
        List.map_append, List.map_cons, List.map_nil, List.cons_append, List.nil_append] using whole
  | createIndex name table columns =>
      obtain ⟨stop, inner⟩ := parenthesizedList dialect Identifier.ddlChars
        (fun column => [.name column]) columns fun column _ => identifier column
      obtain ⟨halt, owned⟩ := between " ON " ["ON"] rfl (by decide)
        (identifier table stop inner)
      have whole := lead "CREATE INDEX IF NOT EXISTS "
        ["CREATE", "INDEX", "IF", "NOT", "EXISTS"] rfl (by decide)
        (identifier name halt owned)
      show Cuts dialect ("CREATE INDEX IF NOT EXISTS ".toList ++ name.ddlChars ++ " ON ".toList ++
        table.ddlChars ++ " (".toList ++ DdlStatement.listed (columns.map (·.ddlChars)) ++ [')']) _
      simpa only [DdlStatement.form, FormPart.word, FormPart.mark, FormPart.token,
        List.append_assoc, List.map_append, List.map_cons, List.map_nil, List.cons_append,
        List.nil_append] using whole
  | alterColumnType table column type previous => exact alterType table column type

/-- A name at the end of a text is the token of its place. -/
theorem identifier_last (name : Identifier) :
    Cuts dialect name.ddlChars [(FormPart.name name).token] := by
  have cut : Cuts dialect (name.ddlChars ++ []) [(FormPart.name name).token] :=
    identifier name .nil .nil
  rwa [List.append_nil] at cut

/-- The text of the statement that undoes another has the form of that statement, and there is one
where there is the other. -/
theorem compensatingChars (statement : DdlStatement) :
    Option.Rel (fun text form => Cuts dialect text (form.map FormPart.token))
      statement.compensatingChars statement.compensatingForm := by
  cases statement with
  | createTable table columns =>
      exact .some (lead "DROP TABLE IF EXISTS " ["DROP", "TABLE", "IF", "EXISTS"]
        rfl (by decide) (identifier_last table))
  | addColumn table column =>
      have last : Cuts dialect column.name.ddlChars [(FormPart.name column.name).token] :=
        identifier_last column.name
      obtain ⟨stop, dropped⟩ := between " DROP COLUMN IF EXISTS "
        ["DROP", "COLUMN", "IF", "EXISTS"] rfl (by decide) last
      have whole := lead "ALTER TABLE " ["ALTER", "TABLE"] rfl (by decide)
        (identifier table stop dropped)
      rw [← List.append_assoc, ← List.append_assoc] at whole
      exact .some whole
  | createIndex name table columns =>
      exact .some (lead "DROP INDEX IF EXISTS " ["DROP", "INDEX", "IF", "EXISTS"]
        rfl (by decide) (identifier_last name))
  | alterColumnType table column type previous =>
      rw [DdlStatement.compensatingChars, DdlStatement.compensatingForm]
      split
      · exact .none
      · exact .some (alterType table column previous)

end Sql.Cuts

namespace DdlStatement

/-- A text that is cut into a form, with quotes around whole names only, is that of the form. -/
theorem Renders.of_cuts {statement : DdlStatement} {text : List Char} {form : List FormPart}
    (quoting : Quoting statement.identifiers text)
    (cuts : ∀ dialect, Cuts dialect text (form.map FormPart.token)) :
    statement.Renders (String.ofList text) form := by
  refine ⟨?_, ?_, fun dialect => ⟨form.map FormPart.token, ?_, ?_⟩⟩
  · rw [String.toList_ofList]
    exact quoting.characters
  · rwa [String.toList_ofList]
  · rw [String.toList_ofList]
    exact (cuts dialect).tokenize_eq
  · rw [List.forall₂_map_right_iff, List.forall₂_same]
    exact fun part _ => part.filled_token

/-- The statements that the tokens of a form are read as. -/
def formStatements? (dialect : Dialect) (form : List FormPart) : Option (List Sql.Statement) :=
  match Grammar.statementsWithin dialect (form.length + 1) false (form.map FormPart.token) with
  | .ok (statements, _) => some statements
  | .error _ => none

/-- The text of a statement is parsed as the tokens of its form are. -/
theorem ofText?_toDdl (dialect : Dialect) (statement : DdlStatement) :
    Sql.Statement.ofText? dialect statement.toDdl.toList =
      formStatements? dialect statement.form := by
  have cut : tokenize dialect statement.toDdl.toList = some (statement.form.map FormPart.token) := by
    rw [toDdl, String.toList_ofList]
    exact (Cuts.ddlChars statement).tokenize_eq
  rw [Sql.Statement.ofText?, cut, Option.bind_eq_bind, Option.bind_some, List.length_map]
  rfl

/-- Whether a statement is parsed as what it renders is found by parsing its form: its text need not
be spelled out and cut. -/
instance (statement : DdlStatement) : Decidable statement.Parses :=
  match parsed : formStatements? .postgres statement.form with
  | some [other] =>
    if same : other.agrees statement.toSql = true then
      .isTrue (by rw [Parses, ofText?_toDdl, parsed, Sql.Statement.eq_of_agrees same])
    else
      .isFalse (by
        intro parses
        rw [Parses, ofText?_toDdl, parsed] at parses
        cases parses
        exact same statement.agrees_toSql)
  | none => .isFalse (by simp [Parses, ofText?_toDdl, parsed])
  | some [] => .isFalse (by simp [Parses, ofText?_toDdl, parsed])
  | some (_ :: _ :: _) => .isFalse (by simp [Parses, ofText?_toDdl, parsed])

/-- Every name of a statement has a place in its form. -/
theorem name_mem_form (statement : DdlStatement) {identifier : Identifier}
    (named : identifier ∈ statement.identifiers) : .name identifier ∈ statement.form := by
  cases statement with
  | createTable table columns =>
      rw [form, List.append_assoc, List.mem_append]
      obtain rfl | inColumn := List.mem_cons.mp named
      · exact .inl (by simp)
      · obtain ⟨column, among, rfl⟩ := List.mem_map.mp inColumn
        refine .inr (List.mem_append_left _ (FormPart.mem_listed (List.mem_map_of_mem among) ?_))
        exact List.mem_cons_self
  | addColumn table column =>
      rw [form, List.mem_append]
      simp only [identifiers, List.mem_cons, List.not_mem_nil, or_false] at named
      obtain rfl | rfl := named
      · exact .inl (by simp)
      · exact .inr List.mem_cons_self
  | createIndex name table columns =>
      rw [form, List.append_assoc, List.mem_append]
      simp only [identifiers, List.mem_cons] at named
      obtain rfl | rfl | inColumns := named
      · exact .inl (by simp)
      · exact .inl (by simp)
      · refine .inr (List.mem_append_left _ (FormPart.mem_listed (List.mem_map_of_mem inColumns) ?_))
        exact List.mem_singleton_self _
  | alterColumnType table column type previous =>
      simp only [identifiers, List.mem_cons, List.not_mem_nil, or_false] at named
      rw [form, alterTypeForm]
      obtain rfl | rfl := named <;> simp

/-- The text of a statement and that of the statement that undoes it have their forms, in which every
name of the statement has its place: the names cannot make anything else of the texts. -/
theorem renders (statement : DdlStatement) :
    statement.Renders statement.toDdl statement.form ∧
      (∀ identifier ∈ statement.identifiers, .name identifier ∈ statement.form) ∧
      Option.Rel statement.Renders statement.compensating statement.compensatingForm := by
  refine ⟨.of_cuts (.ddlChars statement) fun dialect => .ddlChars statement,
    fun identifier => statement.name_mem_form, ?_⟩
  have related (dialect : Dialect) :
      Option.Rel (fun text form => Cuts dialect text (form.map FormPart.token))
        statement.compensatingChars statement.compensatingForm :=
    Cuts.compensatingChars statement
  rw [compensating]
  cases undone : statement.compensatingChars with
  | none =>
      cases made : statement.compensatingForm with
      | none => exact .none
      | some form =>
          have unmatched := related .postgres
          rw [undone, made] at unmatched
          cases unmatched
  | some text =>
      cases made : statement.compensatingForm with
      | none =>
          have unmatched := related .postgres
          rw [undone, made] at unmatched
          cases unmatched
      | some form =>
          refine .some (.of_cuts (.compensatingChars undone) fun dialect => ?_)
          have matched := related dialect
          rw [undone, made] at matched
          cases matched with
          | some cuts => exact cuts

end DdlStatement

end SchemaDrift
