import SchemaDrift.Catalog.Definition
import SchemaDrift.Ddl.Basic
import SchemaDrift.Sql.Grammar.Statement
import SchemaDrift.Proofs.LogicalType.Spelling

namespace SchemaDrift

namespace LogicalType

/-- The precision and scale of a decimal type as a parser writes them. -/
def sqlParameters : Option UInt16 → Option UInt16 → List Char
  | some p, some s => '(' :: (digits p.toNat ++ ',' :: digits s.toNat ++ [')'])
  | some p, none => '(' :: (digits p.toNat ++ [')'])
  | none, _ => []

/-- The canonical text of a type as a parser writes it. -/
def sqlChars : LogicalType → List Char
  | decimal precision scale => "NUMERIC".toList ++ sqlParameters precision scale
  | array element => element.sqlChars ++ ['[', ']']
  | type => type.ddlChars

/-- The canonical text of a type. -/
def toSql (type : LogicalType) : String := String.ofList type.sqlChars

/-- A text of ASCII that is another one in lower case. -/
structure Lowers (text lowered : List Char) : Prop where
  ascii : ∀ c ∈ text, c.toNat < 128
  same : text.map Text.lowerAscii = lowered

namespace Lowers

/-- Two texts after each other are lowered one by one. -/
theorem append {first second firstLowered secondLowered : List Char}
    (left : Lowers first firstLowered) (right : Lowers second secondLowered) :
    Lowers (first ++ second) (firstLowered ++ secondLowered) where
  ascii c present := (List.mem_append.mp present).elim (left.ascii c) (right.ascii c)
  same := by rw [List.map_append, left.same, right.same]

theorem digits (n : Nat) : Lowers (LogicalType.digits n) (LogicalType.digits n) := by
  have plain : ∀ c ∈ LogicalType.digits n, Text.lowerAscii c = c ∧ c.toNat < 128 := by
    intro c present
    have facts := Text.digit_plain (Text.isAsciiDigit_of_mem_toDigits present)
    exact ⟨facts.2.2.2.2.2.1, facts.2.2.2.2.2.2⟩
  refine ⟨fun c present => (plain c present).2, ?_⟩
  rw [List.map_congr_left (g := id) (fun c present => (plain c present).1), List.map_id]

/-- Known texts are compared as they are. -/
theorem of_decide (text lowered : List Char)
    (checked : (text.all (·.toNat < 128) && text.map Text.lowerAscii == lowered) = true) :
    Lowers text lowered := by
  rw [Bool.and_eq_true, beq_iff_eq] at checked
  exact ⟨by simpa using checked.1, checked.2⟩

/-- A lower-case form is the lower-case form of itself. -/
theorem idem {text lowered : List Char} (lowers : Lowers text lowered) :
    Lowers lowered lowered := by
  have stable : ∀ c : Char, c.toNat < 128 → Text.lowerAscii (Text.lowerAscii c) =
      Text.lowerAscii c ∧ (Text.lowerAscii c).toNat < 128 :=
    fun c ascii => Text.forall_ascii (fun c =>
      Text.lowerAscii (Text.lowerAscii c) = Text.lowerAscii c ∧ (Text.lowerAscii c).toNat < 128)
      (by decide) ascii
  rw [← lowers.same]
  constructor
  · intro c present
    rcases List.mem_map.mp present with ⟨original, found, rfl⟩
    exact (stable original (lowers.ascii original found)).2
  · rw [List.map_map]
    exact List.map_congr_left fun c present => (stable c (lowers.ascii c present)).1

/-- The lower-case form of the text. -/
theorem lower_eq {text lowered : List Char} (lowers : Lowers text lowered) :
    Text.lower text = lowered := by
  rw [Text.lower_of_ascii lowers.ascii, lowers.same]

end Lowers

/-- The canonical text of a type is its spelling in upper case, without a gap between numbers. -/
theorem lowers_sqlChars (type : LogicalType) : Lowers type.sqlChars (type.spelledWith []) := by
  have mark : ∀ c ∈ ['(', ')', ',', '[', ']'], Lowers [c] [c] := by
    intro c present
    refine .of_decide _ _ ?_
    simp only [List.mem_cons, List.not_mem_nil, or_false] at present
    obtain rfl | rfl | rfl | rfl | rfl := present <;> decide
  have inner : ∀ {text lowered : List Char}, Lowers text lowered →
      Lowers ('(' :: (text ++ [')'])) ('(' :: (lowered ++ [')'])) := by
    intro text lowered lowers
    exact (mark '(' (by simp)).append (lowers.append (mark ')' (by simp)))
  induction type with
  | array element inductionHypothesis =>
      exact inductionHypothesis.append ((mark '[' (by simp)).append (mark ']' (by simp)))
  | decimal precision scale =>
      have name : Lowers "NUMERIC".toList "numeric".toList := .of_decide _ _ (by decide)
      rcases precision with _ | p
      · show Lowers ("NUMERIC".toList ++ []) (withInner "numeric".toList none)
        rw [List.append_nil]
        exact name
      · rcases scale with _ | s
        · exact name.append (inner (.digits p.toNat))
        · have numbers := (Lowers.digits p.toNat).append
            ((mark ',' (by simp)).append (.digits s.toNat))
          show Lowers ("NUMERIC".toList ++ '(' :: (digits p.toNat ++ ',' :: digits s.toNat ++ [')']))
            (withInner "numeric".toList (some (digits p.toNat ++ ',' :: digits s.toNat)))
          exact name.append (inner numbers)
  | varchar length =>
      have name : Lowers "VARCHAR".toList "varchar".toList := .of_decide _ _ (by decide)
      rcases length with _ | n
      · show Lowers ("VARCHAR".toList ++ []) (withInner "varchar".toList none)
        rw [List.append_nil]
        exact name
      · show Lowers ("VARCHAR".toList ++ '(' :: (digits n.toNat ++ [')']))
          (withInner "varchar".toList (some (digits n.toNat)))
        exact name.append (inner (.digits n.toNat))
  | bool => exact .of_decide "BOOLEAN".toList "boolean".toList (by decide)
  | int => exact .of_decide "INTEGER".toList "integer".toList (by decide)
  | float => exact .of_decide "DOUBLE PRECISION".toList "double precision".toList (by decide)
  | string => exact .of_decide "TEXT".toList "text".toList (by decide)
  | date => exact .of_decide "DATE".toList "date".toList (by decide)
  | timestamp => exact .of_decide "TIMESTAMPTZ".toList "timestamptz".toList (by decide)
  | json => exact .of_decide "JSONB".toList "jsonb".toList (by decide)
  | uuid => exact .of_decide "UUID".toList "uuid".toList (by decide)
  | unknown => exact .of_decide "TEXT".toList "text".toList (by decide)

/-- A spelling is trimmed. -/
theorem trim_spelledWith (gap : List Char) (type : LogicalType) :
    Text.trim (type.spelledWith gap) = type.spelledWith gap := by
  cases type with
  | array element => exact trim_array gap element
  | _ => exact (withInner_plain (word_mem _) _).1

/-- A spelling is at least as long as the type is deep. -/
theorem depth_le_length (gap : List Char) (type : LogicalType) :
    type.depth ≤ (type.spelledWith gap).length := by
  induction type with
  | array element inductionHypothesis =>
      simp only [depth, spelledWith, List.length_append, List.length_cons, List.length_nil]
      omega
  | _ => exact Nat.zero_le _

/-- A text that is a spelling of a type in some case, with or without blanks around it, is read as
the canonical form of the type. -/
theorem ofSpelling_of_lowers {gap : List Char} (blank : ∀ c ∈ gap, c = ' ') {type : LogicalType}
    {text : String} (lowers : Lowers (Text.trim text.toList) (type.spelledWith gap)) :
    ofSpelling text = type.canonical := by
  rw [ofSpelling, lowers.lower_eq]
  exact ofLowered_spelledWith blank type (depth_le_length gap type)

/-- The names of the types that count rows. -/
def serialNames : List String :=
  ["bigserial", "serial8", "serial", "serial4", "smallserial", "serial2"]

/-- No spelling of a type is the name of a type that counts rows. -/
theorem spelledWith_ne_serial (gap : List Char) (type : LogicalType) {name : String}
    (serial : name ∈ serialNames) : type.spelledWith gap ≠ name.toList := by
  have plain : ∀ name ∈ serialNames, '(' ∉ name.toList ∧ ']' ∉ name.toList ∧
      name ∉ spelledWords := by decide
  rcases plain name serial with ⟨unopened, unbracketed, unlisted⟩
  have single : ∀ type : LogicalType,
      withInner type.word.toList (type.innerWith gap) ≠ name.toList := by
    intro type same
    cases given : type.innerWith gap with
    | none =>
        rw [given, withInner, String.toList_inj] at same
        exact unlisted (same ▸ word_mem type)
    | some inner =>
        rw [given, withInner] at same
        exact unopened (same ▸ by simp)
  cases type with
  | array element =>
      intro same
      rw [spelledWith] at same
      exact unbracketed (same ▸ by simp)
  | _ => exact single _

end LogicalType

/-- The catalog shows the canonical text of a type in lower case, and reads it as the canonical form
of the type. -/
theorem Definition.declaredType_toSql (type : LogicalType) :
    Definition.declaredType type.toSql = (String.ofList (type.spelledWith []), none) ∧
      LogicalType.ofSpelling (String.ofList (type.spelledWith [])) = type.canonical := by
  have lowers := type.lowers_sqlChars
  constructor
  · have lowered : Text.lowerString type.toSql = String.ofList (type.spelledWith []) := by
      rw [Text.lowerString, LogicalType.toSql, String.toList_ofList, lowers.lower_eq]
    have other : ∀ name ∈ LogicalType.serialNames,
        (String.ofList (type.spelledWith []) == name) = false := by
      intro name serial
      rw [beq_eq_false_iff_ne]
      intro same
      refine LogicalType.spelledWith_ne_serial [] type serial ?_
      rw [← same, String.toList_ofList]
    have names := other
    simp only [LogicalType.serialNames, List.forall_mem_cons] at names
    rcases names with ⟨first, second, third, fourth, fifth, sixth, _⟩
    rw [Definition.declaredType]
    simp only [lowered, first, second, third, fourth, fifth, sixth, Bool.or_self,
      Bool.false_eq_true, if_false]
  · have noBlank : ∀ c ∈ ([] : List Char), c = ' ' := by simp
    refine LogicalType.ofSpelling_of_lowers noBlank ?_
    rw [String.toList_ofList, LogicalType.trim_spelledWith]
    exact lowers.idem

/-- The catalog shows a counting type as the whole number that it counts with. -/
theorem Definition.declaredType_bigserial :
    Definition.declaredType "BIGSERIAL" = ("bigint", some "nextval()") := by decide

/-- A name as it is parsed: with quotes where it was written with them. -/
def Identifier.toSql (identifier : Identifier) : Sql.Name :=
  ⟨identifier.name, if identifier.needsQuotes then some '\"' else none⟩

theorem Identifier.eq_of_name_eq {first second : Identifier} (same : first.name = second.name) :
    first = second := by
  cases first
  cases second
  cases same
  rfl

theorem Identifier.ascii (identifier : Identifier) {c : Char}
    (present : c ∈ identifier.name.toList) : c.toNat < 128 := by
  have valid := identifier.valid
  rw [isValidName, Bool.and_eq_true] at valid
  have part : isIdentifierStart c = true ∨ isIdentifierPart c = true := by
    cases name : identifier.name.toList with
    | nil =>
        rw [name] at present
        cases present
    | cons first rest =>
        rw [name] at present valid
        have form := valid.1
        rw [isIdentifierForm, Bool.and_eq_true, List.all_eq_true] at form
        rcases List.mem_cons.mp present with same | later
        · exact .inl (same ▸ form.1)
        · exact .inr (form.2 c later)
  have bounds : ('a' ≤ c ∧ c ≤ 'z' ∨ 'A' ≤ c ∧ c ≤ 'Z') ∨ ('0' ≤ c ∧ c ≤ '9') ∨ c = '_' := by
    rcases part with first | other
    · simp only [isIdentifierStart, Text.isAsciiLetter, Bool.or_eq_true, Bool.and_eq_true,
        decide_eq_true_eq, beq_iff_eq] at first
      exact first.imp_right .inr
    · simp only [isIdentifierPart, Text.isAsciiLetter, Text.isAsciiDigit, Bool.or_eq_true,
        Bool.and_eq_true, decide_eq_true_eq, beq_iff_eq] at other
      exact or_assoc.mp other
  have least : ∀ {last : Char}, c ≤ last → last.toNat < 128 → c.toNat < 128 :=
    fun before small => Nat.lt_of_le_of_lt (Char.le_def.mp before) small
  rcases bounds with (⟨_, last⟩ | ⟨_, last⟩) | ⟨_, last⟩ | same
  · exact least last (by decide)
  · exact least last (by decide)
  · exact least last (by decide)
  · exact same ▸ by decide

/-- A name stands for itself once it is parsed. -/
theorem Identifier.folded_toSql (identifier : Identifier) :
    identifier.toSql.folded = identifier.name := by
  unfold Identifier.toSql Sql.Name.folded
  by_cases quoted : identifier.needsQuotes = true
  · simp [quoted]
  · have lowerCase : ∀ c ∈ identifier.name.toList, Text.lowerAscii c = c := by
      intro c present
      rw [Identifier.needsQuotes, Bool.or_eq_true, not_or, Bool.not_eq_true, Bool.not_eq_true,
        List.any_eq_false] at quoted
      have small := quoted.2 c present
      rw [Bool.not_eq_true, Text.isAsciiUpper] at small
      rw [Text.lowerAscii, small]
      rfl
    simp only [quoted, Bool.false_eq_true, if_false, Option.isSome_none]
    rw [Text.lowerString, Text.lower_of_ascii (fun c => identifier.ascii),
      List.map_congr_left (g := id) lowerCase, List.map_id, String.ofList_toList]

/-- A column as it is parsed. -/
def ColumnDefinition.toSql (column : ColumnDefinition) : Sql.ColumnDeclaration where
  name := column.name.toSql
  dataType := if column.autoIncrement then "BIGSERIAL" else column.type.toSql
  collation := ""
  options :=
    if column.primaryKey then [(none, .unique true "")]
    else if column.nullable then [] else [(none, .notNull)]

/-- A statement as its text is parsed. -/
def DdlStatement.toSql : DdlStatement → Sql.Statement
  | createTable table columns =>
    .createTable "" true [table.toSql] (columns.map (·.toSql)) [] ""
  | addColumn table column => .alterTable "" [table.toSql] [.addColumn " COLUMN" true column.toSql]
  | createIndex name table columns =>
    .createIndex false false true (some [name.toSql]) [table.toSql] none
      (columns.map fun column => ⟨.column [column.toSql], ""⟩) ""
  | alterColumnType table column type _ =>
    .alterTable "" [table.toSql]
      [.setType column.toSql type.toSql
        (some (.cast .doubleColon (.column [column.toSql]) type.toSql))]

/-- The text of a statement is parsed as the statement that it renders, in canonical spelling. -/
def DdlStatement.Parses (statement : DdlStatement) : Prop :=
  Sql.Statement.ofText? .postgres statement.toDdl.toList = some [statement.toSql]

namespace Sql

/-- Two options of a column are the same mark of a key or of no nulls. -/
def ColumnOption.agrees : ColumnOption → ColumnOption → Bool
  | .notNull, .notNull => true
  | .unique primary characteristics, .unique key others =>
    primary == key && characteristics == others
  | _, _ => false

/-- Two expressions are the same name, or the same cast of a name. -/
def Expr.agrees : Expr → Expr → Bool
  | .column name, .column label => name == label
  | .cast form (.column name) type, .cast way (.column label) kind =>
    form == way && name == label && type == kind
  | _, _ => false

def listAgrees {Element : Type} (agrees : Element → Element → Bool) :
    List Element → List Element → Bool
  | [], [] => true
  | first :: rest, other :: others => agrees first other && listAgrees agrees rest others
  | _, _ => false

/-- Two declarations of a column agree. -/
def ColumnDeclaration.agrees (first second : ColumnDeclaration) : Bool :=
  first.name == second.name && first.dataType == second.dataType
    && first.collation == second.collation
    && listAgrees (fun option other => option.1 == other.1 && option.2.agrees other.2)
      first.options second.options

/-- Two columns of an index agree. -/
def IndexColumn.agrees (first second : IndexColumn) : Bool :=
  first.expr.agrees second.expr && first.order == second.order

/-- Two changes of a table add the same column or set the same type. -/
def TableChange.agrees : TableChange → TableChange → Bool
  | .addColumn words guarded column, .addColumn others free declared =>
    words == others && guarded == free && column.agrees declared
  | .setType column type (some conversion), .setType label kind (some change) =>
    column == label && type == kind && conversion.agrees change
  | _, _ => false

/-- Two statements are the same definition, as far as definitions of tables, columns and indexes
go. -/
def Statement.agrees : Statement → Statement → Bool
  | .createTable lead guarded table columns [] tail, .createTable words free owner others [] rest =>
    lead == words && guarded == free && table == owner
      && listAgrees ColumnDeclaration.agrees columns others && tail == rest
  | .createIndex unique concurrent guarded name table method columns tail,
    .createIndex single apart free label owner way others rest =>
    unique == single && concurrent == apart && guarded == free && name == label && table == owner
      && method == way && listAgrees IndexColumn.agrees columns others && tail == rest
  | .alterTable lead table changes, .alterTable words owner others =>
    lead == words && table == owner && listAgrees TableChange.agrees changes others
  | _, _ => false

/-- Lists that agree are the same where elements that agree are. -/
theorem eq_of_listAgrees {Element : Type} {agrees : Element → Element → Bool}
    (sound : ∀ {first second}, agrees first second = true → first = second)
    {first second : List Element} (same : listAgrees agrees first second = true) :
    first = second := by
  induction first generalizing second with
  | nil =>
      cases second with
      | nil => rfl
      | cons other others => cases same
  | cons head rest inductionHypothesis =>
      cases second with
      | nil => cases same
      | cons other others =>
          rw [listAgrees, Bool.and_eq_true] at same
          rw [sound same.1, inductionHypothesis same.2]

/-- A list agrees with itself where its elements do. -/
theorem listAgrees_self {Element : Type} (agrees : Element → Element → Bool)
    {elements : List Element} (complete : ∀ element ∈ elements, agrees element element = true) :
    listAgrees agrees elements elements = true := by
  induction elements with
  | nil => rfl
  | cons head rest inductionHypothesis =>
      rw [listAgrees, complete head List.mem_cons_self, Bool.true_and]
      exact inductionHypothesis fun element present => complete element (List.mem_cons_of_mem _ present)

theorem Statement.eq_of_agrees {first second : Statement} (same : first.agrees second = true) :
    first = second := by
  have expr : ∀ {first second : Expr}, first.agrees second = true → first = second := by
    intro first second same
    unfold Expr.agrees at same
    split at same <;> simp_all
  have option : ∀ {first second : ColumnOption}, first.agrees second = true → first = second := by
    intro first second same
    unfold ColumnOption.agrees at same
    split at same <;> simp_all
  have column : ∀ {first second : ColumnDeclaration}, first.agrees second = true →
      first = second := by
    intro first second same
    rcases first with ⟨name, type, collation, options⟩
    rcases second with ⟨other, kind, order, marks⟩
    simp only [ColumnDeclaration.agrees, Bool.and_eq_true, beq_iff_eq] at same
    have marked : options = marks := eq_of_listAgrees (by
      rintro ⟨label, mark⟩ ⟨tag, sign⟩ agreed
      rw [Bool.and_eq_true, beq_iff_eq] at agreed
      exact Prod.ext agreed.1 (option agreed.2)) same.2
    rw [same.1.1.1, same.1.1.2, same.1.2, marked]
  have index : ∀ {first second : IndexColumn}, first.agrees second = true → first = second := by
    intro first second same
    rcases first with ⟨part, order⟩
    rcases second with ⟨other, way⟩
    simp only [IndexColumn.agrees, Bool.and_eq_true, beq_iff_eq] at same
    rw [expr same.1, same.2]
  have change : ∀ {first second : TableChange}, first.agrees second = true → first = second := by
    intro first second same
    unfold TableChange.agrees at same
    split at same
    · simp only [Bool.and_eq_true, beq_iff_eq] at same
      rw [same.1.1, same.1.2, column same.2]
    · simp only [Bool.and_eq_true, beq_iff_eq] at same
      rw [same.1.1, same.1.2, expr same.2]
    · cases same
  unfold Statement.agrees at same
  split at same
  · simp only [Bool.and_eq_true, beq_iff_eq] at same
    rcases same with ⟨⟨⟨⟨lead, guarded⟩, table⟩, columns⟩, tail⟩
    rw [lead, guarded, table, eq_of_listAgrees column columns, tail]
  · simp only [Bool.and_eq_true, beq_iff_eq] at same
    rcases same with ⟨⟨⟨⟨⟨⟨⟨unique, apart⟩, guarded⟩, name⟩, table⟩, method⟩, columns⟩, tail⟩
    rw [unique, apart, guarded, name, table, method, eq_of_listAgrees index columns, tail]
  · simp only [Bool.and_eq_true, beq_iff_eq] at same
    rcases same with ⟨⟨lead, table⟩, changes⟩
    rw [lead, table, eq_of_listAgrees change changes]
  · cases same

end Sql

/-- A statement agrees with itself once it is parsed. -/
theorem DdlStatement.agrees_toSql (statement : DdlStatement) :
    statement.toSql.agrees statement.toSql = true := by
  have column : ∀ column : ColumnDefinition, column.toSql.agrees column.toSql = true := by
    intro column
    unfold ColumnDefinition.toSql Sql.ColumnDeclaration.agrees
    cases column.primaryKey <;> cases column.nullable <;>
      simp [Sql.listAgrees, Sql.ColumnOption.agrees]
  cases statement with
  | createTable table columns =>
      have complete : ∀ declaration ∈ columns.map (·.toSql),
          Sql.ColumnDeclaration.agrees declaration declaration = true := by
        intro declaration present
        obtain ⟨definition, _, rfl⟩ := List.mem_map.mp present
        exact column definition
      have listed := Sql.listAgrees_self _ complete
      simp [toSql, Sql.Statement.agrees, listed]
  | addColumn table definition =>
      simp [toSql, Sql.Statement.agrees, Sql.listAgrees, Sql.TableChange.agrees, column]
  | createIndex name table columns =>
      have complete : ∀ part ∈ columns.map fun column => ⟨.column [column.toSql], ""⟩,
          Sql.IndexColumn.agrees part part = true := by
        intro part present
        obtain ⟨column, _, rfl⟩ := List.mem_map.mp present
        simp [Sql.IndexColumn.agrees, Sql.Expr.agrees]
      have listed := Sql.listAgrees_self _ complete
      simp [toSql, Sql.Statement.agrees, listed]
  | alterColumnType table column type previous =>
      simp [toSql, Sql.Statement.agrees, Sql.listAgrees, Sql.TableChange.agrees, Sql.Expr.agrees]

end SchemaDrift
