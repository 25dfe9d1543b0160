import SchemaDrift.Fix.Synthesis
import SchemaDrift.Proofs.Ddl.Effect
import SchemaDrift.Proofs.Result

namespace SchemaDrift

/-- A type outside text is still one when the catalog has read it. -/
theorem LogicalType.isText_canonical {type : LogicalType} (specific : type.isSpecific = true) :
    type.canonical.isText = false := by
  cases type with
  | string => cases specific
  | varchar length => cases specific
  | unknown => cases specific
  | decimal precision scale => cases precision <;> cases scale <;> rfl
  | _ => rfl

namespace Synthesis

theorem identifier_ok_iff (name : String) (found : Identifier) :
    identifier name = .ok found ↔ found.name = name := by
  rw [identifier, Result.mapError_ok_iff, Identifier.ofName]
  by_cases valid : isValidName name = true
  · simp only [valid, dif_pos, Except.ok.injEq]
    constructor
    · rintro rfl
      rfl
    · rintro rfl
      rfl
  · simp only [valid, dif_neg, Bool.false_eq_true, not_false_eq_true, reduceCtorEq, false_iff]
    rintro rfl
    exact valid found.valid

theorem columnOf_ok_iff (issue : Issue) (found : Identifier) :
    columnOf issue = .ok found ↔ issue.column = some found.name := by
  rw [columnOf]
  cases issue.column with
  | none => simp
  | some column =>
      simp only [identifier_ok_iff, Option.some.injEq]
      exact eq_comm

/-- The columns of a new table are its key and those that code expects beside it. -/
theorem tableColumns_ok {columns : List ExpectedColumn} {definitions : List ColumnDefinition}
    (made : tableColumns columns = .ok definitions) :
    ∃ name others, name.name = keyName ∧ definitions = keyColumn name columns :: others ∧
      (∀ definition, definition ∈ others ↔ ∃ column ∈ columns, column.name ≠ keyName ∧
        definition.name.name = column.name ∧
        definition = .plain definition.name (columnType column.type)) ∧
      ∀ column ∈ columns, column.name ≠ keyName →
        ∃ definition ∈ others, definition.name.name = column.name := by
  unfold tableColumns at made
  rcases (Result.bind_ok_iff _ _ _).mp made with ⟨name, named, rest⟩
  rcases (Result.bind_ok_iff _ _ _).mp rest with ⟨others, computed, listed⟩
  rw [Result.pure_ok_iff] at listed
  have member : ∀ definition, definition ∈ others ↔ ∃ column ∈ columns, column.name ≠ keyName ∧
      definition.name.name = column.name ∧
      definition = .plain definition.name (columnType column.type) := by
    intro definition
    rw [Result.mem_of_mapM_ok computed]
    simp only [List.mem_filter, bne_iff_ne, Result.bind_ok_iff, identifier_ok_iff,
      Result.pure_ok_iff]
    constructor
    · rintro ⟨column, ⟨expected, other⟩, found, same, rfl⟩
      exact ⟨column, expected, other, same, rfl⟩
    · rintro ⟨column, expected, other, same, plain⟩
      exact ⟨column, ⟨expected, other⟩, definition.name, same, plain.symm⟩
  refine ⟨name, others, (identifier_ok_iff _ _).mp named, listed.symm, member, ?_⟩
  intro column expected other
  have wanted : column ∈ columns.filter (·.name != keyName) :=
    List.mem_filter.mpr ⟨expected, bne_iff_ne.mpr other⟩
  rcases (Result.exists_mapM_ok_iff _ _).mp ⟨others, computed⟩ column wanted with
    ⟨definition, defined⟩
  have present := (Result.mem_of_mapM_ok computed definition).mpr ⟨column, wanted, defined⟩
  rcases (Result.bind_ok_iff _ _ _).mp defined with ⟨found, same, plain⟩
  rw [Result.pure_ok_iff] at plain
  exact ⟨definition, present, plain ▸ (identifier_ok_iff _ _).mp same⟩

/-- The key of a new table has the name that it is given. -/
theorem keyColumn_name (name : Identifier) (columns : List ExpectedColumn) :
    (keyColumn name columns).name = name := by
  unfold keyColumn
  split
  · split <;> rfl
  · rfl

/-- What holds of the name of every key holds of the names in a new table exactly when it holds of
those that code expects. -/
theorem forall_tableColumns_iff {columns : List ExpectedColumn}
    {definitions : List ColumnDefinition} (made : tableColumns columns = .ok definitions)
    (property : String → Prop) (key : property keyName) :
    (∀ definition ∈ definitions, property definition.name.name) ↔
      ∀ column ∈ columns, property column.name := by
  obtain ⟨name, others, named, rfl, listed, whole⟩ := tableColumns_ok made
  rw [List.forall_mem_cons, keyColumn_name, named]
  constructor
  · rintro ⟨_, defined⟩ column expected
    by_cases same : column.name = keyName
    · exact same ▸ key
    · obtain ⟨definition, present, equal⟩ := whole column expected same
      exact equal ▸ defined definition present
  · intro expected
    refine ⟨key, ?_⟩
    intro definition present
    obtain ⟨column, wanted, _, equal, _⟩ := (listed definition).mp present
    exact equal ▸ expected column wanted

/-- A new table can be made when the names that code expects are valid. -/
theorem exists_tableColumns {columns : List ExpectedColumn}
    (valid : ∀ column ∈ columns, isValidName column.name = true) :
    ∃ definitions, tableColumns columns = .ok definitions := by
  have named : identifier keyName = .ok ⟨keyName, by decide⟩ := (identifier_ok_iff _ _).mpr rfl
  have computed : ∀ column ∈ columns.filter (·.name != keyName), ∃ definition,
      (do return ColumnDefinition.plain (← identifier column.name) (columnType column.type)) =
        Except.ok definition := by
    intro column wanted
    have found : identifier column.name =
        .ok ⟨column.name, valid column (List.mem_of_mem_filter wanted)⟩ :=
      (identifier_ok_iff _ _).mpr rfl
    exact ⟨_, (Result.bind_ok_iff _ _ _).mpr ⟨_, found, rfl⟩⟩
  obtain ⟨others, listed⟩ := (Result.exists_mapM_ok_iff _ _).mpr computed
  exact ⟨_, (Result.bind_ok_iff _ _ _).mpr ⟨_, named, (Result.bind_ok_iff _ _ _).mpr
    ⟨others, listed, rfl⟩⟩⟩

/-- The key of a new table has a type outside text where code expects one. -/
theorem keyColumn_type {columns : List ExpectedColumn} (name : Identifier) {column : ExpectedColumn}
    {type : LogicalType} (known : columns.find? (·.name == keyName) = some column)
    (typed : column.type = some type) (specific : type.isSpecific = true) :
    (keyColumn name columns).live.type.isText = false := by
  rw [keyColumn, known, Option.bind_some, typed]
  simp only
  split
  · rfl
  · exact LogicalType.isText_canonical specific

/-- A new table has each column that code expects, of a type outside text where code says so. -/
theorem tableColumns_covers {columns : List ExpectedColumn} {definitions : List ColumnDefinition}
    (made : tableColumns columns = .ok definitions)
    (distinct : ∀ first ∈ columns, ∀ second ∈ columns, first.name = second.name → first = second)
    {column : ExpectedColumn} (expected : column ∈ columns) :
    ∃ definition, definitions.find? (·.name.name == column.name) = some definition ∧
      ∀ type, column.type = some type → type.isSpecific = true →
        definition.live.type.isText = false := by
  rcases tableColumns_ok made with ⟨name, others, named, rfl, listed, complete⟩
  have keyed := keyColumn_name name columns
  by_cases same : column.name = keyName
  · refine ⟨keyColumn name columns, ?_, ?_⟩
    · rw [List.find?_cons_of_pos]
      rw [keyed, named, same, beq_self_eq_true]
    · intro type typed specific
      have first : columns.find? (·.name == keyName) = some column := by
        cases known : columns.find? (·.name == keyName) with
        | none =>
            have absent := List.find?_eq_none.mp known column expected
            exact absurd (beq_iff_eq.mpr same) absent
        | some other =>
            have equal : other.name = keyName := by simpa using List.find?_some known
            rw [distinct other (List.mem_of_find?_eq_some known) column expected
              (equal.trans same.symm)]
      exact keyColumn_type name first typed specific
  · rw [List.find?_cons_of_neg (by rw [keyed, named, beq_iff_eq]; exact fun equal => same equal.symm)]
    cases known : others.find? (·.name.name == column.name) with
    | none =>
        rcases complete column expected same with ⟨definition, present, equal⟩
        exact absurd (beq_iff_eq.mpr equal) (List.find?_eq_none.mp known definition present)
    | some definition =>
        refine ⟨definition, rfl, ?_⟩
        intro type typed specific
        rcases (listed definition).mp (List.mem_of_find?_eq_some known) with
          ⟨other, present, _, equal, plain⟩
        have named : definition.name.name = column.name := by simpa using List.find?_some known
        rw [distinct other present column expected (equal.symm.trans named), typed] at plain
        rw [plain]
        have unchanged : columnType (some type) = type := by
          rw [columnType, if_neg]
          rintro rfl
          cases specific
        rw [unchanged]
        exact LogicalType.isText_canonical specific

end Synthesis

open Synthesis in
/-- The statement for an issue names its table, and does what its kind asks for. -/
theorem DdlStatement.ofIssue_ok_iff (issue : Issue) (statement : DdlStatement) :
    ofIssue issue = .ok statement ↔ ∃ table, table.name = issue.table ∧
      match issue.kind with
      | .missingTable => ∃ definitions, tableColumns issue.expectedColumns = .ok definitions ∧
          statement = .createTable table definitions
      | .missingColumn => ∃ column, issue.column = some column.name ∧
          statement = .addColumn table (.plain column (columnType issue.expectedType))
      | .typeMismatch => ∃ column, issue.column = some column.name ∧
          ∃ type, expectedType issue = .ok type ∧
            statement = .alterColumnType table column type (issue.actualType.getD .unknown)
      | .missingIndex => ∃ column, issue.column = some column.name ∧
          ∃ name, indexName table column = .ok name ∧
            statement = .createIndex name table [column] := by
  rw [ofIssue, Result.bind_ok_iff]
  simp only [identifier_ok_iff]
  refine exists_congr fun table => and_congr_right fun _ => ?_
  cases issue.kind with
  | missingTable => simp only [Result.bind_ok_iff, Result.pure_ok_iff, @eq_comm _ statement]
  | missingColumn => simp only [Result.bind_ok_iff, Result.pure_ok_iff, columnOf_ok_iff, @eq_comm _ statement]
  | typeMismatch => simp only [Result.bind_ok_iff, Result.pure_ok_iff, columnOf_ok_iff, @eq_comm _ statement]
  | missingIndex =>
      simp only [Result.bind_ok_iff, Result.pure_ok_iff, columnOf_ok_iff, Result.mapError_ok_iff,
        @eq_comm _ statement]

open Synthesis in
/-- What a statement does about an issue, by the kind of the issue. -/
inductive DdlStatement.Corrects (issue : Issue) : DdlStatement → Prop where
  | newTable {table : Identifier} {definitions : List ColumnDefinition}
      (kind : issue.kind = .missingTable) (named : table.name = issue.table)
      (made : tableColumns issue.expectedColumns = .ok definitions) :
      Corrects issue (.createTable table definitions)
  | newColumn {table column : Identifier} (kind : issue.kind = .missingColumn)
      (named : table.name = issue.table) (part : issue.column = some column.name) :
      Corrects issue (.addColumn table (.plain column (columnType issue.expectedType)))
  | newType {table column : Identifier} {type : LogicalType} (kind : issue.kind = .typeMismatch)
      (named : table.name = issue.table) (part : issue.column = some column.name)
      (typed : expectedType issue = .ok type) :
      Corrects issue (.alterColumnType table column type (issue.actualType.getD .unknown))
  | newIndex {table column name : Identifier} (kind : issue.kind = .missingIndex)
      (named : table.name = issue.table) (part : issue.column = some column.name)
      (made : indexName table column = .ok name) :
      Corrects issue (.createIndex name table [column])

theorem DdlStatement.ofIssue_iff_corrects (issue : Issue) (statement : DdlStatement) :
    ofIssue issue = .ok statement ↔ Corrects issue statement := by
  rw [ofIssue_ok_iff]
  constructor
  · rintro ⟨table, named, form⟩
    cases kind : issue.kind with
    | missingTable =>
        rw [kind] at form
        obtain ⟨definitions, made, rfl⟩ := form
        exact .newTable kind named made
    | missingColumn =>
        rw [kind] at form
        obtain ⟨column, part, rfl⟩ := form
        exact .newColumn kind named part
    | typeMismatch =>
        rw [kind] at form
        obtain ⟨column, part, type, typed, rfl⟩ := form
        exact .newType kind named part typed
    | missingIndex =>
        rw [kind] at form
        obtain ⟨column, part, name, made, rfl⟩ := form
        exact .newIndex kind named part made
  · intro corrects
    cases corrects with
    | newTable kind named made => exact ⟨_, named, by rw [kind]; exact ⟨_, made, rfl⟩⟩
    | newColumn kind named part => exact ⟨_, named, by rw [kind]; exact ⟨_, part, rfl⟩⟩
    | newType kind named part typed =>
        exact ⟨_, named, by rw [kind]; exact ⟨_, part, _, typed, rfl⟩⟩
    | newIndex kind named part made =>
        exact ⟨_, named, by rw [kind]; exact ⟨_, part, _, made, rfl⟩⟩

end SchemaDrift
