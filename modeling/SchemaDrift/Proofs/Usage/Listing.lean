import SchemaDrift.Proofs.Usage.Texts
import SchemaDrift.Sql.Grammar.Statement

namespace SchemaDrift

open Sql

/-- New relations are bound behind others. What they are alone is the table that a column without a
qualifier belongs to. -/
def Binds (bound : List Binding) (lone : Option String) (bindings : List Binding) : Prop :=
  ∃ first rest, bindings = bound ++ first :: rest ∧
    (Scopes.start.entering (first :: rest)).onlyTable = lone

mutual

/-- A relation outside all named queries is bound. -/
theorem binds_factor : ∀ (factor : Factor) (bound : List Binding) (before : Findings),
    Binds bound factor.lone? (bindFactor .start bound factor before).1
  | .table name extras label hints, bound, before => by
      have free : Scopes.start.isDefinition name = false := by
        unfold Scopes.isDefinition
        split <;> rfl
      rw [bindFactor, free, if_neg Bool.false_ne_true, Factor.lone?]
      split
      next table found => exact ⟨_, [], rfl, found.symm⟩
      next absent => exact ⟨_, [], rfl, absent.symm⟩
  | .derived lateral query label, bound, before => ⟨_, [], rfl, rfl⟩
  | .joined source label, bound, before => binds_source source bound before
  | .phrase text, bound, before => ⟨_, [], rfl, rfl⟩

/-- The relations of a source outside all named queries are bound. -/
theorem binds_source : ∀ (source : Source) (bound : List Binding) (before : Findings),
    Binds bound source.lone? (bindSource .start bound source before).1
  | .mk factor joins, bound, before => by
      obtain ⟨first, rest, same, only⟩ := binds_factor factor bound before
      obtain ⟨others, more, enough⟩ := binds_joins joins (bindFactor .start bound factor before).1
        (bindFactor .start bound factor before).2
      cases joins with
      | nil => exact ⟨first, rest, same, only⟩
      | cons join joins =>
          refine ⟨first, rest ++ others, more.trans ?_, ?_⟩
          · rw [same, List.append_assoc, List.cons_append]
          · cases others with
            | nil => cases enough
            | cons => cases rest <;> rfl

/-- Each join outside all named queries binds a relation. -/
theorem binds_joins : ∀ (joins : List Join) (bound : List Binding) (before : Findings),
    ∃ rest, (bindJoins .start bound joins before).1 = bound ++ rest ∧ joins.length ≤ rest.length
  | [], bound, before => ⟨[], (List.append_nil bound).symm, Nat.le_refl _⟩
  | .mk _ factor _ :: joins, bound, before => by
      obtain ⟨first, rest, same, -⟩ := binds_factor factor bound before
      obtain ⟨others, more, enough⟩ := binds_joins joins (bindFactor .start bound factor before).1
        (bindFactor .start bound factor before).2
      refine ⟨first :: (rest ++ others), more.trans ?_, ?_⟩
      · rw [same, List.append_assoc, List.cons_append]
      · rw [List.length_cons, List.length_cons, List.length_append]
        omega

end

/-- What is updated is the one table that its source consists of. -/
theorem onlyTable_bindSource (source : Source) (before : Findings) :
    (Scopes.start.entering (bindSource .start [] source before).1).onlyTable = source.lone? := by
  obtain ⟨first, rest, same, only⟩ := binds_source source [] before
  rw [same]
  exact only

theorem tables_foldl_add {Element : Type} (usage : Element → ColumnUsage) (elements : List Element)
    (findings : Findings) :
    (elements.foldl (fun found element => found.add (usage element)) findings).tables =
      findings.tables := by
  induction elements generalizing findings with
  | nil => rfl
  | cons element elements inductionHypothesis => exact inductionHypothesis _

section Insertion

variable {place : Place} (reached : place.reached = true) (agrees : Scopes.start.Agrees place)
include reached agrees

/-- The values of a row that is inserted are walked over. -/
theorem gains_walkRow (table : String) (columns : List String) (row : List Expr)
    (before : Findings) :
    before.Gains (takenAll (place.exprs row)) (walkRow table columns row before) := by
  induction row generalizing columns before with
  | nil => cases columns <;> exact .refl before
  | cons value row inductionHypothesis =>
      have first := fun before => walked reached (.expr value) _ agrees before .read
      cases columns with
      | nil => exact (first before).trans (inductionHypothesis [] _)
      | cons column columns =>
          let added := before.add (.plain table column .write (valuesOf value))
          have gained : before.Gains _ _ := (first added).of_tables_eq rfl
          exact gained.trans (inductionHypothesis columns _)

/-- The rows that are inserted are walked over. -/
theorem gains_walkRows (table : String) (columns : List String) (rows : List (List Expr))
    (before : Findings) :
    before.Gains (takenAll (place.exprs rows.flatten))
      (rows.foldl (fun found row => walkRow table columns row found) before) := by
  induction rows generalizing before with
  | nil => exact .refl before
  | cons row rows inductionHypothesis =>
      rw [List.flatten_cons, takenAll_exprs_append]
      exact (gains_walkRow reached agrees table columns row before).trans (inductionHypothesis _)

end Insertion

theorem gains_walkInsertion (table : String) (columns : List String) (source : Option Query)
    (before : Findings) :
    before.Gains (takenAll ((Place.outermost true).inserted source))
      (walkInsertion table columns source before) := by
  have listed := tables_foldl_add (fun column => .plain table column .write []) columns before
  cases source with
  | none => exact .of_tables_eq (.refl _) listed
  | some query =>
      obtain ⟨recursive, definitions, body, tail⟩ := query
      cases body with
      | values lead rows =>
          have named : takenAll ((Place.outermost true).passed.definitions recursive
              (definitionNames definitions) [] definitions) = [] :=
            takenAll_unreached fun child among => Place.reached_of_mem_definitions among
          rw [Place.inserted, takenAll_append, named]
          exact gains_walkRows rfl (fun _ => rfl) table columns rows before
      | select | query | combination | phrase =>
          show before.Gains (takenAll [(.outermost true, .query _)]) _
          rw [takenAll_singleton]
          exact (walked rfl (.query _) _ (.outermost true) _).of_tables_eq listed

theorem gains_walkAssignments {place : Place} (reached : place.reached = true) {scopes : Scopes}
    (agrees : scopes.Agrees place) (table : String) (assignments : List Assignment)
    (before : Findings) :
    before.Gains (takenAll (place.exprs (assignments.map (·.value))))
      (assignments.foldl (fun found assignment => walkAssignment scopes table assignment found)
        before) := by
  induction assignments generalizing before with
  | nil => exact .refl before
  | cons assignment assignments inductionHypothesis =>
      have value := fun before => walked reached (.expr assignment.value) _ agrees before .read
      exact ((value _).of_tables_eq (tables_foldl_add _ _ before)).trans (inductionHypothesis _)

namespace Sql.Statement

def Lists (statement : Statement) (table : String) : Prop :=
  ∃ usage ∈ StatementUsage.ofStatement? statement, table ∈ usage.tables

instance (statement : Statement) (table : String) : Decidable (statement.Lists table) :=
  inferInstanceAs (Decidable (∃ usage ∈ StatementUsage.ofStatement? statement, _))

theorem lists_iff_found (statement : Statement) (table : String) :
    statement.Lists table ↔ ∃ found ∈ findings? statement, table ∈ found.2.2.tables := by
  unfold Lists StatementUsage.ofStatement?
  cases findings? statement with
  | none => simp
  | some found =>
      obtain ⟨kind, target, found⟩ := found
      cases empty : found.tables <;> simp [empty]

/-- What is found in an update of one table alone. -/
theorem findings?_update {target : Source} {name : String} (known : target.lone? = some name)
    (lead : String) (assignments : List Assignment) (source : Option Source)
    (condition : Option Expr) (returning : String) :
    let bound := bindSource .start [] target ⟨[], []⟩
    let scopes := Scopes.start.entering bound.1
    findings? (.update lead target assignments source condition returning) =
      some (.update, some name, walkExprs scopes .filter condition.toList (assignments.foldl
        (fun found assignment => walkAssignment scopes name assignment found) bound.2)) := by
  have only := (onlyTable_bindSource target ⟨[], []⟩).trans known
  cases condition <;> simp [findings?, only, walkExprs]

/-- What is found in an update of one table alone are the tables of its parts. -/
theorem gains_update {target : Source} {name : String} (known : target.lone? = some name)
    (lead : String) (assignments : List Assignment) (source : Option Source)
    (condition : Option Expr) (returning : String) :
    let bound := bindSource .start [] target ⟨[], []⟩
    let scopes := Scopes.start.entering bound.1
    Findings.Gains ⟨[], []⟩
      (takenAll (Statement.update lead target assignments source condition returning).parts)
      (walkExprs scopes .filter condition.toList (assignments.foldl
        (fun found assignment => walkAssignment scopes name assignment found) bound.2)) := by
  intro bound scopes
  have factors : ∀ factor ∈ target.factors, Walked (.outermost true) (.factor factor) :=
    fun factor _ => walked rfl (.factor factor)
  have filters : ∀ expr ∈ condition.toList, Walked (.outermost true) (.expr expr) :=
    fun expr _ => walked rfl (.expr expr)
  have updated := gains_bindSource (.outermost true) factors [] ⟨[], []⟩
  have inner : scopes.Agrees (.outermost true) := (Scopes.Agrees.outermost true).entering bound.1
  have assigned := gains_walkAssignments rfl inner name assignments bound.2
  have gained := updated.trans (assigned.trans (gains_walkExprs inner filters .filter _))
  have passed : (Place.outermost true).passed.reached = false := rfl
  rw [← takenAll_exprs_append] at gained
  simpa only [parts, known, Option.isSome_some, takenAll_append, takenAll_exprs_unreached passed,
    takenAll_factors_unreached passed, List.append_nil] using gained

/-- What is found in a statement is the table that it is made for and those that the mentions in it are
taken for. -/
theorem gains_of_findings? {statement : Statement} {kind : StatementKind} {target : Option String}
    {found : Findings} (known : findings? statement = some (kind, target, found)) :
    Findings.Gains ⟨(statement.target?.bind tableOf).toList, []⟩ (takenAll statement.parts)
      found := by
  cases statement with
  | query selection =>
      cases known
      rw [parts, takenAll_singleton]
      exact walked rfl (.query selection) .start (.outermost true) ⟨[], []⟩
  | insert lead name label columns source tail =>
      obtain ⟨table, named, rest⟩ := Option.bind_eq_some_iff.mp known
      cases rest
      rw [parts, target?, Option.bind_some, named]
      exact gains_walkInsertion table (columns.map Name.folded) source ⟨[table], []⟩
  | update lead source assignments further condition returning =>
      cases lone : source.lone? with
      | none =>
          have only := (onlyTable_bindSource source ⟨[], []⟩).trans lone
          simp [findings?, only] at known
      | some table =>
          rw [findings?_update lone] at known
          cases known
          exact gains_update lone lead assignments further condition returning
  | createTable | createIndex | alterTable =>
      obtain ⟨table, named, rest⟩ := Option.bind_eq_some_iff.mp known
      cases rest
      show Findings.Gains ⟨(tableOf _).toList, []⟩ [] _
      rw [named]
      exact .of_tables_eq (.refl _) rfl
  | other text => cases known

/-- A statement in which nothing is found is made for no table, and no mention in it is taken for
one. -/
theorem nothing_taken_of_findings? {statement : Statement} (unknown : findings? statement = none) :
    statement.target?.bind tableOf = none ∧ takenAll statement.parts = [] := by
  cases statement with
  | query selection => cases unknown
  | insert lead name label columns source tail =>
      have absent : tableOf name = none :=
        Option.eq_none_iff_forall_ne_some.mpr (by simpa [findings?] using unknown)
      refine ⟨absent, takenAll_unreached fun child among => Bool.eq_false_iff.mpr fun reached => ?_⟩
      have comes := Place.reached_of_mem_inserted among reached
      rw [absent] at comes
      cases comes
  | update lead source assignments further condition returning =>
      have alone : source.lone? = none :=
        Option.eq_none_iff_forall_ne_some.mpr (by
          simpa [findings?, onlyTable_bindSource] using unknown)
      refine ⟨rfl, ?_⟩
      rw [parts, takenAll_append, takenAll_append, takenAll_append]
      simp [alone, takenAll_exprs_unreached, takenAll_factors_unreached, Place.passed,
        Place.outermost]
  | createTable | createIndex | alterTable =>
      have absent : tableOf _ = none :=
        Option.eq_none_iff_forall_ne_some.mpr (by simpa [findings?] using unknown)
      exact ⟨absent, rfl⟩
  | other text => exact ⟨rfl, rfl⟩

/-- Whether a table is listed for a statement is a matter of its target and of the mentions in it. -/
theorem lists_iff (statement : Statement) (table : String) :
    statement.Lists table ↔ statement.target?.bind tableOf = some table ∨
      ∃ mention ∈ statement.mentions, mention.taken? = some table := by
  rw [lists_iff_found, mentions, ← mem_takenAll_iff]
  cases known : findings? statement with
  | none =>
      obtain ⟨untargeted, untaken⟩ := nothing_taken_of_findings? known
      simp [untargeted, untaken]
  | some found =>
      obtain ⟨kind, target, found⟩ := found
      simpa using (gains_of_findings? known).mem_iff table

/-- The statements of a text, none if it is not read. -/
def ofText (text : String) : List Statement := (ofText? .postgres text.toList).getD []

/-- Statements that differ only in what the tree keeps as text list the same tables. -/
theorem Alike.lists_iff {statement other : Statement} (alike : statement.Alike other)
    (table : String) : other.Lists table ↔ statement.Lists table := by
  rw [Statement.lists_iff, Statement.lists_iff, alike.target?, alike.mentions]

/-- The tables that are listed for a statement are the one that the statement is made for, and those
that are named where something is selected or joined at some depth, by a plain name or as a call, if
the extraction comes to the place and no named query around the place has the name. -/
theorem mem_tables_iff {statement : Statement} {usage : StatementUsage}
    (extracted : StatementUsage.ofStatement? statement = some usage) (table : String) :
    table ∈ usage.tables ↔ statement.target?.bind tableOf = some table ∨
      ∃ mention ∈ statement.mentions, tableOf mention.name = some table ∧
        mention.place.reached = true ∧ mention.isAmong mention.place.around = false := by
  have listed : statement.Lists table ↔ table ∈ usage.tables := by
    simp [Lists, extracted]
  rw [← listed, lists_iff]
  simp only [Mention.taken?_eq_some_iff]

/-- Orders that a selection inside a selection is made from are named. -/
theorem mem_tables_iff_orders :
    ∃ statement ∈ ofText "SELECT * FROM (SELECT * FROM orders) AS recent",
      statement.target?.bind tableOf = some "orders" ∨
        ∃ mention ∈ statement.mentions, tableOf mention.name = some "orders" ∧
          mention.place.reached = true ∧ mention.isAmong mention.place.around = false := by
  have extracted : ∃ statement ∈ ofText "SELECT * FROM (SELECT * FROM orders) AS recent",
      StatementUsage.ofStatement? statement = some ⟨.select, none, ["orders"], []⟩ := by
    decide +kernel
  obtain ⟨statement, read, extracted⟩ := extracted
  exact ⟨statement, read, (mem_tables_iff extracted "orders").mp (List.mem_singleton_self "orders")⟩

/-- A function that gives rows is listed as a table, although nothing but a call names it. -/
theorem lists_call :
    ∃ statement ∈ ofText "SELECT * FROM generate_series(1, 10) AS n",
      statement.Lists "generate_series" ∧ statement.target?.bind tableOf ≠ some "generate_series" ∧
        ∀ mention ∈ statement.mentions, tableOf mention.name = some "generate_series" →
          mention.called = true := by
  decide +kernel

/-- A statement of a text names a table in the scopes of SQL, and the table is not listed for it. -/
def Overlooks (text table : String) : Prop :=
  ∃ statement ∈ ofText text,
    (∃ mention ∈ statement.mentions, mention.table? = some table) ∧ ¬statement.Lists table

instance (text table : String) : Decidable (Overlooks text table) :=
  inferInstanceAs (Decidable (∃ statement ∈ ofText text, _))

end Sql.Statement

end SchemaDrift
