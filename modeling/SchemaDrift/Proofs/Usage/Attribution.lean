import SchemaDrift.Proofs.Usage.Clauses
import SchemaDrift.Proofs.Usage.Columns
import SchemaDrift.Proofs.Usage.Listing

namespace SchemaDrift

open Sql

namespace Sql

/-- The innermost scope holds one table if one relation is bound, which is taken for it. -/
theorem Site.onlyTable_eq_some_iff (site : Site) (table : String) :
    site.scopes.onlyTable = some table ↔
      ∃ occupant, site.bound = [occupant] ∧ occupant.taken? = some table := by
  obtain ⟨place, clause, frames⟩ := site
  rcases frames with _ | ⟨_ | ⟨occupant, _ | ⟨next, rest⟩⟩, outer⟩ <;>
    simp [scopes, Scopes.onlyTable, bound, Occupant.binding]

/-- A column without a qualifier is taken for one of the table that is bound alone. -/
theorem Reference.attributed?_eq_some_iff {reference : Reference} {name : Name}
    (unqualified : reference.name = [name]) (table column : String) :
    reference.attributed? = some (table, column) ↔
      column = name.folded ∧ reference.site.place.reached = true ∧
        ∃ occupant, reference.site.bound = [occupant] ∧ occupant.taken? = some table := by
  rw [← Site.onlyTable_eq_some_iff, attributed?, unqualified, Option.ite_none_right_eq_some]
  simp only [Scopes.resolve, List.reverse_singleton, Option.map_eq_some_iff, Prod.mk.injEq]
  grind

end Sql

namespace Findings

variable {before between after : Findings} {first second third fourth : List (String × String)}

/-- What two walks add in two kinds each may be told apart by kind. -/
theorem Adds.interleave (adds : before.Adds (first ++ second) between)
    (more : between.Adds (third ++ fourth) after) :
    before.Adds ((first ++ third) ++ (second ++ fourth)) after := by
  refine (adds.trans more).perm ?_
  rw [List.append_assoc, List.append_assoc]
  exact (List.perm_append_comm_assoc second third fourth).append_left first

/-- Uses of columns are added one after the other. -/
theorem adds_foldl_add {Element : Type} (usage : Element → ColumnUsage) (elements : List Element)
    (before : Findings) :
    before.Adds (elements.map fun element => (usage element).used)
      (elements.foldl (fun found element => found.add (usage element)) before) := by
  induction elements generalizing before with
  | nil => exact .refl before
  | cons element elements inductionHypothesis =>
      exact (adds_add (usage element) before).trans (inductionHypothesis _)

end Findings

section Insertion

variable {site : Site} (reached : site.place.reached = true) (holds : Scopes.start.Holds site)
include reached holds

/-- A row that is inserted adds the columns that have a value, and those of its values. -/
theorem adds_walkRow (table : String) (columns : List String) (row : List Expr)
    (before : Findings) :
    before.Adds (((columns.zip row).map fun cell => (table, cell.1)) ++ usesAll (site.exprs row))
      (walkRow table columns row before) := by
  induction row generalizing columns before with
  | nil => cases columns <;> exact .refl before
  | cons value row inductionHypothesis =>
      have first := fun before => noted reached (.expr value) .start before holds .read
      cases columns with
      | nil =>
          have rest := inductionHypothesis [] (walkExpr .start .read value before)
          rw [List.zip_nil_left] at rest ⊢
          exact (first before).trans rest
      | cons column columns =>
          have added := Findings.adds_add (.plain table column .write (valuesOf value)) before
          exact (added.trans (first _)).interleave (inductionHypothesis columns _)

theorem adds_walkRows (table : String) (columns : List String) (rows : List (List Expr))
    (before : Findings) :
    before.Adds
      ((rows.flatMap fun row => (columns.zip row).map fun cell => (table, cell.1)) ++
        usesAll (site.exprs rows.flatten))
      (rows.foldl (fun found row => walkRow table columns row found) before) := by
  induction rows generalizing before with
  | nil => exact .refl before
  | cons row rows inductionHypothesis =>
      rw [List.flatten_cons, usesAll_exprs_append, List.flatMap_cons]
      exact (adds_walkRow reached holds table columns row before).interleave (inductionHypothesis _)

end Insertion

/-- Assignments add the columns that they write, and those of their values. -/
theorem adds_walkAssignments {site : Site} (reached : site.place.reached = true) {scopes : Scopes}
    (holds : scopes.Holds site) (table : String) (assignments : List Assignment)
    (before : Findings) :
    before.Adds
      ((assignments.flatMap fun assignment => assignment.target.columns.map (table, ·)) ++
        usesAll (site.exprs (assignments.map (·.value))))
      (assignments.foldl (fun found assignment => walkAssignment scopes table assignment found)
        before) := by
  induction assignments generalizing before with
  | nil => exact .refl before
  | cons assignment assignments inductionHypothesis =>
      have written := Findings.adds_foldl_add
        (fun column => .plain table column .write (valuesOf assignment.value))
        assignment.target.columns before
      have value := fun before => noted reached (.expr assignment.value) scopes before holds .read
      exact (written.trans (value _)).interleave (inductionHypothesis _)

/-- What is inserted adds the columns that are inserted into, and those of what is inserted. -/
theorem adds_walkInsertion (lead : String) {target : QualifiedName} {table : String}
    (known : tableOf target = some table) (label : Option Name) (columns : List Name)
    (source : Option Query) (tail : String) (before : Findings) :
    let statement := Statement.insert lead target label columns source tail
    before.Adds (statement.targeted.map (table, ·) ++ usesAll statement.sites)
      (walkInsertion table (columns.map Name.folded) source before) := by
  intro statement
  have listed := Findings.adds_foldl_add (fun column => .plain table column .write [])
    (columns.map Name.folded) before
  have sites : statement.sites = (Site.outermost true).inserted source := by
    rw [Statement.sites, known]
    rfl
  rw [sites]
  cases source with
  | none =>
      rw [Site.inserted, usesAll_nil, List.append_nil]
      exact listed
  | some query =>
      obtain ⟨recursive, definitions, body, tail⟩ := query
      cases body with
      | values lead rows =>
          have named : usesAll ((Site.outermost true).passed.definitions recursive definitions) = [] :=
            usesAll_unreached fun child among => Site.reached_of_mem_definitions among
          have holds : Scopes.start.Holds
              ((Site.outermost true).below (definitionNames definitions) []) :=
            ⟨.outermost true, rfl⟩
          have rowwise := adds_walkRows rfl holds table (columns.map Name.folded) rows before
          rw [Site.inserted, usesAll_append, named, List.nil_append]
          refine rowwise.perm (List.Perm.of_eq ?_)
          simp only [statement, Statement.targeted, List.map_flatMap, List.zip_map_left, List.map_map]
          rfl
      | select | query | combination | phrase =>
          show before.Adds (_ ++ usesAll [(.outermost true, .query _)]) _
          rw [usesAll_singleton]
          exact listed.trans (noted rfl (.query _) .start _ (.outermost true))

/-- An update of one table alone adds the columns that it writes, and those of what it compares and
writes. -/
theorem adds_update {target : Source} {table : String} (known : target.lone? = some table)
    (lead : String) (assignments : List Assignment) (source : Option Source)
    (condition : Option Expr) (returning : String) (before : Findings) :
    let statement := Statement.update lead target assignments source condition returning
    let bound := bindSource .start [] target before
    let scopes := Scopes.start.entering bound.1
    before.Adds (statement.targeted.map (table, ·) ++ usesAll statement.sites)
      (walkExprs scopes .filter condition.toList (assignments.foldl
        (fun found assignment => walkAssignment scopes table assignment found) bound.2)) := by
  intro statement bound scopes
  let further := source.toList.flatMap Source.factors
  let opened := (Site.outermost true).updating target.factors further
  let filled := opened.bindingAll target.factors
  have reached : filled.place.reached = true := congrArg Place.reached (Site.place_bindingAll _ _)
  have opens : (Scopes.start.entering []).Holds opened :=
    (Scopes.Holds.outermost true).opening _ _
  have inner : scopes.Holds filled := by
    have behind := opens.bindingAll rfl target.factors before
    rwa [← bindSource_eq] at behind
  have updated : before.Adds (usesAll (opened.factors target.factors)) bound.2 := by
    have each : ∀ child ∈ opened.factors target.factors, Noted child.1 child.2 :=
      fun child among => noted (congrArg Place.reached (Site.place_of_mem_factors among)) child.2
    have added := adds_bindAll opens rfl each before
    rwa [← bindSource_eq] at added
  have assigned := adds_walkAssignments reached inner table assignments bound.2
  have filtered := fun before => adds_walkExprs inner
    (fun expr (_ : expr ∈ condition.toList) => noted reached (.expr expr)) .filter before
  have passed : usesAll (filled.passed.factors further ++
      filled.passed.exprs (target.conditions ++ source.toList.flatMap Source.conditions)) = [] := by
    refine usesAll_unreached fun child among => ?_
    rcases List.mem_append.mp among with listed | listed
    · exact congrArg Place.reached (Site.place_of_mem_factors listed)
    · obtain ⟨expr, _, rfl⟩ := List.mem_map.mp listed
      rfl
  have sites : usesAll statement.sites = usesAll (opened.factors target.factors) ++
      (usesAll (filled.exprs (assignments.map (·.value))) ++
        usesAll (filled.exprs condition.toList)) := by
    simp only [statement, Statement.sites, known, Option.isSome_some]
    rw [usesAll_append, usesAll_append, usesAll_exprs_append, passed, List.append_nil]
  have columns : statement.targeted.map (table, ·) =
      assignments.flatMap fun assignment => assignment.target.columns.map (table, ·) :=
    List.map_flatMap
  rw [sites, columns]
  -- The columns that are written come behind those of what is updated.
  refine (updated.trans (assigned.trans (filtered _))).perm ?_
  rw [List.append_assoc]
  exact List.perm_append_comm_assoc ..

theorem map_used_indexUsages (table : String) (columns : List IndexColumn) :
    (indexUsages table columns).map ColumnUsage.used =
      (columns.filterMap IndexColumn.named?).map (table, ·) := by
  rw [indexUsages, List.map_filterMap, List.map_filterMap]
  congr 1
  funext ⟨expr, order⟩
  unfold IndexColumn.named?
  cases expr with
  | column name => rcases name with _ | ⟨single, _ | ⟨next, rest⟩⟩ <;> rfl
  | _ => rfl

/-- The uses that changes of a table declare are those of the columns that they name. -/
theorem map_used_changeUsages (table : String) (changes : List TableChange) :
    (changes.flatMap (changeUsages table)).map ColumnUsage.used =
      (changes.filterMap TableChange.declared?).map (table, ·) := by
  induction changes with
  | nil => rfl
  | cons change changes inductionHypothesis =>
      rw [List.flatMap_cons, List.map_append, inductionHypothesis]
      cases change <;> rfl

/-- The columns of the outermost parts of a statement are those of its references. -/
theorem usesAll_sites (statement : Statement) :
    usesAll statement.sites = statement.references.filterMap Reference.attributed? := by
  rw [Statement.references, List.filterMap_flatMap]
  rfl

/-- What is found in a statement are the columns that it names as those of its target, and those that
the extraction takes the references in it for. -/
theorem adds_of_findings? {statement : Statement} {kind : StatementKind} {target : Option String}
    {found : Findings} (known : findings? statement = some (kind, target, found)) :
    Findings.Adds ⟨[], []⟩
      ((target.toList.flatMap fun table => statement.targeted.map (table, ·)) ++
        usesAll statement.sites) found := by
  cases statement with
  | query selection =>
      cases known
      rw [Statement.sites, usesAll_singleton]
      exact noted rfl (.query selection) .start _ (.outermost true)
  | insert lead name label columns source tail =>
      obtain ⟨table, named, rest⟩ := Option.bind_eq_some_iff.mp known
      cases rest
      rw [Option.toList_some, List.flatMap_singleton]
      exact adds_walkInsertion lead named label columns source tail ⟨[table], []⟩
  | update lead source assignments further condition returning =>
      cases lone : source.lone? with
      | none =>
          have only := (onlyTable_bindSource source ⟨[], []⟩).trans lone
          simp [findings?, only] at known
      | some table =>
          rw [Sql.Statement.findings?_update lone] at known
          cases known
          rw [Option.toList_some, List.flatMap_singleton]
          exact adds_update lone lead assignments further condition returning ⟨[], []⟩
  | createTable lead guarded name columns constraints tail =>
      obtain ⟨table, named, rest⟩ := Option.bind_eq_some_iff.mp known
      cases rest
      simp only [Findings.Adds, Option.toList_some, List.flatMap_singleton, Statement.targeted,
        Statement.sites, usesAll_nil, List.append_nil, List.map_nil, List.nil_append, List.map_map]
      rfl
  | createIndex unique concurrent guarded name target method columns tail =>
      obtain ⟨table, named, rest⟩ := Option.bind_eq_some_iff.mp known
      cases rest
      simp only [Findings.Adds, map_used_indexUsages]
      simp [Statement.targeted, Statement.sites]
  | alterTable lead name changes =>
      obtain ⟨table, named, rest⟩ := Option.bind_eq_some_iff.mp known
      cases rest
      simp only [Findings.Adds, map_used_changeUsages]
      simp [Statement.targeted, Statement.sites]
  | other text => cases known

namespace Sql.Statement

/-- The columns that are used in a statement are those that it names as columns of its target, and
those that the references in it are taken for. A reference without a qualifier is taken for a column of
the one relation that is bound where it stands. This is the first relation of the clause, and the only
one unless the reference is exposed; and it is that table for SQL unless it is a call or, in rows that
are inserted, a named query. -/
theorem uses_attributed {statement : Statement} {usage : StatementUsage}
    (extracted : StatementUsage.ofStatement? statement = some usage) :
    (usage.usages.map ColumnUsage.used).Perm
        ((usage.targetTable.toList.flatMap fun table => statement.targeted.map (table, ·)) ++
          statement.references.filterMap Reference.attributed?) ∧
      ∀ reference ∈ statement.references, ∀ name, reference.name = [name] → ∀ table column,
        (reference.attributed? = some (table, column) ↔
          column = name.folded ∧ reference.site.place.reached = true ∧
            ∃ occupant, reference.site.bound = [occupant] ∧ occupant.taken? = some table) ∧
        (reference.attributed? = some (table, column) →
          ∃ occupant others, reference.site.clause = occupant :: others ∧
            (reference.site.exposed = false → others = []) ∧
            (occupant.called = false → statement.hidesNames = false →
              occupant.table? = some table)) := by
  constructor
  · obtain ⟨⟨kind, target, found⟩, known, rest⟩ := Option.bind_eq_some_iff.mp extracted
    obtain ⟨_, same⟩ := Option.ite_none_left_eq_some.mp rest
    obtain rfl := Option.some.inj same
    have added := adds_of_findings? known
    rw [usesAll_sites] at added
    exact added
  · intro reference among name unqualified table column
    have attributes := Reference.attributed?_eq_some_iff unqualified table column
    refine ⟨attributes, fun attributed => ?_⟩
    obtain ⟨_, reached, occupant, alone, taken⟩ := attributes.mp attributed
    have ordered : Part.Ordered reference.site (.expr (.column reference.name)) :=
      holds_of_mem_references (fun site part => part.Ordered site)
        (fun _ _ ordered _ => ordered.step) (fun _ => ordered_of_mem_sites) among reached
    obtain ⟨others, clause⟩ := ordered
    have settled : Part.Settled reference.site (.expr (.column reference.name)) :=
      holds_of_mem_references (fun site part => part.Settled site)
        (fun _ _ settled _ => settled.step) (fun _ => settled_of_mem_sites) among reached
    refine ⟨occupant, others, ?_, fun sheltered => ?_, fun plain shown => ?_⟩
    · rw [← clause, alone]
      rfl
    · rcases settled sheltered fun _ => rfl with whole | several
      · rw [← clause, alone] at whole
        simpa [Part.occupants] using whole
      · rw [alone] at several
        exact absurd several (Nat.not_le_of_lt (Nat.lt_succ_self 1))
    · have covered : reference.site.Covered :=
        holds_of_mem_references (fun site _ => site.Covered)
          (fun _ _ covered _ => covered.step) (fun _ => covered_of_mem_sites shown) among reached
      obtain ⟨mention, known, found⟩ := Option.bind_eq_some_iff.mp taken
      have uncalled : mention.called = false := by
        rwa [Occupant.called, known] at plain
      have seen := covered.mentions occupant (alone ▸ List.mem_singleton_self occupant) mention known
      rw [Occupant.table?, known]
      exact Mention.table?_of_taken? found uncalled seen

/-- A selection from users inside which something is selected from orders and items. -/
def usersText : String :=
  "SELECT name AS n FROM users AS u WHERE EXISTS (SELECT total AS t FROM orders AS o, items AS i)"

/-- A name outside and a total inside are told apart: the name belongs to the users, and the total to
neither of two relations. -/
theorem uses_attributed_users :
    ∃ statement ∈ ofText usersText,
      (∃ usage ∈ StatementUsage.ofStatement? statement, (usage.usages.map ColumnUsage.used).Perm
        (statement.references.filterMap Reference.attributed?)) ∧
      (∃ reference ∈ statement.references, reference.name = [⟨"name", none⟩] ∧
        ∃ occupant, reference.site.clause = [occupant] ∧ occupant.table? = some "users") ∧
      ∃ reference ∈ statement.references, reference.name = [⟨"total", none⟩] ∧
        ∀ table, reference.attributed? ≠ some (table, "total") := by
  have read : ∃ statement ∈ ofText usersText,
      StatementUsage.ofStatement? statement = some ⟨.select, none, ["users", "orders", "items"],
        [⟨"users", "name", .read, none, []⟩]⟩ ∧
      statement.hidesNames = false ∧ statement.targeted = [] ∧
      (∃ reference ∈ statement.references, reference.name = [⟨"name", none⟩] ∧
        reference.attributed? = some ("users", "name") ∧
        reference.site.exposed = false ∧
        reference.site.clause.all (!·.called)) ∧
      ∃ reference ∈ statement.references, reference.name = [⟨"total", none⟩] ∧
        reference.site.bound.length = 2 := by
    decide +kernel
  obtain ⟨statement, listed, extracted, shown, bare, first, second⟩ := read
  obtain ⟨perm, attributes⟩ := uses_attributed extracted
  refine ⟨statement, listed, ⟨_, extracted, perm⟩, ?_, ?_⟩
  · obtain ⟨reference, among, named, attributed, sheltered, plain⟩ := first
    obtain ⟨occupant, others, clause, alone, table⟩ :=
      (attributes reference among _ named "users" "name").2 attributed
    obtain rfl := alone sheltered
    rw [clause, List.all_cons, List.all_nil, Bool.and_true, Bool.not_eq_true'] at plain
    exact ⟨reference, among, named, occupant, clause, table plain shown⟩
  · obtain ⟨reference, among, named, bound⟩ := second
    refine ⟨reference, among, named, fun table attributed => ?_⟩
    obtain ⟨_, _, occupant, alone, _⟩ :=
      (attributes reference among _ named table "total").1.mp attributed
    rw [alone] at bound
    cases bound

/-- A statement of a text refers to a column without a qualifier, which is used as one of a table; but
the relations of the clause around it are others than that table alone. -/
def Misattributes (text table column : String) : Prop :=
  ∃ statement ∈ ofText text,
    (∃ usage ∈ StatementUsage.ofStatement? statement,
      (table, column) ∈ usage.usages.map ColumnUsage.used) ∧
    ∃ reference ∈ statement.references, reference.name = [⟨column, none⟩] ∧
      reference.attributed? = some (table, column) ∧
      reference.site.clause.map Occupant.table? ≠ [some table]

instance (text table column : String) : Decidable (Misattributes text table column) :=
  inferInstanceAs (Decidable (∃ statement ∈ ofText text, _))

/-- A column is misattributed in an update from further relations, in rows behind another relation, to
a call, and to a query that is defined before rows that are inserted. -/
theorem misattributes_columns :
    Misattributes "UPDATE users AS u SET name = 'x' FROM orders AS o WHERE total = 1" "users" "total" ∧
      Misattributes "SELECT * FROM users AS u, (VALUES (name)) AS v" "users" "name" ∧
      Misattributes "SELECT name AS n FROM generate_series(1, 10) AS g" "generate_series" "name" ∧
      Misattributes "INSERT INTO t (id) WITH a AS (SELECT 1) VALUES ((SELECT x AS y FROM a AS b))"
        "a" "x" := by
  decide +kernel

end Sql.Statement

end SchemaDrift
