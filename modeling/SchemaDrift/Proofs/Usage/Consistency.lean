import SchemaDrift.Proofs.Text.Chars
import SchemaDrift.Proofs.Usage.Attribution

namespace SchemaDrift

open Sql

/-- A table is none of a system catalog by its name. -/
structure Ordinary (table : String) : Prop where
  free : ¬"pg_".toList <+: table.toList
  schema : table ≠ "information_schema"

/-- What a name stands for is no table of a system catalog. -/
theorem ordinary_of_tableOf {name : QualifiedName} {table : String}
    (known : tableOf name = some table) : Ordinary table := by
  unfold tableOf at known
  split at known
  · cases known
  · obtain ⟨outside, same⟩ := Option.ite_none_left_eq_some.mp known
    obtain rfl := Option.some.inj same
    simp only [Bool.or_eq_true, not_or, beq_iff_eq] at outside
    rw [Text.startsWith_eq_true_iff] at outside
    exact ⟨outside.1.2, outside.2⟩

namespace Sql

/-- The parts of a part are taken for no more tables than the part. -/
theorem Part.taken_subset_of_mem_parts {place : Place} {part : Part} {child : Place × Part}
    (among : child ∈ place.parts part) : child.2.taken child.1 ⊆ part.taken place := by
  rw [Part.taken_eq place part]
  exact fun table taken => List.mem_append_right _ (List.mem_flatMap.mpr ⟨child, among, taken⟩)

mutual

/-- The table that a relation of a factor is taken for is one that the factor is taken for. -/
theorem Factor.mem_taken {place : Place} {occupant : Occupant} {table : String}
    (known : occupant.taken? = some table) :
    ∀ factor : Factor, occupant ∈ factor.occupants place → table ∈ Part.taken place (.factor factor)
  | .table name extras label hints, among => by
      rw [List.mem_singleton.mp among] at known
      rw [Part.taken_eq]
      exact List.mem_append_left _ (Option.mem_toList.mpr known)
  | .derived lateral query label, among => by
      rw [List.mem_singleton.mp among] at known
      cases known
  | .joined source label, among => by
      rw [Part.taken_of_parts rfl, Place.parts, takenAll_append]
      exact List.mem_append_left _ (source.mem_taken known among)
  | .phrase text, among => by
      rw [List.mem_singleton.mp among] at known
      cases known

/-- The table that a relation of a source is taken for is one that its factors are taken for. -/
theorem Source.mem_taken {place : Place} {occupant : Occupant} {table : String}
    (known : occupant.taken? = some table) :
    ∀ source : Source, occupant ∈ source.occupants place →
      table ∈ takenAll (place.factors source.factors)
  | .mk factor joins, among => List.mem_append.mpr ((List.mem_append.mp among).imp
      (factor.mem_taken known) (mem_taken_of_mem_occupantsOf known joins))

/-- The table that a joined relation is taken for is one that the joined factors are taken for. -/
theorem mem_taken_of_mem_occupantsOf {place : Place} {occupant : Occupant} {table : String}
    (known : occupant.taken? = some table) :
    ∀ joins : List Join, occupant ∈ occupantsOf place joins →
      table ∈ takenAll (place.factors (joins.map Join.factor))
  | [], among => nomatch among
  | .mk _ factor _ :: joins, among => List.mem_append.mpr
      ((List.mem_append.mp among).imp (factor.mem_taken known)
        (mem_taken_of_mem_occupantsOf known joins))

end

/-- The relations in the scopes of a site are taken for tables of a list alone. -/
def Site.Knows (tables : List String) (site : Site) : Prop :=
  ∀ frame ∈ site.frames, ∀ occupant ∈ frame, ∀ table, occupant.taken? = some table → table ∈ tables

/-- The relations around a part and those in it are taken for tables of a list alone. -/
structure Part.Within (tables : List String) (site : Site) (part : Part) : Prop where
  around : site.Knows tables
  inside : part.taken site.place ⊆ tables

namespace Site.Knows

variable {tables : List String} {site : Site}

/-- A clause opens without relations. -/
theorem opening (knows : site.Knows tables) (clause : List Occupant) (exposed : Bool) :
    (site.opening clause exposed).Knows tables := by
  rw [Knows, Site.opening, List.forall_mem_cons]
  refine ⟨?_, knows⟩
  intro occupant among
  cases among

/-- The relations of a factor are known behind it. -/
theorem binding (knows : site.Knows tables) {factor : Factor}
    (taken : Part.taken site.place (.factor factor) ⊆ tables) :
    (site.binding factor).Knows tables := by
  rw [Knows, Site.binding, List.forall_mem_cons]
  constructor
  · intro occupant among table known
    rcases List.mem_append.mp among with before | own
    · obtain ⟨place, clause, frames, exposed⟩ := site
      cases frames with
      | nil => cases before
      | cons frame outer => exact knows frame List.mem_cons_self occupant before table known
    · exact taken (factor.mem_taken known own)
  · exact fun frame outer => knows frame (List.mem_of_mem_tail outer)

/-- The relations of factors are known behind them. -/
theorem bindingAll (knows : site.Knows tables) {factors : List Factor}
    (taken : takenAll (site.place.factors factors) ⊆ tables) :
    (site.bindingAll factors).Knows tables := by
  induction factors generalizing site with
  | nil => exact knows
  | cons factor rest inductionHypothesis =>
      rw [Place.factors, List.map_cons, takenAll_cons, List.append_subset] at taken
      exact inductionHypothesis (knows.binding taken.1) taken.2

/-- The relations of factors that follow each other are known behind each of them. -/
theorem factors (knows : site.Knows tables) {factors : List Factor}
    (taken : takenAll (site.place.factors factors) ⊆ tables) :
    ∀ child ∈ site.factors factors, child.1.Knows tables := by
  induction factors generalizing site with
  | nil => exact nofun
  | cons factor rest inductionHypothesis =>
      rw [Place.factors, List.map_cons, takenAll_cons, List.append_subset] at taken
      rw [Site.factors, List.forall_mem_cons]
      exact ⟨knows, inductionHypothesis (knows.binding taken.1) taken.2⟩

end Site.Knows

/-- Factors that follow each other from a site on are those at its place. -/
theorem Site.mem_place_factors {site : Site} {factors : List Factor} {child : Site × Part}
    (among : child ∈ site.factors factors) :
    (child.1.place, child.2) ∈ site.place.factors factors := by
  induction factors generalizing site with
  | nil => cases among
  | cons factor rest inductionHypothesis =>
      rcases List.mem_cons.mp among with rfl | later
      · exact List.mem_cons_self
      · have listed := inductionHypothesis later
        exact List.mem_cons_of_mem _ listed

/-- A tested operand to which the extraction comes is a column. -/
theorem Site.isColumn_of_testing {site : Site} {operand : Expr}
    (reached : (site.testing operand).place.reached = true) : operand.isColumn = true := by
  unfold testing at reached
  split at reached
  · assumption
  · cases reached

/-- A part of a part to which the extraction comes is one of its place, or a tested column. -/
theorem Site.mem_place_parts {site : Site} {part : Part} {child : Site × Part}
    (among : child ∈ site.parts part) (reached : child.1.place.reached = true) :
    (child.1.place, child.2) ∈ site.place.parts part ∨
      ∃ operand : Expr, operand.isColumn = true ∧ child.2 = .expr operand := by
  unfold parts at among
  split at among
  all_goals
    simp only [exprs, definitions, Place.parts, Place.exprs, List.map_cons, List.map_nil,
      List.mem_append, List.mem_cons, List.not_mem_nil, or_false, List.mem_map] at among ⊢
  all_goals
    grind [below, derived, selecting, opening, place_bindingAll, → mem_place_factors,
      → isColumn_of_testing]

/-- The relations around a part are known in its parts, if those that the part brings in are. -/
theorem Part.Within.around_of_mem_parts {tables : List String} {site : Site} {part : Part}
    (within : part.Within tables site) {child : Site × Part} (among : child ∈ site.parts part)
    (reached : child.1.place.reached = true) : child.1.Knows tables := by
  have knows := within.around
  have taken := within.inside
  cases part with
  | expr expr =>
      have same : child.1 = site := by
        unfold Site.parts at among
        split at among
        all_goals
          simp only [Site.exprs, List.map_cons, List.map_nil, List.mem_append, List.mem_cons,
            List.not_mem_nil, or_false, List.mem_map] at among
        all_goals grind [→ Site.testing_of_reached]
      exact same ▸ knows
  | query query =>
      obtain ⟨recursive, definitions, body, tail⟩ := query
      rcases List.mem_append.mp among with named | outer
      · obtain ⟨other, _, rfl⟩ := List.mem_map.mp named
        exact knows
      · exact List.mem_singleton.mp outer ▸ knows
  | body body =>
      cases body with
      | select select =>
          obtain ⟨lead, items, target, sources, condition, groups, groupWord, having, tail⟩ := select
          rw [Part.taken_of_parts rfl, Place.parts, takenAll_append, List.append_subset] at taken
          have opened := knows.opening ((sources.flatMap Source.factors).flatMap
            (Factor.occupants site.place)) false
          rcases List.mem_append.mp among with listed | later
          · exact opened.factors taken.1 child listed
          · obtain ⟨expr, _, rfl⟩ := List.mem_map.mp later
            exact opened.bindingAll taken.1
      | phrase text => cases among
      | query | combination | values =>
          have same : child.1 = site := by
            simp only [Site.parts, Site.exprs, List.mem_cons, List.not_mem_nil, or_false,
              List.mem_map] at among
            grind
          exact same ▸ knows
  | factor factor =>
      cases factor with
      | joined source label =>
          rw [Part.taken_of_parts rfl, Place.parts, takenAll_append, List.append_subset] at taken
          rcases List.mem_append.mp among with listed | later
          · exact knows.factors taken.1 child listed
          · obtain ⟨expr, _, rfl⟩ := List.mem_map.mp later
            exact knows.bindingAll taken.1
      | derived lateral query label => exact List.mem_singleton.mp among ▸ knows
      | table | phrase => cases among

/-- What is around a part and in it is taken for no other tables in its parts. -/
theorem Part.Within.step {tables : List String} {site : Site} {part : Part}
    (within : part.Within tables site) {child : Site × Part} (among : child ∈ site.parts part)
    (reached : child.1.place.reached = true) : child.2.Within tables child.1 where
  around := within.around_of_mem_parts among reached
  inside := by
    rcases Site.mem_place_parts among reached with listed | ⟨operand, column, same⟩
    · exact List.Subset.trans (taken_subset_of_mem_parts listed) within.inside
    · rw [same, taken_column _ column]
      exact List.nil_subset _

/-- A name that is resolved at a site is one of a table that a relation around it is taken for. -/
theorem Site.Knows.resolve {tables : List String} {site : Site} (knows : site.Knows tables)
    {name : QualifiedName} {table column : String}
    (resolved : site.scopes.resolve name = some (table, column)) : table ∈ tables := by
  unfold Scopes.resolve at resolved
  split at resolved
  · cases resolved
  · obtain ⟨found, only, same⟩ := Option.map_eq_some_iff.mp resolved
    obtain ⟨rfl, _⟩ := Prod.mk.inj same
    obtain ⟨occupant, alone, taken⟩ := (site.onlyTable_eq_some_iff _).mp only
    have frame : site.bound ∈ site.frames := by
      obtain ⟨place, clause, frames, exposed⟩ := site
      cases frames with
      | nil => cases alone
      | cons frame outer => exact List.mem_cons_self
    exact knows _ frame occupant (alone ▸ List.mem_singleton_self _) _ taken
  · obtain ⟨found, qualified, same⟩ := Option.map_eq_some_iff.mp resolved
    obtain ⟨rfl, _⟩ := Prod.mk.inj same
    obtain ⟨binding, known, bound⟩ := Option.bind_eq_some_iff.mp qualified
    obtain ⟨scope, around, within⟩ := List.exists_of_findSome?_eq_some known
    obtain ⟨frame, listed, rfl⟩ := List.mem_map.mp around
    obtain ⟨occupant, among, rfl⟩ := List.mem_map.mp (List.mem_of_find?_eq_some within)
    exact knows frame listed occupant among _ bound

namespace Statement

/-- The outermost parts of a statement at their sites are those at the places. -/
theorem mem_parts_of_mem_sites {statement : Statement} {child : Site × Part}
    (among : child ∈ statement.sites) : (child.1.place, child.2) ∈ statement.parts := by
  cases statement with
  | query selection =>
      rw [List.mem_singleton.mp among]
      exact List.mem_singleton_self _
  | insert lead target label columns source tail =>
      unfold sites Site.inserted at among
      unfold parts Place.inserted
      split at among
      all_goals
        simp only [Site.definitions, Site.exprs, Place.exprs, List.mem_append, List.mem_cons,
          List.not_mem_nil, or_false, List.mem_map] at among ⊢
      all_goals grind [Site.outermost, Site.passed, Site.below]
  | update lead target assignments source condition returning =>
      simp only [sites, parts, Site.exprs, Place.exprs, List.mem_append, List.mem_map] at among ⊢
      grind [Site.outermost, Site.passed, Site.updating, Site.opening, Site.place_bindingAll,
        → Site.mem_place_factors]
  | createTable | createIndex | alterTable | other => cases among

/-- The outermost parts of a statement are taken for tables of a list alone if the statement is. -/
theorem within_of_mem_sites {statement : Statement} {tables : List String}
    (taken : takenAll statement.parts ⊆ tables) {child : Site × Part}
    (among : child ∈ statement.sites) (reached : child.1.place.reached = true) :
    child.2.Within tables child.1 where
  inside := List.Subset.trans
    (fun _ own => List.mem_flatMap.mpr ⟨_, mem_parts_of_mem_sites among, own⟩) taken
  around := by
    have outermost (reached : Bool) : (Site.outermost reached).Knows tables := nofun
    cases statement with
    | query selection => exact List.mem_singleton.mp among ▸ outermost true
    | insert lead target label columns source tail =>
        rcases Site.of_mem_inserted among reached with ⟨query, rfl⟩ | ⟨_, _, _, _, _, expr, _, rfl⟩
        · exact outermost (tableOf target).isSome
        · exact outermost (tableOf target).isSome
    | update lead target assignments source condition returning =>
        have opened := (outermost target.lone?.isSome).opening
          ((target.factors ++ source.toList.flatMap Source.factors).flatMap
            (Factor.occupants (Place.outermost target.lone?.isSome)))
          !(source.toList.flatMap Source.factors).isEmpty
        rw [parts, takenAll_append, List.append_subset] at taken
        rcases of_mem_sites_update among reached with listed | ⟨expr, rfl⟩
        · exact opened.factors taken.1 child listed
        · exact opened.bindingAll taken.1
    | createTable | createIndex | alterTable | other => cases among

/-- The references in a statement are taken for columns of the tables that mentions in it are taken
for. -/
theorem mem_taken_of_attributed {statement : Statement} {reference : Reference}
    (among : reference ∈ statement.references) {table column : String}
    (attributed : reference.attributed? = some (table, column)) :
    table ∈ takenAll statement.parts := by
  obtain ⟨reached, resolved⟩ := Option.ite_none_right_eq_some.mp attributed
  obtain ⟨child, listed, among⟩ := List.mem_flatMap.mp among
  have within := Part.holds_of_mem_references
    (fun site part => part.Within (takenAll statement.parts) site)
    (fun _ _ within _ => within.step) (within_of_mem_sites (List.Subset.refl _) listed) among reached
  exact within.around.resolve resolved

end Statement

end Sql

/-- What a statement is made for or updates is among the tables that are found in it. -/
theorem target_mem_of_findings? {statement : Statement} {kind : StatementKind} {table : String}
    {found : Findings} (known : findings? statement = some (kind, some table, found)) :
    table ∈ found.tables := by
  rw [(Statement.gains_of_findings? known).mem_iff]
  cases statement with
  | query selection => cases known
  | update lead source assignments further condition returning =>
      obtain ⟨name, only, rest⟩ := Option.bind_eq_some_iff.mp known
      cases rest
      have lone : source.lone? = some table := (onlyTable_bindSource source ⟨[], []⟩).symm.trans only
      let site : Site := ⟨.outermost true, [], [source.occupants (.outermost true)], false⟩
      rw [bindSource_fst (.outermost true) rfl] at only
      obtain ⟨occupant, alone, taken⟩ := (site.onlyTable_eq_some_iff table).mp only
      have among : occupant ∈ source.occupants (.outermost true) :=
        (show source.occupants (.outermost true) = [occupant] from alone) ▸
          List.mem_singleton_self occupant
      right
      rw [Statement.parts, lone, takenAll_append]
      exact List.mem_append_left _ (source.mem_taken taken among)
  | insert | createTable | createIndex | alterTable =>
      obtain ⟨name, named, rest⟩ := Option.bind_eq_some_iff.mp known
      cases rest
      exact .inl (Option.mem_toList.mpr named)
  | other text => cases known

/-- What fits together in what a statement says: it names a table, lists none twice, and lists none of
a system catalog; its target is listed, and all uses are uses of columns of listed tables. -/
structure StatementUsage.WellFormed (usage : StatementUsage) : Prop where
  nonempty : usage.tables ≠ []
  nodup : usage.tables.Nodup
  ordinary : ∀ table ∈ usage.tables, Ordinary table
  target : ∀ table ∈ usage.targetTable, table ∈ usage.tables
  usages : ∀ use ∈ usage.usages, use.table ∈ usage.tables

/-- What is extracted from a statement fits together. -/
theorem extracted_wellFormed {statement : Statement} {usage : StatementUsage}
    (extracted : StatementUsage.ofStatement? statement = some usage) : usage.WellFormed := by
  obtain ⟨⟨kind, target, found⟩, known, rest⟩ := Option.bind_eq_some_iff.mp extracted
  obtain ⟨filled, same⟩ := Option.ite_none_left_eq_some.mp rest
  obtain rfl := Option.some.inj same
  have gained := Statement.gains_of_findings? known
  refine ⟨?nonempty, ?nodup, ?ordinary, ?target, ?usages⟩
  case nonempty => simpa using filled
  case nodup =>
    refine gained.nodup ?_
    cases statement.target?.bind tableOf with
    | none => exact List.Pairwise.nil
    | some table => exact List.pairwise_singleton _ _
  case ordinary =>
    intro table listed
    rcases (gained.mem_iff table).mp listed with made | taken
    · obtain ⟨name, _, named⟩ := Option.bind_eq_some_iff.mp (Option.mem_toList.mp made)
      exact ordinary_of_tableOf named
    · obtain ⟨mention, _, taken⟩ := (mem_takenAll_iff _ table).mp taken
      exact ordinary_of_tableOf ((mention.taken?_eq_some_iff table).mp taken).1
  case target =>
    intro table aimed
    obtain rfl : target = some table := aimed
    exact target_mem_of_findings? known
  case usages =>
    intro use among
    have used := (adds_of_findings? known).mem_iff.mp (List.mem_map_of_mem among)
    rw [usesAll_sites, List.map_nil, List.nil_append, List.mem_append] at used
    rcases used with aimed | referred
    · obtain ⟨table, made, column⟩ := List.mem_flatMap.mp aimed
      obtain ⟨name, _, pair⟩ := List.mem_map.mp column
      obtain rfl : target = some table := Option.mem_toList.mp made
      have owner : table = use.table := congrArg Prod.fst pair
      exact owner ▸ target_mem_of_findings? known
    · obtain ⟨reference, listed, attributed⟩ := List.mem_filterMap.mp referred
      exact (gained.mem_iff _).mpr (.inr (Statement.mem_taken_of_attributed listed attributed))

/-- An update with something selected from a named query that hides what it is defined from, from a
table, and from a system catalog. -/
def updateText : String :=
  "UPDATE users AS u SET name = (WITH a AS (SELECT * FROM orders)
    SELECT i.label AS l FROM a AS b, items AS i, pg_class AS c)"

/-- The update is one of users; it lists the users, the orders and the items, and uses a column of the
users and one of the items. -/
theorem extracted_wellFormed_update :
    ∃ statement ∈ Sql.Statement.ofText updateText,
      ∃ usage ∈ StatementUsage.ofStatement? statement,
        usage.targetTable = some "users" ∧ usage.tables = ["users", "orders", "items"] ∧
          usage.usages.map ColumnUsage.used = [("users", "name"), ("items", "label")] ∧
          usage.WellFormed := by
  have extracted : ∃ statement ∈ Sql.Statement.ofText updateText,
      ∃ usage ∈ StatementUsage.ofStatement? statement,
        usage.targetTable = some "users" ∧ usage.tables = ["users", "orders", "items"] ∧
          usage.usages.map ColumnUsage.used = [("users", "name"), ("items", "label")] := by
    decide +kernel
  obtain ⟨statement, read, usage, extracted, target, tables, usages⟩ := extracted
  exact ⟨statement, read, usage, extracted, target, tables, usages,
    extracted_wellFormed extracted⟩

end SchemaDrift
