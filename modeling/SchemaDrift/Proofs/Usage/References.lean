import SchemaDrift.Proofs.Usage.Mentions

namespace SchemaDrift

open Sql

namespace Findings

/-- The findings after a walk have some tables more than those before, and list none of them twice. -/
structure Gains (before : Findings) (tables : List String) (after : Findings) : Prop where
  mem_iff : ∀ table, table ∈ after.tables ↔ table ∈ before.tables ∨ table ∈ tables
  nodup : before.tables.Nodup → after.tables.Nodup

variable {before between after : Findings} {tables others : List String}

/-- Findings that stay gain nothing. -/
theorem Gains.refl (before : Findings) : before.Gains [] before where
  mem_iff := by simp
  nodup := id

/-- What two walks gain one after the other. -/
theorem Gains.trans (first : before.Gains tables between) (second : between.Gains others after) :
    before.Gains (tables ++ others) after where
  mem_iff table := by rw [second.mem_iff, first.mem_iff, List.mem_append, or_assoc]
  nodup := second.nodup ∘ first.nodup

/-- A use that is recorded is no table. -/
theorem Gains.of_tables_eq (gains : between.Gains tables after)
    (same : between.tables = before.tables) : before.Gains tables after where
  mem_iff := same ▸ gains.mem_iff
  nodup := same ▸ gains.nodup

theorem gains_reference (table : String) (before : Findings) :
    before.Gains [table] (before.reference table) := by
  unfold reference
  split
  next present =>
    rw [List.contains_iff_mem] at present
    refine ⟨fun other => ?_, id⟩
    rw [List.mem_singleton]
    exact ⟨.inl, fun known => known.elim id fun same => same ▸ present⟩
  next absent =>
    rw [List.contains_iff_mem] at absent
    refine ⟨fun other => List.mem_append, fun unlisted => ?_⟩
    refine List.nodup_append.mpr ⟨unlisted, List.pairwise_singleton _ _, ?_⟩
    intro known listed other new same
    exact absent (List.mem_singleton.mp new ▸ same ▸ listed)

end Findings

/-- The use of a column is no table. -/
@[simp]
theorem tables_record (scopes : Scopes) (expr : Expr) (mode : AccessMode)
    (comparison : Option Comparison) (values : List ValueContext) (findings : Findings) :
    (record scopes expr mode comparison values findings).tables = findings.tables := by
  unfold record
  split <;> rfl

namespace Sql

/-- The tables that the extraction takes the mentions in a part for. -/
def Part.taken (place : Place) (part : Part) : List String :=
  (part.mentions place).filterMap Mention.taken?

/-- The tables that the extraction takes the mentions in parts for. -/
def takenAll (parts : List (Place × Part)) : List String :=
  parts.flatMap fun child => child.2.taken child.1

@[simp]
theorem takenAll_nil : takenAll [] = [] := rfl

@[simp]
theorem takenAll_cons (child : Place × Part) (parts : List (Place × Part)) :
    takenAll (child :: parts) = child.2.taken child.1 ++ takenAll parts :=
  List.flatMap_cons

theorem takenAll_singleton (child : Place × Part) : takenAll [child] = child.2.taken child.1 := by
  simp

@[simp]
theorem takenAll_append (first second : List (Place × Part)) :
    takenAll (first ++ second) = takenAll first ++ takenAll second :=
  List.flatMap_append

theorem takenAll_exprs_append (place : Place) (first second : List Expr) :
    takenAll (place.exprs (first ++ second)) =
      takenAll (place.exprs first) ++ takenAll (place.exprs second) := by
  rw [Place.exprs, List.map_append, takenAll_append]
  rfl

/-- The tables of a part are those of its own mention and those of its parts. -/
theorem Part.taken_eq (place : Place) (part : Part) :
    part.taken place = ((part.mention? place).bind Mention.taken?).toList ++
      takenAll (place.parts part) := by
  rw [taken, mentions_eq, List.filterMap_append, List.filterMap_flatMap]
  cases part.mention? place <;> rfl

/-- The tables of a part that names no relation itself are those of its parts. -/
theorem Part.taken_of_parts {place : Place} {part : Part} (own : part.mention? place = none) :
    part.taken place = takenAll (place.parts part) := by
  rw [taken_eq, own]
  rfl

/-- The extraction comes to the queries of definitions if it comes to their place. -/
theorem Place.reached_of_mem_definitions {place : Place} {recursive : Bool}
    {names earlier : List String} {definitions : List Definition} {child : Place × Part}
    (among : child ∈ place.definitions recursive names earlier definitions) :
    child.1.reached = place.reached := by
  induction definitions generalizing earlier with
  | nil => cases among
  | cons definition rest inductionHypothesis =>
      obtain ⟨name, lead, marker, query, tail⟩ := definition
      exact (List.mem_cons.mp among).elim (fun same => same ▸ rfl) inductionHypothesis

/-- The extraction comes to a part of a part only if it comes to the part. -/
theorem Place.reached_of_mem_parts {place : Place} {part : Part} {child : Place × Part}
    (among : child ∈ place.parts part) (reached : child.1.reached = true) :
    place.reached = true := by
  unfold parts at among
  split at among
  all_goals
    simp only [exprs, factors, List.map_cons, List.map_nil, List.mem_append, List.mem_cons,
      List.not_mem_nil, or_false, List.mem_map] at among
  all_goals grind [passed, below, → reached_of_mem_definitions]

/-- The extraction comes to a part of what is inserted only if it comes to its place. -/
theorem Place.reached_of_mem_inserted {place : Place} {source : Option Query} {child : Place × Part}
    (among : child ∈ place.inserted source) (reached : child.1.reached = true) :
    place.reached = true := by
  unfold inserted at among
  split at among
  all_goals
    simp only [exprs, List.mem_append, List.mem_cons, List.not_mem_nil, or_false,
      List.mem_map] at among
  all_goals grind [passed, below, → reached_of_mem_definitions]

/-- Nothing is taken from what is passed over. -/
theorem Part.taken_passed {place : Place} (passed : place.reached = false) (part : Part) :
    part.taken place = [] := by
  induction place, part using mentions.induct with
  | case1 place part inductionHypothesis =>
      have own : (part.mention? place).bind Mention.taken? = none := by
        unfold mention?
        split
        · simp [Mention.taken?, passed]
        · rfl
      rw [taken_eq, own, takenAll, List.flatMap_eq_nil_iff.mpr]
      · rfl
      · intro child among
        refine inductionHypothesis ⟨child, among⟩ (Bool.eq_false_iff.mpr fun reached => ?_)
        rw [Place.reached_of_mem_parts among reached] at passed
        cases passed

/-- Nothing is taken from parts that are all passed over. -/
theorem takenAll_unreached {parts : List (Place × Part)}
    (passed : ∀ child ∈ parts, child.1.reached = false) : takenAll parts = [] :=
  List.flatMap_eq_nil_iff.mpr fun child among => Part.taken_passed (passed child among) child.2

theorem mem_takenAll_iff (parts : List (Place × Part)) (table : String) :
    table ∈ takenAll parts ↔ ∃ mention ∈ parts.flatMap fun child => child.2.mentions child.1,
      mention.taken? = some table := by
  rw [← List.mem_filterMap, List.filterMap_flatMap]
  rfl

end Sql

/-- The scopes hold the named queries around a place. -/
def Scopes.Agrees (scopes : Scopes) (place : Place) : Prop :=
  ∀ text, scopes.definitions.any (·.contains text) = place.around.contains text

namespace Scopes.Agrees

variable {scopes : Scopes} {place : Place}

/-- The scopes of a statement agree with its outermost places. -/
theorem outermost (reached : Bool) : Scopes.start.Agrees (.outermost reached) := fun _ => rfl

/-- Relations are no named queries. -/
theorem entering (agrees : scopes.Agrees place) (bindings : List Binding) :
    (scopes.entering bindings).Agrees place := agrees

/-- A frame of named queries stands around the places below it. -/
theorem defining (agrees : scopes.Agrees place) (visible names : List String) :
    (scopes.defining names).Agrees (place.below visible names) := by
  intro text
  rw [Scopes.defining, List.any_cons, agrees, Place.below, List.contains_append]

/-- The names of the named queries around a place are those that the scopes hold. -/
theorem isDefinition (agrees : scopes.Agrees place) (name : QualifiedName) (called : Bool) :
    scopes.isDefinition name = Mention.isAmong ⟨name, called, place⟩ place.around := by
  rcases name with _ | ⟨single, _ | ⟨next, rest⟩⟩
  · rfl
  · exact agrees single.folded
  · rfl

/-- Where the extraction comes, it takes a mention for a table unless its name is that of a named
query. -/
theorem taken?_eq (agrees : scopes.Agrees place) (reached : place.reached = true)
    (name : QualifiedName) (called : Bool) : Mention.taken? ⟨name, called, place⟩ =
      if scopes.isDefinition name then none else tableOf name := by
  rw [Mention.taken?, reached, Bool.true_and, ← agrees.isDefinition]
  cases scopes.isDefinition name <;> rfl

end Scopes.Agrees

section Lists

variable (scopes : Scopes) (mode : AccessMode)

/-- Expressions are walked over one after the other. -/
theorem walkExprs_append (first second : List Expr) (before : Findings) :
    walkExprs scopes mode (first ++ second) before =
      walkExprs scopes mode second (walkExprs scopes mode first before) := by
  induction first generalizing before with
  | nil => rfl
  | cons expr first inductionHypothesis => exact inductionHypothesis _

/-- The arguments of a call are walked over as their expressions. -/
theorem walkArgumentList_eq (items : List Argument) (before : Findings) :
    walkArgumentList scopes mode items before =
      walkExprs scopes mode (items.filterMap Argument.expr?) before := by
  induction items generalizing before with
  | nil => rfl
  | cons argument items inductionHypothesis =>
      cases argument <;> exact inductionHypothesis _

/-- The items of a selection are walked over as their expressions. -/
theorem walkItems_eq (items : List Item) (before : Findings) :
    walkItems scopes items before = walkExprs scopes .read (items.filterMap Item.expr?) before := by
  induction items generalizing before with
  | nil => rfl
  | cons item items inductionHypothesis =>
      cases item <;> exact inductionHypothesis _

/-- Rows of values are walked over as their values. -/
theorem walkRows_eq (rows : List (List Expr)) (before : Findings) :
    walkRows scopes rows before = walkExprs scopes .read rows.flatten before := by
  induction rows generalizing before with
  | nil => rfl
  | cons row rows inductionHypothesis =>
      rw [List.flatten_cons, walkExprs_append, ← inductionHypothesis]
      rfl

theorem walkSourceJoins_eq (source : Source) (before : Findings) :
    walkSourceJoins scopes source before = walkExprs scopes .filter source.conditions before := by
  obtain ⟨factor, joins⟩ := source
  induction joins generalizing before with
  | nil => rfl
  | cons join joins inductionHypothesis =>
      obtain ⟨words, joined, condition⟩ := join
      cases condition <;> exact inductionHypothesis _

theorem walkJoinsOf_eq (sources : List Source) (before : Findings) :
    walkJoinsOf scopes sources before =
      walkExprs scopes .filter (sources.flatMap Source.conditions) before := by
  induction sources generalizing before with
  | nil => rfl
  | cons source sources inductionHypothesis =>
      rw [List.flatMap_cons, walkExprs_append, ← walkSourceJoins_eq, ← inductionHypothesis]
      rfl

/-- A selection is walked over as its relations, and then as its expressions in the scope of the
relations. -/
theorem walkSelect_eq (lead : String) (items : List Item) (target : String) (sources : List Source)
    (condition : Option Expr) (groups : List Expr) (groupWord : String) (having : Option Expr)
    (tail : String) (before : Findings) :
    let bound := bindSources scopes [] sources before
    let inner := scopes.entering bound.1
    walkSelect scopes (.mk lead items target sources condition groups groupWord having tail) before =
      walkExprs inner .read having.toList (walkExprs inner .read groups
        (walkExprs inner .filter condition.toList (walkExprs inner .read (items.filterMap Item.expr?)
          (walkExprs inner .filter (sources.flatMap Source.conditions) bound.2)))) := by
  intro bound inner
  rw [← walkJoinsOf_eq, ← walkItems_eq]
  cases condition <;> cases having <;> rfl

end Lists

/-- A walk over a part gains the tables that the mentions in it are taken for. -/
def Walked (place : Place) (part : Part) : Prop :=
  ∀ scopes : Scopes, scopes.Agrees place → ∀ before : Findings,
    match part with
    | .expr expr => ∀ mode, before.Gains (part.taken place) (walkExpr scopes mode expr before)
    | .query query => before.Gains (part.taken place) (walkQuery scopes query before)
    | .body body => before.Gains (part.taken place) (walkBody scopes body before)
    | .factor factor =>
      ∀ bound, before.Gains (part.taken place) (bindFactor scopes bound factor before).2

section Walks

variable {scopes : Scopes} {place : Place} (agrees : scopes.Agrees place)
include agrees

/-- A walk over expressions. -/
theorem gains_walkExprs {exprs : List Expr} (each : ∀ expr ∈ exprs, Walked place (.expr expr))
    (mode : AccessMode) (before : Findings) :
    before.Gains (takenAll (place.exprs exprs)) (walkExprs scopes mode exprs before) := by
  induction exprs generalizing before with
  | nil => exact .refl before
  | cons expr exprs inductionHypothesis =>
      rw [List.forall_mem_cons] at each
      exact (each.1 scopes agrees before mode).trans (inductionHypothesis each.2 _)

/-- A walk over the relations of a source. -/
theorem gains_bindSource {source : Source}
    (each : ∀ factor ∈ source.factors, Walked place (.factor factor)) (bound : List Binding)
    (before : Findings) :
    before.Gains (takenAll (place.factors source.factors))
      (bindSource scopes bound source before).2 := by
  obtain ⟨factor, joins⟩ := source
  rw [Source.factors, List.forall_mem_cons] at each
  have joined : ∀ (bound : List Binding) (before : Findings),
      before.Gains (takenAll (place.factors (joins.map Join.factor)))
        (bindJoins scopes bound joins before).2 := by
    replace each := each.2
    induction joins with
    | nil => exact fun _ before => .refl before
    | cons join joins inductionHypothesis =>
        obtain ⟨words, factor, condition⟩ := join
        rw [List.map_cons, List.forall_mem_cons] at each
        intro bound before
        exact (each.1 scopes agrees before bound).trans (inductionHypothesis each.2 _ _)
  exact (each.1 scopes agrees before bound).trans (joined _ _)

/-- A walk over the relations of sources. -/
theorem gains_bindSources {sources : List Source}
    (each : ∀ factor ∈ sources.flatMap Source.factors, Walked place (.factor factor))
    (bound : List Binding) (before : Findings) :
    before.Gains (takenAll (place.factors (sources.flatMap Source.factors)))
      (bindSources scopes bound sources before).2 := by
  induction sources generalizing bound before with
  | nil => exact .refl before
  | cons source sources inductionHypothesis =>
      rw [List.flatMap_cons, List.forall_mem_append] at each
      rw [List.flatMap_cons, Place.factors, List.map_append, takenAll_append]
      exact (gains_bindSource agrees each.1 bound before).trans (inductionHypothesis each.2 _ _)

/-- A walk over named queries. -/
theorem gains_walkDefinitions {recursive : Bool} {names earlier : List String}
    {definitions : List Definition}
    (each : ∀ child ∈ place.definitions recursive names earlier definitions,
      Walked child.1 child.2) (before : Findings) :
    before.Gains (takenAll (place.definitions recursive names earlier definitions))
      (walkDefinitions (scopes.defining names) definitions before) := by
  induction definitions generalizing earlier before with
  | nil => exact .refl before
  | cons definition rest inductionHypothesis =>
      obtain ⟨name, lead, marker, query, tail⟩ := definition
      rw [Place.definitions, List.forall_mem_cons] at each
      exact (each.1 _ (agrees.defining _ names) before).trans (inductionHypothesis each.2 _)

end Walks

/-- The parts of a part that the extraction comes to are walked over. -/
def WalkedParts (place : Place) (part : Part) : Prop :=
  ∀ child ∈ place.parts part, child.1.reached = true → Walked child.1 child.2

/-- Nothing is taken from expressions where the extraction does not come. -/
theorem takenAll_exprs_unreached {place : Place} (passed : place.reached = false)
    (exprs : List Expr) : takenAll (place.exprs exprs) = [] := by
  refine takenAll_unreached fun child among => ?_
  obtain ⟨expr, _, rfl⟩ := List.mem_map.mp among
  exact passed

/-- Nothing is taken from the expressions before some parts if they are passed over. -/
theorem takenAll_passed_append (place : Place) (exprs : List Expr) (parts : List (Place × Part)) :
    takenAll (place.passed.exprs exprs ++ parts) = takenAll parts := by
  have passed : place.passed.reached = false := rfl
  rw [takenAll_append, takenAll_exprs_unreached passed, List.nil_append]

/-- Nothing is taken from relations where the extraction does not come. -/
theorem takenAll_factors_unreached {place : Place} (passed : place.reached = false)
    (factors : List Factor) : takenAll (place.factors factors) = [] := by
  refine takenAll_unreached fun child among => ?_
  obtain ⟨factor, _, rfl⟩ := List.mem_map.mp among
  exact passed

/-- A column names no relation. -/
theorem taken_column (place : Place) {expr : Expr} (column : expr.isColumn = true) :
    Part.taken place (.expr expr) = [] := by
  induction expr using Expr.isColumn.induct with
  | case1 name => rw [Part.taken_eq]; rfl
  | case2 inner inductionHypothesis =>
      rw [Part.taken_eq]
      show takenAll [(place, Part.expr inner)] = []
      rw [takenAll_cons, inductionHypothesis column, takenAll_nil]
      rfl
  | case3 expr notColumn notNested =>
      rw [Expr.isColumn] at column
      · cases column
      · exact notColumn
      · exact notNested

/-- An operand is walked over, or is a column that is recorded. -/
theorem gains_operand {place : Place} {operand : Expr} (walked : Walked place (.expr operand))
    {scopes : Scopes} (agrees : scopes.Agrees place) (mode : AccessMode)
    (comparison : Option Comparison) (values : List ValueContext) (before : Findings) :
    before.Gains (Part.taken place (.expr operand))
      (if operand.isColumn then record scopes operand mode comparison values before
      else walkExpr scopes mode operand before) := by
  split
  · rename_i column
    rw [taken_column place column]
    exact .of_tables_eq (.refl _) (tables_record ..)
  · exact walked scopes agrees before mode

section Parts

variable {place : Place} (reached : place.reached = true)
include reached

/-- Expressions among the parts are walked over. -/
theorem WalkedParts.exprs {part : Part} (each : WalkedParts place part) {exprs : List Expr}
    (among : place.exprs exprs ⊆ place.parts part) : ∀ expr ∈ exprs, Walked place (.expr expr) :=
  fun _ listed => each _ (among (List.mem_map_of_mem listed)) reached

/-- Relations among the parts are walked over. -/
theorem WalkedParts.factors {part : Part} (each : WalkedParts place part) {factors : List Factor}
    (among : place.factors factors ⊆ place.parts part) :
    ∀ factor ∈ factors, Walked place (.factor factor) :=
  fun _ listed => each _ (among (List.mem_map_of_mem listed)) reached

/-- Two expressions under an operator are walked over when they are walked over. -/
theorem walked_binary {operator : Operator} {left right : Expr}
    (each : WalkedParts place (.expr (.binary operator left right))) :
    Walked place (.expr (.binary operator left right)) := by
  intro scopes agrees before mode
  have operands : ∀ expr ∈ [left, right], Walked place (.expr expr) :=
    each.exprs reached fun _ => id
  have both := gains_walkExprs agrees operands mode before
  rw [List.forall_mem_cons, List.forall_mem_singleton] at operands
  rw [Part.taken_of_parts rfl]
  show before.Gains (takenAll [(place, .expr left), (place, .expr right)]) _
  rw [walkExpr]
  split
  · -- A column beside something else is recorded and names no relation.
    rw [takenAll_cons, takenAll_cons, takenAll_nil, List.append_nil]
    split
    next leftColumn _ =>
      rw [taken_column place leftColumn, List.nil_append]
      exact .of_tables_eq (operands.2 scopes agrees _ _) (tables_record ..)
    next _ rightColumn =>
      rw [taken_column place rightColumn, List.append_nil]
      exact .of_tables_eq (operands.1 scopes agrees _ _) (tables_record ..)
    next leftColumn rightColumn =>
      rw [taken_column place leftColumn, taken_column place rightColumn]
      exact .of_tables_eq (.of_tables_eq (.refl _) (tables_record ..)) (tables_record ..)
    next => exact (operands.1 scopes agrees before mode).trans (operands.2 scopes agrees _ mode)
  · exact both

/-- What a test compares with is walked over behind the tested operand, which is recorded. -/
theorem gains_tested {part : Part} (each : WalkedParts place part) {tested others : List Expr}
    (same : place.parts part = place.passed.exprs tested ++ place.exprs others)
    (own : part.mention? place = none) {scopes : Scopes} (agrees : scopes.Agrees place)
    {before recorded : Findings} (kept : recorded.tables = before.tables) :
    before.Gains (part.taken place) (walkExprs scopes .read others recorded) := by
  have walked : ∀ expr ∈ others, Walked place (.expr expr) :=
    each.exprs reached (same ▸ List.subset_append_right _ _)
  rw [Part.taken_of_parts own, same, takenAll_passed_append]
  exact .of_tables_eq (gains_walkExprs agrees walked .read _) kept

/-- A part whose only part is a query is walked over as the query. -/
theorem gains_inner {part : Part} (each : WalkedParts place part) {query : Query}
    (same : place.parts part = [(place, .query query)]) (own : part.mention? place = none)
    {scopes : Scopes} (agrees : scopes.Agrees place) (before : Findings) :
    before.Gains (part.taken place) (walkQuery scopes query before) := by
  have inner : Walked place (.query query) :=
    each (place, .query query) (same ▸ List.mem_singleton_self _) reached
  rw [Part.taken_of_parts own, same, takenAll_singleton]
  exact inner scopes agrees before

/-- An expression is walked over when its parts are. -/
theorem walked_expr {expr : Expr} (each : WalkedParts place (.expr expr)) :
    Walked place (.expr expr) := by
  intro scopes agrees before mode
  cases expr with
  | binary operator left right => exact walked_binary reached each scopes agrees before mode
  | unary | nested | cast | isNull | tuple =>
      rw [Part.taken_of_parts rfl]
      exact gains_walkExprs agrees (each.exprs reached fun _ => id) mode before
  | inList operand negated items =>
      have walked : ∀ expr ∈ operand :: items, Walked place (.expr expr) :=
        each.exprs reached fun _ => id
      rw [List.forall_mem_cons] at walked
      rw [Part.taken_of_parts rfl]
      exact (gains_operand walked.1 agrees _ _ _ before).trans
        (gains_walkExprs agrees walked.2 .read _)
  | inQuery operand negated query =>
      have inner : Walked place (.query query) :=
        each (place, .query query) (List.mem_append_right _ (List.mem_singleton_self _)) reached
      rw [Part.taken_of_parts rfl, Place.parts, takenAll_passed_append, takenAll_singleton]
      exact .of_tables_eq (inner scopes agrees _) (tables_record ..)
  | anyOf operator word operand right =>
      exact gains_tested reached each rfl rfl agrees (tables_record scopes operand ..)
  | between operand negated low high =>
      exact gains_tested reached each rfl rfl agrees (tables_record scopes operand ..)
  | like words operand pattern escape =>
      exact gains_tested reached each rfl rfl agrees (tables_record scopes operand ..)
  | choice operand conditions results otherwise =>
      have walked := gains_walkExprs agrees (each.exprs reached fun _ => id) .read before
      rw [walkExprs_append, walkExprs_append, walkExprs_append] at walked
      rw [Part.taken_of_parts rfl]
      cases operand <;> cases otherwise <;> exact walked
  | call name arguments tail =>
      cases arguments with
      | absent =>
          rw [Part.taken_of_parts rfl]
          exact .refl before
      | query query => exact gains_inner reached each rfl rfl agrees before
      | list lead items clauses =>
          have walked := gains_walkExprs agrees (each.exprs reached fun _ => id) mode before
          rw [Part.taken_of_parts rfl]
          rw [← walkArgumentList_eq] at walked
          exact walked
  | «exists» | subquery => exact gains_inner reached each rfl rfl agrees before
  | column name =>
      rw [taken_column place rfl]
      exact .of_tables_eq (.refl _) (tables_record ..)
  | number | text | boolean | null | placeholder | typedText | phrase =>
      rw [Part.taken_of_parts rfl]
      exact .refl before

/-- A query is walked over when its named queries and its body are. -/
theorem walked_query {query : Query} (each : WalkedParts place (.query query)) :
    Walked place (.query query) := by
  obtain ⟨recursive, definitions, body, tail⟩ := query
  intro scopes agrees before
  rw [WalkedParts, Place.parts, List.forall_mem_append, List.forall_mem_singleton] at each
  have named : ∀ child ∈ place.definitions recursive (definitionNames definitions) [] definitions,
      Walked child.1 child.2 := fun child among =>
    each.1 child among ((Place.reached_of_mem_definitions among).trans reached)
  rw [Part.taken_of_parts rfl, Place.parts, takenAll_append, takenAll_singleton]
  exact (gains_walkDefinitions agrees named before).trans
    (each.2 reached _ (agrees.defining _ _) _)

theorem walked_select {select : Select} (each : WalkedParts place (.body (.select select))) :
    Walked place (.body (.select select)) := by
  obtain ⟨lead, items, target, sources, condition, groups, groupWord, having, tail⟩ := select
  intro scopes agrees before
  have factors := each.factors reached (List.subset_append_left _ _)
  have exprs := each.exprs reached (List.subset_append_right _ _)
  simp only [List.forall_mem_append] at exprs
  obtain ⟨joined, selected, filtered, grouped, kept⟩ := exprs
  have inner := agrees.entering (bindSources scopes [] sources before).1
  rw [Part.taken_of_parts rfl, Place.parts, takenAll_append]
  simp only [takenAll_exprs_append]
  show before.Gains _ (walkSelect scopes _ before)
  rw [walkSelect_eq]
  exact (gains_bindSources agrees factors [] before).trans
    ((gains_walkExprs inner joined _ _).trans ((gains_walkExprs inner selected _ _).trans
      ((gains_walkExprs inner filtered _ _).trans ((gains_walkExprs inner grouped _ _).trans
        (gains_walkExprs inner kept _ _)))))

/-- The body of a query is walked over when its parts are. -/
theorem walked_body {body : Body} (each : WalkedParts place (.body body)) :
    Walked place (.body body) := by
  cases body with
  | select select => exact walked_select reached each
  | query query =>
      intro scopes agrees before
      exact gains_inner reached each rfl rfl agrees before
  | combination words left right =>
      intro scopes agrees before
      have first : Walked place (.body left) := each _ List.mem_cons_self reached
      have second : Walked place (.body right) :=
        each _ (List.mem_cons_of_mem _ (List.mem_singleton_self _)) reached
      rw [Part.taken_of_parts rfl, Place.parts, takenAll_cons, takenAll_singleton]
      exact (first scopes agrees before).trans (second scopes agrees _)
  | values lead rows =>
      intro scopes agrees before
      have walked := gains_walkExprs agrees (each.exprs reached fun _ => id) .read before
      rw [Part.taken_of_parts rfl]
      rw [← walkRows_eq] at walked
      exact walked
  | phrase text =>
      intro scopes agrees before
      rw [Part.taken_of_parts rfl]
      exact .refl before

/-- A relation is walked over when its parts are. -/
theorem walked_factor {factor : Factor} (each : WalkedParts place (.factor factor)) :
    Walked place (.factor factor) := by
  intro scopes agrees before bound
  cases factor with
  | table name extras label hints =>
      have own : ((Part.factor (.table name extras label hints)).mention? place).bind
          Mention.taken? = if scopes.isDefinition name then none else tableOf name := by
        rw [Part.mention?, Option.bind_some, agrees.taken?_eq reached]
      rw [Part.taken_eq, own]
      show before.Gains _ (bindFactor scopes bound _ before).2
      rw [bindFactor]
      split
      · exact .refl before
      · split
        next table found =>
          rw [found]
          exact Findings.gains_reference table before
        next absent =>
          rw [absent]
          exact .refl before
  | derived lateral query label =>
      exact gains_inner reached each rfl rfl (agrees.entering bound) before
  | joined source label =>
      have factors := each.factors reached (List.subset_append_left _ _)
      have conditions := each.exprs reached (List.subset_append_right _ _)
      rw [Part.taken_of_parts rfl, Place.parts, takenAll_append]
      have joined := gains_walkExprs (agrees.entering (bindSource scopes bound source before).1)
        conditions .filter (bindSource scopes bound source before).2
      rw [← walkSourceJoins_eq] at joined
      exact (gains_bindSource agrees factors bound before).trans joined
  | phrase text =>
      rw [Part.taken_of_parts rfl]
      exact .refl before

end Parts

/-- Every part that the extraction comes to is walked over. -/
theorem walked {place : Place} (reached : place.reached = true) (part : Part) :
    Walked place part := by
  induction place, part using Part.mentions.induct with
  | case1 place part inductionHypothesis =>
      have each : WalkedParts place part := fun child among =>
        inductionHypothesis ⟨child, among⟩
      cases part with
      | expr expr => exact walked_expr reached each
      | query query => exact walked_query reached each
      | body body => exact walked_body reached each
      | factor factor => exact walked_factor reached each

end SchemaDrift
