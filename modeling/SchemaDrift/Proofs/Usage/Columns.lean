import SchemaDrift.Proofs.Usage.Sites

namespace SchemaDrift

open Sql

/-- The column that is used, behind its table. -/
def ColumnUsage.used (usage : ColumnUsage) : String × String := (usage.table, usage.column)

namespace Findings

/-- The findings after a walk have the uses of some columns more than those before. -/
def Adds (before : Findings) (uses : List (String × String)) (after : Findings) : Prop :=
  (after.usages.map ColumnUsage.used).Perm (before.usages.map ColumnUsage.used ++ uses)

variable {before between after : Findings} {uses others : List (String × String)}

/-- Findings that stay add nothing. -/
theorem Adds.refl (before : Findings) : before.Adds [] before := by
  rw [Adds, List.append_nil]

/-- What two walks add one after the other. -/
theorem Adds.trans (first : before.Adds uses between) (second : between.Adds others after) :
    before.Adds (uses ++ others) after := by
  rw [Adds, ← List.append_assoc]
  exact List.Perm.trans second (List.Perm.append_right others first)

/-- The order of what is added does not matter. -/
theorem Adds.perm (adds : before.Adds uses after) (same : uses.Perm others) :
    before.Adds others after :=
  List.Perm.trans adds (List.Perm.append_left _ same)

theorem adds_add (usage : ColumnUsage) (before : Findings) :
    before.Adds [usage.used] (before.add usage) := by
  rw [Adds, add, List.map_append]
  rfl

/-- A table is not the use of a column. -/
theorem adds_reference (table : String) (before : Findings) :
    before.Adds [] (before.reference table) := by
  rw [Adds, List.append_nil, reference]
  split <;> rfl

end Findings

namespace Sql

/-- The columns that the extraction takes the references in a part for. -/
def Part.uses (site : Site) (part : Part) : List (String × String) :=
  (part.references site).filterMap Reference.attributed?

/-- The columns that the extraction takes the references in parts for. -/
def usesAll (parts : List (Site × Part)) : List (String × String) :=
  parts.flatMap fun child => child.2.uses child.1

@[simp]
theorem usesAll_nil : usesAll [] = [] := rfl

@[simp]
theorem usesAll_cons (child : Site × Part) (parts : List (Site × Part)) :
    usesAll (child :: parts) = child.2.uses child.1 ++ usesAll parts :=
  List.flatMap_cons

theorem usesAll_singleton (child : Site × Part) : usesAll [child] = child.2.uses child.1 := by
  simp

@[simp]
theorem usesAll_append (first second : List (Site × Part)) :
    usesAll (first ++ second) = usesAll first ++ usesAll second :=
  List.flatMap_append

theorem usesAll_exprs_append (site : Site) (first second : List Expr) :
    usesAll (site.exprs (first ++ second)) =
      usesAll (site.exprs first) ++ usesAll (site.exprs second) := by
  rw [Site.exprs, List.map_append, usesAll_append]
  rfl

/-- The columns of a part are the one that it refers to itself and those of its parts. -/
theorem Part.uses_eq (site : Site) (part : Part) :
    part.uses site = ((part.reference? site).bind Reference.attributed?).toList ++
      usesAll (site.parts part) := by
  rw [uses, references_eq, List.filterMap_append, List.filterMap_flatMap]
  cases part.reference? site <;> rfl

/-- The columns of a part that refers to none itself are those of its parts. -/
theorem Part.uses_of_parts {site : Site} {part : Part} (own : part.reference? site = none) :
    part.uses site = usesAll (site.parts part) := by
  rw [uses_eq, own]
  rfl

/-- Nothing is found in what is passed over. -/
theorem Part.uses_passed {site : Site} (passed : site.place.reached = false) (part : Part) :
    part.uses site = [] := by
  induction site, part using references.induct with
  | case1 site part inductionHypothesis =>
      have own : (part.reference? site).bind Reference.attributed? = none := by
        unfold reference?
        split
        · simp [Reference.attributed?, passed]
        · rfl
      rw [uses_eq, own, usesAll, List.flatMap_eq_nil_iff.mpr]
      · rfl
      · intro child among
        refine inductionHypothesis ⟨child, among⟩ (Bool.eq_false_iff.mpr fun reached => ?_)
        rw [Site.reached_of_mem_parts among reached] at passed
        cases passed

/-- Nothing is found in parts that are all passed over. -/
theorem usesAll_unreached {parts : List (Site × Part)}
    (passed : ∀ child ∈ parts, child.1.place.reached = false) : usesAll parts = [] :=
  List.flatMap_eq_nil_iff.mpr fun child among => Part.uses_passed (passed child among) child.2

end Sql

/-- The scopes of a walk hold what is around a site. -/
structure Scopes.Holds (scopes : Scopes) (site : Site) : Prop where
  agrees : scopes.Agrees site.place
  relations : scopes.relations = site.scopes.relations

theorem lastFolded_of_tableOf {name : QualifiedName} {table : String}
    (known : tableOf name = some table) : lastFolded name = table := by
  unfold tableOf at known
  rw [lastFolded, List.getLast?_eq_head?_reverse]
  split at known
  · cases known
  · rename_i last qualifiers reversed
    rw [reversed]
    exact Option.some.inj (Option.ite_none_left_eq_some.mp known).2

section Binding

variable {scopes : Scopes} {place : Place}

mutual

/-- The relations of a factor are bound behind others. -/
theorem bindFactor_fst (agrees : scopes.Agrees place) (reached : place.reached = true) :
    ∀ (factor : Factor) (bound : List Binding) (before : Findings),
      (bindFactor scopes bound factor before).1 =
        bound ++ (factor.occupants place).map Occupant.binding
  | .table name extras label hints, bound, before => by
      have taken : Occupant.taken? ⟨(label.map (·.name.folded)).getD (lastFolded name),
          some ⟨name, Text.startsWith ['('] extras.toList, place⟩⟩ =
          if scopes.isDefinition name then none else tableOf name := by
        rw [Occupant.taken?, Option.bind_some, agrees.taken?_eq reached]
      rw [bindFactor, Factor.occupants, List.map_singleton, Occupant.binding, taken]
      split
      · rfl
      · split
        next table found => rw [found, lastFolded_of_tableOf found]
        next absent => rw [absent]
  | .derived lateral query label, bound, before => rfl
  | .joined source label, bound, before => bindSource_fst agrees reached source bound before
  | .phrase text, bound, before => rfl

/-- The relations of a source are bound behind others. -/
theorem bindSource_fst (agrees : scopes.Agrees place) (reached : place.reached = true) :
    ∀ (source : Source) (bound : List Binding) (before : Findings),
      (bindSource scopes bound source before).1 =
        bound ++ (source.occupants place).map Occupant.binding
  | .mk factor joins, bound, before => by
      rw [bindSource, bindJoins_fst agrees reached, bindFactor_fst agrees reached,
        Source.occupants, List.map_append, List.append_assoc]

/-- The joined relations are bound behind others. -/
theorem bindJoins_fst (agrees : scopes.Agrees place) (reached : place.reached = true) :
    ∀ (joins : List Join) (bound : List Binding) (before : Findings),
      (bindJoins scopes bound joins before).1 =
        bound ++ (occupantsOf place joins).map Occupant.binding
  | [], bound, before => (List.append_nil bound).symm
  | .mk words factor condition :: joins, bound, before => by
      rw [bindJoins, bindJoins_fst agrees reached, bindFactor_fst agrees reached, occupantsOf,
        List.map_append, List.append_assoc]

end

/-- The relations of factors that follow each other are bound one after the other. -/
def bindAll (scopes : Scopes) (state : List Binding × Findings) (factors : List Factor) :
    List Binding × Findings :=
  factors.foldl (fun state factor => bindFactor scopes state.1 factor state.2) state

theorem bindSource_eq (bound : List Binding) (source : Source) (before : Findings) :
    bindSource scopes bound source before = bindAll scopes (bound, before) source.factors := by
  obtain ⟨factor, joins⟩ := source
  have joined : ∀ (bound : List Binding) (before : Findings),
      bindJoins scopes bound joins before =
        bindAll scopes (bound, before) (joins.map Join.factor) := by
    induction joins with
    | nil => exact fun _ _ => rfl
    | cons join joins inductionHypothesis =>
        obtain ⟨words, factor, condition⟩ := join
        exact fun _ _ => inductionHypothesis _ _
  exact joined _ _

theorem bindSources_eq (bound : List Binding) (sources : List Source) (before : Findings) :
    bindSources scopes bound sources before =
      bindAll scopes (bound, before) (sources.flatMap Source.factors) := by
  induction sources generalizing bound before with
  | nil => rfl
  | cons source sources inductionHypothesis =>
      rw [bindSources, bindSource_eq, List.flatMap_cons, bindAll, bindAll, List.foldl_append]
      exact inductionHypothesis _ _

end Binding

namespace Scopes.Holds

variable {scopes : Scopes} {site : Site}

/-- The scopes before a statement hold that nothing is around it. -/
theorem outermost (reached : Bool) : Scopes.start.Holds (.outermost reached) :=
  ⟨.outermost reached, rfl⟩

theorem resolve (holds : scopes.Holds site) (name : QualifiedName) :
    scopes.resolve name = site.scopes.resolve name := by
  simp only [Scopes.resolve, Scopes.onlyTable, Scopes.qualified, holds.relations]

/-- A frame of named queries stands around the sites below it. -/
theorem defining (holds : scopes.Holds site) (visible names : List String) :
    (scopes.defining names).Holds (site.below visible names) :=
  ⟨holds.agrees.defining visible names, holds.relations⟩

/-- A clause opens without relations. -/
theorem opening (holds : scopes.Holds site) (clause : List Occupant) (exposed : Bool) :
    (scopes.entering []).Holds (site.opening clause exposed) :=
  ⟨holds.agrees.entering [], congrArg ([] :: ·) holds.relations⟩

/-- The relations of a factor are around what follows it. -/
theorem binding {bound : List Binding} (holds : (scopes.entering bound).Holds site)
    (reached : site.place.reached = true) (factor : Factor) (before : Findings) :
    (scopes.entering (bindFactor scopes bound factor before).1).Holds (site.binding factor) := by
  obtain ⟨agrees, relations⟩ := holds
  refine ⟨agrees, ?_⟩
  obtain ⟨place, clause, frames⟩ := site
  have free : scopes.Agrees place := agrees
  cases frames with
  | nil => cases relations
  | cons frame frames =>
      obtain ⟨rfl, outer⟩ := List.cons.inj relations
      rw [bindFactor_fst free reached, ← List.map_append]
      exact congrArg ((frame ++ factor.occupants place).map Occupant.binding :: ·) outer

/-- The relations of factors that follow each other are around what follows them. -/
theorem bindingAll {bound : List Binding} (holds : (scopes.entering bound).Holds site)
    (reached : site.place.reached = true) (factors : List Factor) (before : Findings) :
    (scopes.entering (bindAll scopes (bound, before) factors).1).Holds
      (site.bindingAll factors) := by
  induction factors generalizing site bound before with
  | nil => exact holds
  | cons factor rest inductionHypothesis =>
      exact inductionHypothesis (holds.binding reached factor before) reached _

end Scopes.Holds

theorem record_of_not_isColumn (scopes : Scopes) {expr : Expr} (other : expr.isColumn = false)
    (mode : AccessMode) (comparison : Option Comparison) (values : List ValueContext)
    (before : Findings) : record scopes expr mode comparison values before = before := by
  have nameless : expr.columnName? = none := by
    induction expr using Expr.isColumn.induct with
    | case1 name => cases other
    | case2 inner inductionHypothesis => exact inductionHypothesis other
    | case3 expr notColumn notNested =>
        rw [Expr.columnName?]
        · exact notColumn
        · exact notNested
  rw [record, nameless]
  rfl

/-- A column is recorded for what the extraction takes it for. -/
theorem adds_record {scopes : Scopes} {site : Site} (holds : scopes.Holds site)
    (reached : site.place.reached = true) {expr : Expr} (column : expr.isColumn = true)
    (mode : AccessMode) (comparison : Option Comparison) (values : List ValueContext)
    (before : Findings) :
    before.Adds (Part.uses site (.expr expr))
      (record scopes expr mode comparison values before) := by
  induction expr using Expr.isColumn.induct with
  | case1 name =>
      have own : Part.uses site (.expr (.column name)) = (scopes.resolve name).toList := by
        rw [Part.uses_eq, Part.reference?, Option.bind_some, Reference.attributed?, if_pos reached,
          holds.resolve]
        exact List.append_nil _
      rw [own, record, Expr.columnName?, Option.bind_some]
      cases scopes.resolve name with
      | none => exact .refl before
      | some found => exact Findings.adds_add ⟨_, _, mode, comparison, values⟩ before
  | case2 inner inductionHypothesis =>
      rw [Part.uses_of_parts rfl]
      show before.Adds (usesAll [(site, .expr inner)]) _
      rw [usesAll_singleton]
      exact inductionHypothesis column
  | case3 expr notColumn notNested =>
      rw [Expr.isColumn] at column
      · cases column
      · exact notColumn
      · exact notNested

/-- A walk over a part adds the columns that the references in it are taken for. -/
def Noted (site : Site) (part : Part) : Prop :=
  ∀ (scopes : Scopes) (before : Findings),
    match part with
    | .expr expr => scopes.Holds site → ∀ mode : AccessMode,
      before.Adds (part.uses site) (walkExpr scopes mode expr before)
    | .query query => scopes.Holds site →
      before.Adds (part.uses site) (walkQuery scopes query before)
    | .body body => scopes.Holds site → before.Adds (part.uses site) (walkBody scopes body before)
    | .factor factor => ∀ bound : List Binding, (scopes.entering bound).Holds site →
      before.Adds (part.uses site) (bindFactor scopes bound factor before).2

section Walks

variable {scopes : Scopes} {site : Site}

/-- A walk over expressions. -/
theorem adds_walkExprs (holds : scopes.Holds site) {exprs : List Expr}
    (each : ∀ expr ∈ exprs, Noted site (.expr expr)) (mode : AccessMode) (before : Findings) :
    before.Adds (usesAll (site.exprs exprs)) (walkExprs scopes mode exprs before) := by
  induction exprs generalizing before with
  | nil => exact .refl before
  | cons expr exprs inductionHypothesis =>
      rw [List.forall_mem_cons] at each
      exact (each.1 scopes before holds mode).trans (inductionHypothesis each.2 _)

/-- A walk over factors that follow each other. -/
theorem adds_bindAll {bound : List Binding} (holds : (scopes.entering bound).Holds site)
    (reached : site.place.reached = true) {factors : List Factor}
    (each : ∀ child ∈ site.factors factors, Noted child.1 child.2) (before : Findings) :
    before.Adds (usesAll (site.factors factors)) (bindAll scopes (bound, before) factors).2 := by
  induction factors generalizing site bound before with
  | nil => exact .refl before
  | cons factor rest inductionHypothesis =>
      rw [Site.factors, List.forall_mem_cons] at each
      exact (each.1 scopes before bound holds).trans
        (inductionHypothesis (holds.binding reached factor before) reached each.2 _)

/-- A walk over named queries. -/
theorem adds_walkDefinitions (holds : scopes.Holds site) {recursive : Bool}
    {names earlier : List String} {definitions : List Definition}
    (each : ∀ child ∈ site.place.definitions recursive names earlier definitions,
      Noted { site with place := child.1 } child.2) (before : Findings) :
    before.Adds
      (usesAll ((site.place.definitions recursive names earlier definitions).map
        fun child => ({ site with place := child.1 }, child.2)))
      (walkDefinitions (scopes.defining names) definitions before) := by
  induction definitions generalizing earlier before with
  | nil => exact .refl before
  | cons definition rest inductionHypothesis =>
      obtain ⟨name, lead, marker, query, tail⟩ := definition
      rw [Place.definitions, List.forall_mem_cons] at each
      exact (each.1 _ before (holds.defining _ names)).trans (inductionHypothesis each.2 _)

end Walks

/-- The parts of a part that the extraction comes to add their columns. -/
def NotedParts (site : Site) (part : Part) : Prop :=
  ∀ child ∈ site.parts part, child.1.place.reached = true → Noted child.1 child.2

section Parts

variable {site : Site} (reached : site.place.reached = true)
include reached

/-- Expressions among the parts add their columns. -/
theorem NotedParts.exprs {part : Part} (each : NotedParts site part) {other : Site}
    {exprs : List Expr} (among : other.exprs exprs ⊆ site.parts part)
    (same : other.place = site.place) : ∀ expr ∈ exprs, Noted other (.expr expr) :=
  fun _ listed => each _ (among (List.mem_map_of_mem listed)) (same ▸ reached)

/-- Factors among the parts add their columns. -/
theorem NotedParts.factors {part : Part} (each : NotedParts site part) {other : Site}
    {factors : List Factor} (among : other.factors factors ⊆ site.parts part)
    (same : other.place = site.place) :
    ∀ child ∈ other.factors factors, Noted child.1 child.2 :=
  fun _ listed => each _ (among listed)
    ((Site.place_of_mem_factors listed).trans same ▸ reached)

/-- An operand is walked over, or is a column that is recorded. -/
theorem adds_operand {operand : Expr} (noted : Noted site (.expr operand)) {scopes : Scopes}
    (holds : scopes.Holds site) (mode : AccessMode) (comparison : Option Comparison)
    (values : List ValueContext) (before : Findings) :
    before.Adds (Part.uses site (.expr operand))
      (if operand.isColumn then record scopes operand mode comparison values before
      else walkExpr scopes mode operand before) := by
  split
  · exact adds_record holds reached ‹_› mode comparison values before
  · exact noted scopes before holds mode

/-- A tested operand is recorded if it is a column, and else passed over. -/
theorem adds_tested {scopes : Scopes} (holds : scopes.Holds site) (operand : Expr)
    (mode : AccessMode) (comparison : Option Comparison) (values : List ValueContext)
    (before : Findings) :
    before.Adds (usesAll ((site.testing operand).exprs [operand]))
      (record scopes operand mode comparison values before) := by
  show before.Adds (usesAll [(site.testing operand, .expr operand)]) _
  rw [usesAll_singleton]
  cases column : operand.isColumn with
  | true =>
      rw [Site.testing, if_pos column]
      exact adds_record holds reached column mode comparison values before
  | false =>
      have passed : (site.testing operand).place.reached = false := by
        rw [Site.testing, column]
        rfl
      rw [Part.uses_passed passed, record_of_not_isColumn scopes column]
      exact .refl before

/-- Two expressions under an operator add their columns. -/
theorem noted_binary {operator : Operator} {left right : Expr}
    (each : NotedParts site (.expr (.binary operator left right))) :
    Noted site (.expr (.binary operator left right)) := by
  intro scopes before holds mode
  have operands : ∀ expr ∈ [left, right], Noted site (.expr expr) :=
    each.exprs reached (fun _ => id) rfl
  have both := adds_walkExprs holds operands mode before
  rw [List.forall_mem_cons, List.forall_mem_singleton] at operands
  rw [Part.uses_of_parts rfl]
  show before.Adds (usesAll [(site, .expr left), (site, .expr right)]) _
  rw [walkExpr]
  split
  · rw [usesAll_cons, usesAll_singleton]
    split
    next leftColumn _ =>
      exact (adds_record holds reached leftColumn ..).trans (operands.2 scopes _ holds .read)
    next _ rightColumn =>
      -- The column on the right is recorded before the walk over the left.
      exact ((adds_record holds reached rightColumn ..).trans
        (operands.1 scopes _ holds .read)).perm List.perm_append_comm
    next leftColumn rightColumn =>
      exact (adds_record holds reached leftColumn ..).trans
        (adds_record holds reached rightColumn ..)
    next => exact (operands.1 scopes before holds mode).trans (operands.2 scopes _ holds mode)
  · exact both

/-- What a test compares with is walked over behind the tested operand. -/
theorem adds_test {part : Part} (each : NotedParts site part) {operand : Expr}
    {others : List Expr}
    (same : site.parts part = (site.testing operand).exprs [operand] ++ site.exprs others)
    (own : part.reference? site = none) {scopes : Scopes} (holds : scopes.Holds site)
    (mode : AccessMode) (comparison : Option Comparison) (values : List ValueContext)
    (before : Findings) :
    before.Adds (part.uses site)
      (walkExprs scopes .read others (record scopes operand mode comparison values before)) := by
  have noted : ∀ expr ∈ others, Noted site (.expr expr) :=
    each.exprs reached (same ▸ List.subset_append_right _ _) rfl
  rw [Part.uses_of_parts own, same, usesAll_append]
  exact (adds_tested reached holds operand mode comparison values before).trans
    (adds_walkExprs holds noted .read _)

/-- A part whose only part is a query at the same place adds the columns of the query. -/
theorem adds_inner {part : Part} (each : NotedParts site part) {other : Site} {query : Query}
    (same : site.parts part = [(other, .query query)]) (own : part.reference? site = none)
    (here : other.place = site.place) {scopes : Scopes} (holds : scopes.Holds other)
    (before : Findings) : before.Adds (part.uses site) (walkQuery scopes query before) := by
  have inner : Noted other (.query query) :=
    each (other, .query query) (same ▸ List.mem_singleton_self _) (here ▸ reached)
  rw [Part.uses_of_parts own, same, usesAll_singleton]
  exact inner scopes before holds

/-- An expression adds its columns when its parts do. -/
theorem noted_expr {expr : Expr} (each : NotedParts site (.expr expr)) :
    Noted site (.expr expr) := by
  intro scopes before holds mode
  cases expr with
  | binary operator left right => exact noted_binary reached each scopes before holds mode
  | unary | nested | cast | isNull | tuple =>
      rw [Part.uses_of_parts rfl]
      exact adds_walkExprs holds (each.exprs reached (fun _ => id) rfl) mode before
  | inList operand negated items =>
      have noted : ∀ expr ∈ operand :: items, Noted site (.expr expr) :=
        each.exprs reached (fun _ => id) rfl
      rw [List.forall_mem_cons] at noted
      rw [Part.uses_of_parts rfl]
      exact (adds_operand reached noted.1 holds _ _ _ before).trans
        (adds_walkExprs holds noted.2 .read _)
  | inQuery operand negated query =>
      have inner : Noted site (.query query) :=
        each (site, .query query) (List.mem_append_right _ (List.mem_singleton_self _)) reached
      rw [Part.uses_of_parts rfl, Site.parts, usesAll_append, usesAll_singleton]
      exact (adds_tested reached holds operand _ _ _ before).trans (inner scopes _ holds)
  | anyOf | between | like => exact adds_test reached each rfl rfl holds _ _ _ before
  | choice operand conditions results otherwise =>
      have noted := adds_walkExprs holds (each.exprs reached (fun _ => id) rfl) .read before
      rw [walkExprs_append, walkExprs_append, walkExprs_append] at noted
      rw [Part.uses_of_parts rfl]
      cases operand <;> cases otherwise <;> exact noted
  | call name arguments tail =>
      cases arguments with
      | absent =>
          rw [Part.uses_of_parts rfl]
          exact .refl before
      | query query => exact adds_inner reached each rfl rfl rfl holds before
      | list lead items clauses =>
          have noted := adds_walkExprs holds (each.exprs reached (fun _ => id) rfl) mode before
          rw [Part.uses_of_parts rfl]
          rw [← walkArgumentList_eq] at noted
          exact noted
  | «exists» | subquery => exact adds_inner reached each rfl rfl rfl holds before
  | column name => exact adds_record holds reached rfl mode none [] before
  | number | text | boolean | null | placeholder | typedText | phrase =>
      rw [Part.uses_of_parts rfl]
      exact .refl before

/-- A query adds its columns when its named queries and its body do. -/
theorem noted_query {query : Query} (each : NotedParts site (.query query)) :
    Noted site (.query query) := by
  obtain ⟨recursive, definitions, body, tail⟩ := query
  intro scopes before holds
  rw [NotedParts, Site.parts, List.forall_mem_append, List.forall_mem_singleton] at each
  have named : ∀ child ∈ site.place.definitions recursive (definitionNames definitions) []
      definitions, Noted { site with place := child.1 } child.2 := fun child among =>
    each.1 _ (List.mem_map_of_mem among) ((Place.reached_of_mem_definitions among).trans reached)
  rw [Part.uses_of_parts rfl, Site.parts, usesAll_append, usesAll_singleton]
  exact (adds_walkDefinitions holds named before).trans
    (each.2 reached _ _ (holds.defining _ _))

/-- A selection adds its columns when its parts do. -/
theorem noted_select {select : Select} (each : NotedParts site (.body (.select select))) :
    Noted site (.body (.select select)) := by
  obtain ⟨lead, items, target, sources, condition, groups, groupWord, having, tail⟩ := select
  intro scopes before holds
  let factors := sources.flatMap Source.factors
  let opened := site.selecting factors
  have opens : (scopes.entering []).Holds opened := holds.opening _ false
  have bound : ∀ child ∈ opened.factors factors, Noted child.1 child.2 :=
    each.factors reached (List.subset_append_left _ _) rfl
  have exprs := each.exprs reached (List.subset_append_right _ _) (Site.place_bindingAll _ _)
  simp only [List.forall_mem_append] at exprs
  obtain ⟨joined, selected, filtered, grouped, kept⟩ := exprs
  have inner := opens.bindingAll reached factors before
  rw [Part.uses_of_parts rfl, Site.parts, usesAll_append]
  simp only [usesAll_exprs_append]
  show before.Adds _ (walkSelect scopes _ before)
  rw [walkSelect_eq, bindSources_eq]
  exact (adds_bindAll opens reached bound before).trans
    ((adds_walkExprs inner joined _ _).trans ((adds_walkExprs inner selected _ _).trans
      ((adds_walkExprs inner filtered _ _).trans ((adds_walkExprs inner grouped _ _).trans
        (adds_walkExprs inner kept _ _)))))

/-- The body of a query adds its columns when its parts do. -/
theorem noted_body {body : Body} (each : NotedParts site (.body body)) :
    Noted site (.body body) := by
  cases body with
  | select select => exact noted_select reached each
  | query query =>
      intro scopes before holds
      exact adds_inner reached each rfl rfl rfl holds before
  | combination words left right =>
      intro scopes before holds
      have first : Noted site (.body left) := each _ List.mem_cons_self reached
      have second : Noted site (.body right) :=
        each _ (List.mem_cons_of_mem _ (List.mem_singleton_self _)) reached
      rw [Part.uses_of_parts rfl, Site.parts, usesAll_cons, usesAll_singleton]
      exact (first scopes before holds).trans (second scopes _ holds)
  | values lead rows =>
      intro scopes before holds
      have noted := adds_walkExprs holds (each.exprs reached (fun _ => id) rfl) .read before
      rw [Part.uses_of_parts rfl]
      rw [← walkRows_eq] at noted
      exact noted
  | phrase text =>
      intro scopes before holds
      rw [Part.uses_of_parts rfl]
      exact .refl before

/-- A relation adds its columns when its parts do. -/
theorem noted_factor {factor : Factor} (each : NotedParts site (.factor factor)) :
    Noted site (.factor factor) := by
  intro scopes before bound holds
  cases factor with
  | table name extras label hints =>
      rw [Part.uses_of_parts rfl]
      show before.Adds [] (bindFactor scopes bound _ before).2
      rw [bindFactor]
      split
      · exact .refl before
      · split
        · exact Findings.adds_reference _ before
        · exact .refl before
  | derived lateral query label => exact adds_inner reached each rfl rfl rfl ⟨holds.agrees, holds.relations⟩ before
  | joined source label =>
      have factors := each.factors reached (List.subset_append_left _ _) rfl
      have conditions := each.exprs reached (List.subset_append_right _ _)
        (Site.place_bindingAll _ _)
      have inner := holds.bindingAll reached source.factors before
      rw [Part.uses_of_parts rfl, Site.parts, usesAll_append]
      show before.Adds _ (walkSourceJoins _ source (bindSource scopes bound source before).2)
      rw [walkSourceJoins_eq, bindSource_eq]
      exact (adds_bindAll holds reached factors before).trans
        (adds_walkExprs inner conditions .filter _)
  | phrase text =>
      rw [Part.uses_of_parts rfl]
      exact .refl before

end Parts

/-- Every part that the extraction comes to adds its columns. -/
theorem noted {site : Site} (reached : site.place.reached = true) (part : Part) :
    Noted site part := by
  induction site, part using Part.references.induct with
  | case1 site part inductionHypothesis =>
      have each : NotedParts site part := fun child among =>
        inductionHypothesis ⟨child, among⟩
      cases part with
      | expr expr => exact noted_expr reached each
      | query query => exact noted_query reached each
      | body body => exact noted_body reached each
      | factor factor => exact noted_factor reached each

end SchemaDrift
