import SchemaDrift.Proofs.Usage.References

namespace SchemaDrift

namespace Sql

/-- A relation in a clause goes by a name. It is a mention of a relation; rows that a query gives are
none, and neither is what the tree keeps as text. -/
structure Occupant where
  name : String
  mention? : Option Mention
  deriving DecidableEq

namespace Occupant

/-- The table that the extraction takes a relation for. -/
def taken? (occupant : Occupant) : Option String := occupant.mention?.bind Mention.taken?

/-- The table of the schema that SQL lets a relation be. -/
def table? (occupant : Occupant) : Option String := occupant.mention?.bind Mention.table?

/-- A relation is the rows that a call gives. -/
def called (occupant : Occupant) : Bool := occupant.mention?.any (·.called)

/-- What the extraction knows of a relation. -/
def binding (occupant : Occupant) : Binding := ⟨occupant.name, occupant.taken?⟩

end Occupant

mutual

/-- The relations that a factor at a place brings in. -/
def Factor.occupants (place : Place) : Factor → List Occupant
  | .table name extras label _ =>
    [⟨(label.map (·.name.folded)).getD (lastFolded name),
      some ⟨name, Text.startsWith ['('] extras.toList, place⟩⟩]
  | .derived _ _ label => [⟨(label.map (·.name.folded)).getD "", none⟩]
  | .joined source _ => source.occupants place
  | .phrase _ => [⟨"", none⟩]

def Source.occupants (place : Place) : Source → List Occupant
  | .mk factor joins => factor.occupants place ++ occupantsOf place joins

def occupantsOf (place : Place) : List Join → List Occupant
  | [] => []
  | .mk _ factor _ :: joins => factor.occupants place ++ occupantsOf place joins

end

/-- A source brings in the relations of its factors. -/
theorem Source.occupants_eq (place : Place) (source : Source) :
    source.occupants place = source.factors.flatMap (Factor.occupants place) := by
  obtain ⟨factor, joins⟩ := source
  rw [occupants, factors, List.flatMap_cons]
  congr 1
  induction joins with
  | nil => rfl
  | cons join joins inductionHypothesis =>
      obtain ⟨words, factor, condition⟩ := join
      rw [occupantsOf, inductionHypothesis]
      rfl

/-- A site of a statement: a place, the relations of the clause of the innermost selection or update
around it, and the relations that the extraction has bound there and in the clauses around, innermost
first. An exposed site stands in a query among the relations of the clause, or in an update from
further relations. -/
structure Site where
  place : Place
  clause : List Occupant
  frames : List (List Occupant)
  exposed : Bool
  deriving DecidableEq

namespace Site

/-- A site outside all selections. -/
def outermost (reached : Bool) : Site := ⟨.outermost reached, [], [], false⟩

/-- The relations of the clause that the extraction has bound. -/
def bound (site : Site) : List Occupant := site.frames.headD []

/-- The scopes in which the extraction resolves names at a site. -/
def scopes (site : Site) : Scopes :=
  ⟨[site.place.around], site.frames.map (·.map Occupant.binding)⟩

/-- A site that the extraction passes over. -/
def passed (site : Site) : Site := { site with place := site.place.passed }

/-- The site of a tested operand. The extraction comes to it if it is a column. -/
def testing (site : Site) (operand : Expr) : Site := if operand.isColumn then site else site.passed

/-- The site at the start of a clause, before its relations are bound. -/
def opening (site : Site) (clause : List Occupant) (exposed : Bool) : Site :=
  { site with clause := clause, frames := [] :: site.frames, exposed := exposed }

def selecting (site : Site) (factors : List Factor) : Site :=
  site.opening (factors.flatMap (Factor.occupants site.place)) false

/-- The site at the start of an update of factors from further ones. -/
def updating (site : Site) (factors further : List Factor) : Site :=
  site.opening ((factors ++ further).flatMap (Factor.occupants site.place)) !further.isEmpty

/-- The site of a query that is a relation of the clause. -/
def derived (site : Site) : Site := { site with exposed := true }

/-- The site behind a factor, whose relations are bound. -/
def binding (site : Site) (factor : Factor) : Site :=
  { site with frames := (site.bound ++ factor.occupants site.place) :: site.frames.tail }

/-- The site behind factors, whose relations are all bound. -/
def bindingAll (site : Site) (factors : List Factor) : Site := factors.foldl binding site

/-- Expressions at a site. -/
def exprs (site : Site) (exprs : List Expr) : List (Site × Part) :=
  exprs.map fun expr => (site, .expr expr)

/-- Factors that follow each other from a site on. Each sees those before it. -/
def factors (site : Site) : List Factor → List (Site × Part)
  | [] => []
  | factor :: rest => (site, .factor factor) :: (site.binding factor).factors rest

def definitions (site : Site) (recursive : Bool) (definitions : List Definition) :
    List (Site × Part) :=
  (site.place.definitions recursive (definitionNames definitions) [] definitions).map
    fun child => ({ site with place := child.1 }, child.2)

/-- The site below named queries, some of which are visible in it. -/
def below (site : Site) (visible names : List String) : Site :=
  { site with place := site.place.below visible names }

/-- The parts of a part. A selection opens a clause, and its expressions see all relations of the
clause; in the clause itself the relations so far are seen. -/
def parts (site : Site) : Part → List (Site × Part)
  | .expr (.binary _ left right) => site.exprs [left, right]
  | .expr (.unary _ operand) => site.exprs [operand]
  | .expr (.nested inner) => site.exprs [inner]
  | .expr (.cast _ operand _) => site.exprs [operand]
  | .expr (.inList operand _ items) => site.exprs (operand :: items)
  | .expr (.inQuery operand _ query) =>
    (site.testing operand).exprs [operand] ++ [(site, .query query)]
  | .expr (.anyOf _ _ operand right) =>
    (site.testing operand).exprs [operand] ++ site.exprs [right]
  | .expr (.between operand _ low high) =>
    (site.testing operand).exprs [operand] ++ site.exprs [low, high]
  | .expr (.like _ operand pattern _) =>
    (site.testing operand).exprs [operand] ++ site.exprs [pattern]
  | .expr (.isNull operand _) => site.exprs [operand]
  | .expr (.choice operand conditions results otherwise) =>
    site.exprs (operand.toList ++ (conditions ++ (results ++ otherwise.toList)))
  | .expr (.call _ (.list _ items _) _) => site.exprs (items.filterMap Argument.expr?)
  | .expr (.call _ (.query query) _) => [(site, .query query)]
  | .expr (.exists _ query) => [(site, .query query)]
  | .expr (.subquery query) => [(site, .query query)]
  | .expr (.tuple items) => site.exprs items
  | .expr _ => []
  | .query (.mk recursive definitions body _) =>
    let names := definitionNames definitions
    site.definitions recursive definitions ++ [(site.below names names, .body body)]
  | .body (.select (.mk _ items _ sources condition groups _ having _)) =>
    let factors := sources.flatMap Source.factors
    let opened := site.selecting factors
    opened.factors factors ++
      (opened.bindingAll factors).exprs (sources.flatMap Source.conditions ++
        (items.filterMap Item.expr? ++ (condition.toList ++ (groups ++ having.toList))))
  | .body (.query query) => [(site, .query query)]
  | .body (.combination _ left right) => [(site, .body left), (site, .body right)]
  | .body (.values _ rows) => site.exprs rows.flatten
  | .body (.phrase _) => []
  | .factor (.derived _ query _) => [(site.derived, .query query)]
  | .factor (.joined source _) =>
    site.factors source.factors ++ (site.bindingAll source.factors).exprs source.conditions
  | .factor _ => []

/-- Expressions are the same at a site as at a place. -/
theorem map_snd_exprs (site : Site) (place : Place) (exprs : List Expr) :
    (site.exprs exprs).map Prod.snd = (place.exprs exprs).map Prod.snd := by
  rw [Site.exprs, Place.exprs, List.map_map, List.map_map]
  rfl

/-- Factors that follow each other are the same at a site as at a place. -/
theorem map_snd_factors (site : Site) (place : Place) (factors : List Factor) :
    (site.factors factors).map Prod.snd = (place.factors factors).map Prod.snd := by
  induction factors generalizing site with
  | nil => rfl
  | cons factor rest inductionHypothesis =>
      exact congrArg (Part.factor factor :: ·) (inductionHypothesis _)

theorem map_snd_parts (site : Site) (part : Part) :
    (site.parts part).map Prod.snd = (site.place.parts part).map Prod.snd := by
  unfold parts Place.parts
  split <;> simp only [List.map_append, List.map_cons, List.map_nil, definitions, List.map_map,
    map_snd_exprs _ site.place, map_snd_factors _ site.place]
  all_goals rfl

theorem sizeOf_lt_of_mem_parts {site : Site} {part : Part} {child : Site × Part}
    (among : child ∈ site.parts part) : sizeOf child.2 < sizeOf part := by
  have listed := List.mem_map_of_mem (f := Prod.snd) among
  rw [map_snd_parts] at listed
  obtain ⟨other, known, same⟩ := List.mem_map.mp listed
  exact same ▸ Place.sizeOf_lt_of_mem_parts known

@[simp]
theorem place_binding (site : Site) (factor : Factor) :
    (site.binding factor).place = site.place := rfl

@[simp]
theorem place_bindingAll (site : Site) (factors : List Factor) :
    (site.bindingAll factors).place = site.place := by
  induction factors generalizing site with
  | nil => rfl
  | cons factor rest inductionHypothesis => exact inductionHypothesis _

/-- Factors that follow each other are at one place. -/
theorem place_of_mem_factors {site : Site} {factors : List Factor} {child : Site × Part}
    (among : child ∈ site.factors factors) : child.1.place = site.place := by
  induction factors generalizing site with
  | nil => cases among
  | cons factor rest inductionHypothesis =>
      rcases List.mem_cons.mp among with rfl | later
      · rfl
      · exact (inductionHypothesis later).trans (place_binding site factor)

/-- The extraction comes to the queries of definitions if it comes to their site. -/
theorem reached_of_mem_definitions {site : Site} {recursive : Bool} {definitions : List Definition}
    {child : Site × Part} (among : child ∈ site.definitions recursive definitions) :
    child.1.place.reached = site.place.reached := by
  obtain ⟨other, known, rfl⟩ := List.mem_map.mp among
  exact Place.reached_of_mem_definitions known

/-- A tested operand to which the extraction comes stands at the site of the test. -/
theorem testing_of_reached {site : Site} {operand : Expr}
    (reached : (site.testing operand).place.reached = true) : site.testing operand = site := by
  unfold testing at reached ⊢
  split at reached
  · exact if_pos ‹_›
  · cases reached

/-- The extraction comes to a part of a part only if it comes to the part. -/
theorem reached_of_mem_parts {site : Site} {part : Part} {child : Site × Part}
    (among : child ∈ site.parts part) (reached : child.1.place.reached = true) :
    site.place.reached = true := by
  unfold parts at among
  split at among
  all_goals
    simp only [exprs, List.map_cons, List.map_nil, List.mem_append, List.mem_cons,
      List.not_mem_nil, or_false, List.mem_map] at among
  all_goals
    grind [below, selecting, opening, derived, Place.below, place_bindingAll, → place_of_mem_factors,
      → reached_of_mem_definitions, → testing_of_reached]

end Site

/-- A column that is referred to at a site. -/
structure Reference where
  name : QualifiedName
  site : Site
  deriving DecidableEq

/-- The table and the column that the extraction takes a reference for. -/
def Reference.attributed? (reference : Reference) : Option (String × String) :=
  if reference.site.place.reached then reference.site.scopes.resolve reference.name else none

def Part.reference? (site : Site) : Part → Option Reference
  | .expr (.column name) => some ⟨name, site⟩
  | _ => none

/-- The columns that a part refers to, at any depth. -/
def Part.references (site : Site) (part : Part) : List Reference :=
  (part.reference? site).toList ++
    (site.parts part).attach.flatMap fun child => child.1.2.references child.1.1
termination_by sizeOf part
decreasing_by exact Site.sizeOf_lt_of_mem_parts child.2

/-- The columns that a part refers to are the one that it is itself, and those that its parts refer
to. -/
theorem Part.references_eq (site : Site) (part : Part) :
    part.references site = (part.reference? site).toList ++
      (site.parts part).flatMap fun child => child.2.references child.1 := by
  rw [references, List.flatMap_subtype (g := fun child => child.2.references child.1) fun _ _ => rfl,
    List.unattach_attach]

/-- The parts of what is inserted at a site. The extraction does not come to named queries before rows
that are written out, and does not take them to be around the rows. -/
def Site.inserted (site : Site) : Option Query → List (Site × Part)
  | some (.mk recursive definitions (.values _ rows) _) =>
    site.passed.definitions recursive definitions ++
      (site.below (definitionNames definitions) []).exprs rows.flatten
  | some query => [(site, .query query)]
  | none => []

/-- The column that an index is made on, if it is made on one. -/
def IndexColumn.named? (column : IndexColumn) : Option String :=
  match column.expr with
  | .column [name] => some name.folded
  | _ => none

/-- The column whose type a change of a table declares. -/
def TableChange.declared? : TableChange → Option String
  | .addColumn _ _ column => some column.name.folded
  | .setType column _ _ => some column.folded
  | .other _ => none

namespace Statement

def targeted : Statement → List String
  | .query _ => []
  | .insert _ _ _ columns (some (.mk _ _ (.values _ rows) _)) _ =>
    rows.flatMap fun row => (columns.zip row).map (·.1.folded)
  | .insert _ _ _ columns _ _ => columns.map Name.folded
  | .update _ _ assignments _ _ _ => assignments.flatMap (·.target.columns)
  | .createTable _ _ _ columns _ _ => columns.map (·.name.folded)
  | .createIndex _ _ _ _ _ _ columns _ => columns.filterMap IndexColumn.named?
  | .alterTable _ _ changes => changes.filterMap TableChange.declared?
  | .other _ => []

/-- The outermost parts of a statement. The clause of an update holds what is updated and the further
relations, which the extraction does not come to. -/
def sites : Statement → List (Site × Part)
  | .query selection => [(.outermost true, .query selection)]
  | .insert _ table _ _ source _ => (Site.outermost (tableOf table).isSome).inserted source
  | .update _ table assignments source condition _ =>
    let site := Site.outermost table.lone?.isSome
    let further := source.toList.flatMap Source.factors
    let opened := site.updating table.factors further
    let bound := opened.bindingAll table.factors
    opened.factors table.factors ++
      (bound.exprs (assignments.map (·.value) ++ condition.toList) ++
        (bound.passed.factors further ++
          bound.passed.exprs (table.conditions ++ source.toList.flatMap Source.conditions)))
  | _ => []

/-- The columns that a statement refers to, at any depth, but for those of its target. -/
def references (statement : Statement) : List Reference :=
  statement.sites.flatMap fun child => child.2.references child.1

/-- A statement inserts rows that are written out, behind named queries. -/
def hidesNames : Statement → Bool
  | .insert _ _ _ _ (some (.mk _ (_ :: _) (.values _ _) _)) _ => true
  | _ => false

end Statement

end Sql

end SchemaDrift
