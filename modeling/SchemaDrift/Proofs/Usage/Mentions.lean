import SchemaDrift.Usage.Extraction

namespace SchemaDrift

namespace Sql

/-- A place in a statement. A relation that it names may stand for one of the `visible` named
queries. The extraction, if it comes to the place, takes all named queries `around` for visible. -/
structure Place where
  visible : List String
  around : List String
  reached : Bool
  deriving DecidableEq

/-- A part of a statement that may name relations. What the tree keeps as text is no part. -/
inductive Part where
  | expr (expr : Expr)
  | query (query : Query)
  | body (body : Body)
  | factor (factor : Factor)

namespace Place

/-- A place outside all named queries. -/
def outermost (reached : Bool) : Place := ⟨[], [], reached⟩

/-- A place that the extraction passes over. -/
def passed (place : Place) : Place := { place with reached := false }

/-- The place below named queries, some of which are visible in it. -/
def below (place : Place) (visible names : List String) : Place :=
  { place with visible := visible ++ place.visible, around := names ++ place.around }

/-- The queries of definitions that follow `earlier` ones, each with its place. A query sees all
names of a recursive list, and else the earlier ones alone. -/
def definitions (place : Place) (recursive : Bool) (names : List String) :
    List String → List Definition → List (Place × Part)
  | _, [] => []
  | earlier, .mk name _ _ query _ :: rest =>
    (place.below (if recursive then names else earlier) names, .query query) ::
      place.definitions recursive names (earlier ++ [name.folded]) rest

end Place

def Argument.expr? : Argument → Option Expr
  | .value expr => some expr
  | .named _ _ expr => some expr
  | .wildcard _ => none

/-- The expression of an argument is smaller. -/
theorem Argument.sizeOf_lt_of_expr? {argument : Argument} {expr : Expr}
    (found : argument.expr? = some expr) : sizeOf expr < sizeOf argument := by
  cases argument <;> cases found
  · simp
  · simp only [named.sizeOf_spec]
    omega

def Item.expr? : Item → Option Expr
  | .value expr => some expr
  | .aliased expr _ => some expr
  | .wildcard _ => none

/-- The expression of an item is smaller. -/
theorem Item.sizeOf_lt_of_expr? {item : Item} {expr : Expr} (found : item.expr? = some expr) :
    sizeOf expr < sizeOf item := by
  cases item <;> cases found
  · simp
  · simp only [aliased.sizeOf_spec]
    omega

/-- The joined relation. -/
def Join.factor : Join → Factor
  | .mk _ factor _ => factor

/-- The expression that a join is made on. -/
def Join.condition? : Join → Option Expr
  | .mk _ _ (.on expr) => some expr
  | .mk _ _ _ => none

/-- The relations that stand next to each other in a source. -/
def Source.factors : Source → List Factor
  | .mk factor joins => factor :: joins.map Join.factor

def Source.conditions : Source → List Expr
  | .mk _ joins => joins.filterMap Join.condition?

/-- The relations of a source are smaller. -/
theorem Source.sizeOf_lt_of_mem_factors {source : Source} {factor : Factor}
    (among : factor ∈ source.factors) : sizeOf factor < sizeOf source := by
  obtain ⟨first, joins⟩ := source
  rcases List.mem_cons.mp among with rfl | joined
  · simp only [mk.sizeOf_spec]
    omega
  · obtain ⟨⟨words, joined, condition⟩, listed, rfl⟩ := List.mem_map.mp joined
    have smaller := List.sizeOf_lt_of_mem listed
    simp only [mk.sizeOf_spec, Join.mk.sizeOf_spec, Join.factor] at smaller ⊢
    omega

/-- The conditions of the joins of a source are smaller. -/
theorem Source.sizeOf_lt_of_mem_conditions {source : Source} {expr : Expr}
    (among : expr ∈ source.conditions) : sizeOf expr < sizeOf source := by
  obtain ⟨first, joins⟩ := source
  obtain ⟨⟨words, factor, condition⟩, listed, found⟩ := List.mem_filterMap.mp among
  have smaller := List.sizeOf_lt_of_mem listed
  cases condition <;> cases found
  simp only [mk.sizeOf_spec, Join.mk.sizeOf_spec, JoinCondition.on.sizeOf_spec] at smaller ⊢
  omega

namespace Place

/-- Expressions at a place. -/
def exprs (place : Place) (exprs : List Expr) : List (Place × Part) :=
  exprs.map fun expr => (place, .expr expr)

/-- Relations at a place. -/
def factors (place : Place) (factors : List Factor) : List (Place × Part) :=
  factors.map fun factor => (place, .factor factor)

/-- The parts of a part. The tested operand of a test other than a comparison, a list, and a test for
a missing value is passed over; elsewhere the extraction comes to all of them. -/
def parts (place : Place) : Part → List (Place × Part)
  | .expr (.binary _ left right) => place.exprs [left, right]
  | .expr (.unary _ operand) => place.exprs [operand]
  | .expr (.nested inner) => place.exprs [inner]
  | .expr (.cast _ operand _) => place.exprs [operand]
  | .expr (.inList operand _ items) => place.exprs (operand :: items)
  | .expr (.inQuery operand _ query) => place.passed.exprs [operand] ++ [(place, .query query)]
  | .expr (.anyOf _ _ operand right) => place.passed.exprs [operand] ++ place.exprs [right]
  | .expr (.between operand _ low high) => place.passed.exprs [operand] ++ place.exprs [low, high]
  | .expr (.like _ operand pattern _) => place.passed.exprs [operand] ++ place.exprs [pattern]
  | .expr (.isNull operand _) => place.exprs [operand]
  | .expr (.choice operand conditions results otherwise) =>
    place.exprs (operand.toList ++ (conditions ++ (results ++ otherwise.toList)))
  | .expr (.call _ (.list _ items _) _) => place.exprs (items.filterMap Argument.expr?)
  | .expr (.call _ (.query query) _) => [(place, .query query)]
  | .expr (.exists _ query) => [(place, .query query)]
  | .expr (.subquery query) => [(place, .query query)]
  | .expr (.tuple items) => place.exprs items
  | .expr _ => []
  | .query (.mk recursive definitions body _) =>
    let names := definitionNames definitions
    place.definitions recursive names [] definitions ++ [(place.below names names, .body body)]
  | .body (.select (.mk _ items _ sources condition groups _ having _)) =>
    place.factors (sources.flatMap Source.factors) ++
      place.exprs (sources.flatMap Source.conditions ++ (items.filterMap Item.expr? ++
        (condition.toList ++ (groups ++ having.toList))))
  | .body (.query query) => [(place, .query query)]
  | .body (.combination _ left right) => [(place, .body left), (place, .body right)]
  | .body (.values _ rows) => place.exprs rows.flatten
  | .body (.phrase _) => []
  | .factor (.derived _ query _) => [(place, .query query)]
  | .factor (.joined source _) => place.factors source.factors ++ place.exprs source.conditions
  | .factor _ => []

/-- The queries of definitions are smaller than the list of definitions. -/
theorem sizeOf_lt_of_mem_definitions {place : Place} {recursive : Bool} {names earlier : List String}
    {definitions : List Definition} {child : Place × Part}
    (among : child ∈ place.definitions recursive names earlier definitions) :
    sizeOf child.2 < sizeOf definitions := by
  induction definitions generalizing earlier with
  | nil => cases among
  | cons definition rest inductionHypothesis =>
      obtain ⟨name, lead, marker, query, tail⟩ := definition
      rcases List.mem_cons.mp among with rfl | later
      · simp only [Part.query.sizeOf_spec, List.cons.sizeOf_spec, Definition.mk.sizeOf_spec]
        omega
      · have smaller := inductionHypothesis later
        simp only [List.cons.sizeOf_spec]
        omega

theorem sizeOf_lt_of_mem_parts {place : Place} {part : Part} {child : Place × Part}
    (among : child ∈ place.parts part) : sizeOf child.2 < sizeOf part := by
  unfold parts at among
  split at among
  all_goals
    simp only [exprs, factors, List.map_cons, List.map_nil, List.mem_append, List.mem_cons,
      List.not_mem_nil, or_false, List.mem_map, List.mem_flatMap, List.mem_flatten,
      List.mem_filterMap, Option.mem_toList] at among
  all_goals
    grind [→ List.sizeOf_lt_of_mem, → Argument.sizeOf_lt_of_expr?, → Item.sizeOf_lt_of_expr?,
      → Source.sizeOf_lt_of_mem_factors, → Source.sizeOf_lt_of_mem_conditions,
      → sizeOf_lt_of_mem_definitions]

end Place

/-- A relation that is named at a place, with or without arguments that make it a call. -/
structure Mention where
  name : QualifiedName
  called : Bool
  place : Place
  deriving DecidableEq

namespace Mention

/-- The mention is a single name, and one of some names. -/
def isAmong (mention : Mention) (names : List String) : Bool :=
  match mention.name with
  | [single] => names.contains single.folded
  | _ => false

/-- The table of the schema that SQL lets a mention stand for. The rows of a call are no table, and
neither is a named query that is visible. -/
def table? (mention : Mention) : Option String :=
  if mention.called || mention.isAmong mention.place.visible then none else tableOf mention.name

/-- The table that SQL lets a mention stand for is that of its name. -/
theorem tableOf_of_table? (mention : Mention) {table : String}
    (refers : mention.table? = some table) : tableOf mention.name = some table := by
  rw [table?] at refers
  split at refers
  · cases refers
  · exact refers

/-- The table that the extraction takes a mention for. -/
def taken? (mention : Mention) : Option String :=
  if mention.place.reached && !mention.isAmong mention.place.around then tableOf mention.name
  else none

/-- A mention is taken for a table at a place that the extraction comes to, if no named query around
the place has its name. -/
theorem taken?_eq_some_iff (mention : Mention) (table : String) :
    mention.taken? = some table ↔ tableOf mention.name = some table ∧
      mention.place.reached = true ∧ mention.isAmong mention.place.around = false := by
  rw [taken?, Option.ite_none_right_eq_some, Bool.and_eq_true, Bool.not_eq_true', and_comm]

end Mention

/-- The relation that a part names itself. -/
def Part.mention? (place : Place) : Part → Option Mention
  | .factor (.table name extras _ _) =>
    some ⟨name, Text.startsWith ['('] extras.toList, place⟩
  | _ => none

/-- The relations that are named in a part, at any depth. -/
def Part.mentions (place : Place) (part : Part) : List Mention :=
  (part.mention? place).toList ++
    (place.parts part).attach.flatMap fun child => child.1.2.mentions child.1.1
termination_by sizeOf part
decreasing_by exact Place.sizeOf_lt_of_mem_parts child.2

/-- The relations that are named in a part are the one that it names itself, and those that its parts
name. -/
theorem Part.mentions_eq (place : Place) (part : Part) :
    part.mentions place = (part.mention? place).toList ++
      (place.parts part).flatMap fun child => child.2.mentions child.1 := by
  rw [mentions, List.flatMap_subtype (g := fun child => child.2.mentions child.1) fun _ _ => rfl,
    List.unattach_attach]

mutual

/-- The table that a source consists of, if it is just one table of the schema. -/
def Source.lone? : Source → Option String
  | .mk factor [] => factor.lone?
  | .mk _ (_ :: _) => none

/-- The table that a relation consists of, if it is just one table of the schema. -/
def Factor.lone? : Factor → Option String
  | .table name _ _ _ => tableOf name
  | .joined source _ => source.lone?
  | .derived _ _ _ => none
  | .phrase _ => none

end

/-- The parts of what is inserted at a place. The extraction does not come to named queries before
rows that are written out, and does not take them to be around the rows. -/
def Place.inserted (place : Place) : Option Query → List (Place × Part)
  | some (.mk recursive definitions (.values _ rows) _) =>
    let names := definitionNames definitions
    place.passed.definitions recursive names [] definitions ++
      (place.below names []).exprs rows.flatten
  | some query => [(place, .query query)]
  | none => []

namespace Statement

/-- The relation that a statement is made for by its name alone. -/
def target? : Statement → Option QualifiedName
  | .insert _ table _ _ _ _ => some table
  | .createTable _ _ table _ _ _ => some table
  | .createIndex _ _ _ _ table _ _ _ => some table
  | .alterTable _ table _ => some table
  | .query _ => none
  | .update _ _ _ _ _ _ => none
  | .other _ => none

/-- The outermost parts of a statement. The extraction comes to none of them when rows are inserted
into what is no table of the schema, or when what is updated is not one table alone. It does not come
to the further relations of an update. -/
def parts : Statement → List (Place × Part)
  | .query selection => [(.outermost true, .query selection)]
  | .insert _ table _ _ source _ =>
    (Place.outermost (tableOf table).isSome).inserted source
  | .update _ table assignments source condition _ =>
    let place := Place.outermost table.lone?.isSome
    place.factors table.factors ++ (place.exprs (assignments.map (·.value) ++ condition.toList) ++
      (place.passed.factors (source.toList.flatMap Source.factors) ++
        place.passed.exprs (table.conditions ++ source.toList.flatMap Source.conditions)))
  | _ => []

/-- The relations that are named in a statement, at any depth, but for its target. -/
def mentions (statement : Statement) : List Mention :=
  statement.parts.flatMap fun child => child.2.mentions child.1

end Statement

end Sql

end SchemaDrift
