import SchemaDrift.Proofs.Usage.References

/-
The tree of a statement keeps many constructs as text: the ordering and the limits of a query, its
windows and `DISTINCT ON`, the clauses of a call and the arguments of a relation, what is returned and
what is done on a conflict, and statements in place of queries. Whatever these texts say, it makes no
difference to the tables that are found.
-/

namespace SchemaDrift.Sql

mutual

/-- An expression with nothing written where the tree keeps text. -/
def Expr.bare : Expr → Expr
  | .binary operator left right => .binary operator left.bare right.bare
  | .unary operator operand => .unary operator operand.bare
  | .nested inner => .nested inner.bare
  | .cast form operand dataType => .cast form operand.bare dataType
  | .inList operand negated items => .inList operand.bare negated (bareExprs items)
  | .inQuery operand negated query => .inQuery operand.bare negated query.bare
  | .anyOf operator word operand right => .anyOf operator word operand.bare right.bare
  | .between operand negated low high => .between operand.bare negated low.bare high.bare
  | .like words operand pattern escape => .like words operand.bare pattern.bare escape
  | .isNull operand negated => .isNull operand.bare negated
  | .choice operand conditions results otherwise =>
    .choice (bareOption operand) (bareExprs conditions) (bareExprs results) (bareOption otherwise)
  | .call name arguments _ => .call name arguments.bare ""
  | .exists negated query => .exists negated query.bare
  | .subquery query => .subquery query.bare
  | .tuple items => .tuple (bareExprs items)
  | .phrase _ => .phrase ""
  | .column name => .column name
  | .number text long => .number text long
  | .text form value => .text form value
  | .boolean value => .boolean value
  | .null => .null
  | .placeholder text => .placeholder text
  | .typedText dataType value => .typedText dataType value

def bareOption : Option Expr → Option Expr
  | none => none
  | some expr => some expr.bare

def bareExprs : List Expr → List Expr
  | [] => []
  | expr :: exprs => expr.bare :: bareExprs exprs

def Arguments.bare : Arguments → Arguments
  | .absent => .absent
  | .query query => .query query.bare
  | .list _ items _ => .list "" (bareArguments items) ""

def bareArguments : List Argument → List Argument
  | [] => []
  | argument :: arguments => argument.bare :: bareArguments arguments

def Argument.bare : Argument → Argument
  | .value expr => .value expr.bare
  | .named name operator expr => .named name operator expr.bare
  | .wildcard _ => .wildcard ""

def Query.bare : Query → Query
  | .mk recursive definitions body _ => .mk recursive (bareDefinitions definitions) body.bare ""

def bareDefinitions : List Definition → List Definition
  | [] => []
  | definition :: definitions => definition.bare :: bareDefinitions definitions

def Definition.bare : Definition → Definition
  | .mk name _ _ query _ => .mk name "" "" query.bare ""

def Body.bare : Body → Body
  | .select select => .select select.bare
  | .query query => .query query.bare
  | .combination words left right => .combination words left.bare right.bare
  | .values _ rows => .values "" (bareRows rows)
  | .phrase _ => .phrase ""

def bareRows : List (List Expr) → List (List Expr)
  | [] => []
  | row :: rows => bareExprs row :: bareRows rows

def Select.bare : Select → Select
  | .mk _ items _ sources condition groups _ having _ =>
    .mk "" (bareItems items) "" (bareSources sources) (bareOption condition) (bareExprs groups) ""
      (bareOption having) ""

def bareItems : List Item → List Item
  | [] => []
  | item :: items => item.bare :: bareItems items

def Item.bare : Item → Item
  | .value expr => .value expr.bare
  | .aliased expr label => .aliased expr.bare label
  | .wildcard _ => .wildcard ""

def bareSources : List Source → List Source
  | [] => []
  | source :: sources => source.bare :: bareSources sources

def Source.bare : Source → Source
  | .mk factor joins => .mk factor.bare (bareJoins joins)

def bareJoins : List Join → List Join
  | [] => []
  | join :: joins => join.bare :: bareJoins joins

def Join.bare : Join → Join
  | .mk words factor condition => .mk words factor.bare condition.bare

def JoinCondition.bare : JoinCondition → JoinCondition
  | .on expr => .on expr.bare
  | .using names => .using names
  | .absent => .absent

/-- A relation without its text; only that it is a call remains. -/
def Factor.bare : Factor → Factor
  | .table name extras label _ =>
    .table name (if Text.startsWith ['('] extras.toList then "(" else "") label ""
  | .derived lateral query label => .derived lateral query.bare label
  | .joined source label => .joined source.bare label
  | .phrase _ => .phrase ""

end

/-- A part with nothing written where the tree keeps text. -/
def Part.bare : Part → Part
  | .expr inner => .expr inner.bare
  | .query inner => .query inner.bare
  | .body inner => .body inner.bare
  | .factor inner => .factor inner.bare

/-- A statement with nothing written where the tree keeps text. -/
def Statement.bare : Statement → Statement
  | .query inner => .query inner.bare
  | .insert _ table label columns source _ =>
    .insert "" table label columns (source.map Query.bare) ""
  | .update _ table assignments source condition _ =>
    .update "" table.bare (assignments.map fun assignment =>
      { assignment with value := assignment.value.bare }) (source.map Source.bare)
      (condition.map Expr.bare) ""
  | .createTable _ guarded table columns constraints _ =>
    .createTable "" guarded table columns constraints ""
  | .createIndex unique concurrent guarded name table method columns _ =>
    .createIndex unique concurrent guarded name table method columns ""
  | .alterTable _ table changes => .alterTable "" table changes
  | .other _ => .other ""

/-- Two statements differ in nothing but what the tree keeps as text. -/
def Statement.Alike (statement other : Statement) : Prop := statement.bare = other.bare

theorem bareExprs_eq_map (exprs : List Expr) : bareExprs exprs = exprs.map Expr.bare := by
  induction exprs with
  | nil => rfl
  | cons expr exprs inductionHypothesis => rw [bareExprs, inductionHypothesis, List.map_cons]

theorem bareSources_eq_map (sources : List Source) :
    bareSources sources = sources.map Source.bare := by
  induction sources with
  | nil => rfl
  | cons source sources inductionHypothesis => rw [bareSources, inductionHypothesis, List.map_cons]

theorem flatten_bareRows (rows : List (List Expr)) :
    (bareRows rows).flatten = rows.flatten.map Expr.bare := by
  induction rows with
  | nil => rfl
  | cons row rows inductionHypothesis =>
      rw [bareRows, List.flatten_cons, bareExprs_eq_map, inductionHypothesis, List.flatten_cons,
        List.map_append]

theorem filterMap_bareArguments (arguments : List Argument) :
    (bareArguments arguments).filterMap Argument.expr? =
      (arguments.filterMap Argument.expr?).map Expr.bare := by
  induction arguments with
  | nil => rfl
  | cons argument arguments inductionHypothesis =>
      cases argument <;>
        simp [bareArguments, Argument.bare, List.filterMap_cons, Argument.expr?, inductionHypothesis]

theorem filterMap_bareItems (items : List Item) :
    (bareItems items).filterMap Item.expr? = (items.filterMap Item.expr?).map Expr.bare := by
  induction items with
  | nil => rfl
  | cons item items inductionHypothesis =>
      cases item <;> simp [bareItems, Item.bare, List.filterMap_cons, Item.expr?, inductionHypothesis]

theorem Source.factors_bare (source : Source) :
    source.bare.factors = source.factors.map Factor.bare := by
  obtain ⟨factor, joins⟩ := source
  have joined : (bareJoins joins).map Join.factor = (joins.map Join.factor).map Factor.bare := by
    induction joins with
    | nil => rfl
    | cons join joins inductionHypothesis =>
        obtain ⟨words, factor, condition⟩ := join
        simp [bareJoins, Join.bare, Join.factor, inductionHypothesis]
  rw [bare, factors, joined, factors, List.map_cons]

theorem Source.conditions_bare (source : Source) :
    source.bare.conditions = source.conditions.map Expr.bare := by
  obtain ⟨factor, joins⟩ := source
  rw [bare, conditions, conditions]
  induction joins with
  | nil => rfl
  | cons join joins inductionHypothesis =>
      obtain ⟨words, factor, condition⟩ := join
      cases condition <;>
        simp [bareJoins, Join.bare, JoinCondition.bare, List.filterMap_cons, Join.condition?,
          inductionHypothesis]

theorem definitionNames_bare (definitions : List Definition) :
    definitionNames (bareDefinitions definitions) = definitionNames definitions := by
  induction definitions with
  | nil => rfl
  | cons definition definitions inductionHypothesis =>
      obtain ⟨name, lead, marker, query, tail⟩ := definition
      simp [bareDefinitions, Definition.bare, definitionNames, inductionHypothesis]

theorem flatMap_factors_bare (sources : List Source) :
    (bareSources sources).flatMap Source.factors =
      (sources.flatMap Source.factors).map Factor.bare := by
  rw [bareSources_eq_map, List.flatMap_map, List.map_flatMap]
  exact congrArg (sources.flatMap ·) (funext Source.factors_bare)

theorem flatMap_conditions_bare (sources : List Source) :
    (bareSources sources).flatMap Source.conditions =
      (sources.flatMap Source.conditions).map Expr.bare := by
  rw [bareSources_eq_map, List.flatMap_map, List.map_flatMap]
  exact congrArg (sources.flatMap ·) (funext Source.conditions_bare)

theorem toList_bareOption (expr : Option Expr) :
    (bareOption expr).toList = expr.toList.map Expr.bare := by
  cases expr <;> rfl

/-- Parts with nothing written where the tree keeps text, each at its place. -/
def bareAll (parts : List (Place × Part)) : List (Place × Part) :=
  parts.map fun child => (child.1, child.2.bare)

theorem bareAll_append (first second : List (Place × Part)) :
    bareAll (first ++ second) = bareAll first ++ bareAll second := List.map_append

namespace Place

variable (place : Place)

theorem exprs_bare (exprs : List Expr) :
    place.exprs (exprs.map Expr.bare) = bareAll (place.exprs exprs) := by
  simp [Place.exprs, bareAll, Part.bare]

theorem factors_bare (factors : List Factor) :
    place.factors (factors.map Factor.bare) = bareAll (place.factors factors) := by
  simp [Place.factors, bareAll, Part.bare]

theorem definitions_bare (recursive : Bool) (names earlier : List String)
    (definitions : List Definition) :
    place.definitions recursive names earlier (bareDefinitions definitions) =
      bareAll (place.definitions recursive names earlier definitions) := by
  induction definitions generalizing earlier with
  | nil => rfl
  | cons definition definitions inductionHypothesis =>
      obtain ⟨name, lead, marker, query, tail⟩ := definition
      rw [bareDefinitions, Definition.bare, Place.definitions, inductionHypothesis]
      rfl

/-- The parts of an expression without text are its parts without text. -/
theorem parts_bare_expr (expr : Expr) :
    place.parts (.expr expr.bare) = bareAll (place.parts (.expr expr)) := by
  cases expr with
  | inList operand negated items =>
      rw [Expr.bare, parts, bareExprs_eq_map]
      exact place.exprs_bare (operand :: items)
  | tuple items =>
      rw [Expr.bare, parts, bareExprs_eq_map]
      exact place.exprs_bare items
  | choice operand conditions results otherwise =>
      rw [Expr.bare, parts, toList_bareOption, toList_bareOption, bareExprs_eq_map,
        bareExprs_eq_map, ← List.map_append, ← List.map_append, ← List.map_append]
      exact place.exprs_bare _
  | call name arguments tail =>
      cases arguments with
      | list lead items clauses =>
          rw [Expr.bare, Arguments.bare, parts, filterMap_bareArguments]
          exact place.exprs_bare _
      | _ => rfl
  | _ => rfl

/-- The parts of a part without text are its parts without text. -/
theorem parts_bare (part : Part) : place.parts part.bare = bareAll (place.parts part) := by
  cases part with
  | expr expr => exact place.parts_bare_expr expr
  | query query =>
      obtain ⟨recursive, definitions, body, tail⟩ := query
      rw [Part.bare, Query.bare, parts, definitionNames_bare, definitions_bare, parts,
        bareAll_append]
      rfl
  | body body =>
      cases body with
      | select select =>
          obtain ⟨lead, items, target, sources, condition, groups, groupWord, having, tail⟩ := select
          rw [Part.bare, Body.bare, Select.bare, parts, flatMap_factors_bare,
            flatMap_conditions_bare, filterMap_bareItems, toList_bareOption, bareExprs_eq_map,
            toList_bareOption, ← List.map_append, ← List.map_append, ← List.map_append,
            ← List.map_append, factors_bare, exprs_bare, ← bareAll_append]
          rfl
      | values lead rows =>
          rw [Part.bare, Body.bare, parts, flatten_bareRows]
          exact place.exprs_bare _
      | _ => rfl
  | factor factor =>
      cases factor with
      | joined source label =>
          rw [Part.bare, Factor.bare, parts, Source.factors_bare, Source.conditions_bare,
            factors_bare, exprs_bare, ← bareAll_append]
          rfl
      | _ => rfl

theorem inserted_bare (source : Option Query) :
    place.inserted (source.map Query.bare) = bareAll (place.inserted source) := by
  cases source with
  | none => rfl
  | some query =>
      obtain ⟨recursive, definitions, body, tail⟩ := query
      cases body with
      | values lead rows =>
          rw [Option.map_some, Query.bare, Body.bare, inserted, definitionNames_bare,
            definitions_bare, flatten_bareRows, exprs_bare, ← bareAll_append]
          rfl
      | _ => rfl

end Place

/-- A part without text names the relation that it names itself. -/
theorem Part.mention?_bare (place : Place) (part : Part) :
    part.bare.mention? place = part.mention? place := by
  cases part with
  | factor factor =>
      cases factor with
      | table name extras label hints =>
          have call : Text.startsWith ['('] (if Text.startsWith ['('] extras.toList then "("
              else "").toList = Text.startsWith ['('] extras.toList := by
            cases Text.startsWith ['('] extras.toList <;> rfl
          rw [bare, Factor.bare, mention?, call]
          rfl
      | _ => rfl
  | _ => rfl

/-- A part without text names the relations that it names with it. -/
theorem Part.mentions_bare (place : Place) (part : Part) :
    part.bare.mentions place = part.mentions place := by
  induction place, part using mentions.induct with
  | case1 place part inductionHypothesis =>
      have inner : (place.parts part).map (fun child => child.2.bare.mentions child.1) =
          (place.parts part).map fun child => child.2.mentions child.1 :=
        List.map_congr_left fun child among => inductionHypothesis ⟨child, among⟩
      rw [mentions_eq, mentions_eq, mention?_bare, place.parts_bare, bareAll, List.flatMap_map,
        List.flatMap_def, inner, ← List.flatMap_def]

mutual

theorem Factor.lone?_bare : ∀ factor : Factor, factor.bare.lone? = factor.lone?
  | .table _ _ _ _ => rfl
  | .derived _ _ _ => rfl
  | .joined source _ => source.lone?_bare
  | .phrase _ => rfl

theorem Source.lone?_bare : ∀ source : Source, source.bare.lone? = source.lone?
  | .mk factor [] => factor.lone?_bare
  | .mk _ (_ :: _) => rfl

end

namespace Statement

/-- A statement without text is made for the relation that it is made for with it. -/
theorem target?_bare (statement : Statement) : statement.bare.target? = statement.target? := by
  cases statement <;> rfl

/-- A statement without text names the relations that it names with it. -/
theorem mentions_bare (statement : Statement) : statement.bare.mentions = statement.mentions := by
  have parts : statement.bare.parts = bareAll statement.parts := by
    cases statement with
    | insert lead table label columns source tail => exact Place.inserted_bare _ source
    | update lead table assignments source condition returning =>
        have values : (assignments.map fun assignment : Assignment =>
            { assignment with value := assignment.value.bare }).map (·.value) =
              (assignments.map (·.value)).map Expr.bare := by
          rw [List.map_map, List.map_map]
          rfl
        have others : (source.map Source.bare).toList = bareSources source.toList := by
          cases source <;> rfl
        rw [bare, Statement.parts, Source.lone?_bare, Source.factors_bare, Source.conditions_bare,
          values, Option.toList_map, others, flatMap_factors_bare, flatMap_conditions_bare,
          ← List.map_append, ← List.map_append]
        simp only [Place.factors_bare, Place.exprs_bare, ← bareAll_append]
        rfl
    | _ => rfl
  rw [mentions, mentions, parts, bareAll, List.flatMap_map]
  exact congrArg (statement.parts.flatMap ·) (funext fun child => child.2.mentions_bare child.1)

/-- Statements that differ only in what the tree keeps as text are made for the same relation. -/
theorem Alike.target? {statement other : Statement} (alike : statement.Alike other) :
    other.target? = statement.target? := by
  rw [← other.target?_bare, ← alike, target?_bare]

/-- Statements that differ only in what the tree keeps as text name the same relations. -/
theorem Alike.mentions {statement other : Statement} (alike : statement.Alike other) :
    other.mentions = statement.mentions := by
  rw [← other.mentions_bare, ← alike, mentions_bare]

end Statement

end SchemaDrift.Sql
