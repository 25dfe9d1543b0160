import SchemaDrift.Proofs.Usage.Sites

/-
This file holds three invariants of the sites in a statement. The relations that are bound at a site
are the start of its clause. They are all of them, or several, unless the site is exposed. The named
queries that are visible where these relations stand are around them, so that what the extraction takes
for a table is one for SQL unless it is a call; rows that are inserted behind named queries are the
exception.
-/

namespace SchemaDrift

namespace Sql

/-- What holds of the parts to which the extraction comes holds of the references among them. -/
theorem Part.holds_of_mem_references (Holds : Site → Part → Prop)
    (step : ∀ site part, Holds site part → ∀ child ∈ site.parts part,
      child.1.place.reached = true → Holds child.1 child.2)
    {site : Site} {part : Part} (holds : site.place.reached = true → Holds site part)
    {reference : Reference} (among : reference ∈ part.references site)
    (reached : reference.site.place.reached = true) :
    Holds reference.site (.expr (.column reference.name)) := by
  induction site, part using references.induct with
  | case1 site part inductionHypothesis =>
      rw [references_eq, List.mem_append, List.mem_flatMap, Option.mem_toList] at among
      rcases among with own | ⟨child, listed, among⟩
      · unfold reference? at own
        split at own
        · cases own
          exact holds reached
        · cases own
      · refine inductionHypothesis ⟨child, listed⟩ (fun comes => ?_) among
        exact step site part (holds (Site.reached_of_mem_parts listed comes)) child listed comes

/-- The relations that a part brings in itself. -/
def Part.occupants (place : Place) : Part → List Occupant
  | .factor relation => relation.occupants place
  | _ => []

mutual

theorem Factor.one_le_occupants (place : Place) :
    ∀ factor : Factor, 1 ≤ (factor.occupants place).length
  | .table _ _ _ _ => Nat.le_refl 1
  | .derived _ _ _ => Nat.le_refl 1
  | .joined source _ => source.one_le_occupants place
  | .phrase _ => Nat.le_refl 1

theorem Source.one_le_occupants (place : Place) :
    ∀ source : Source, 1 ≤ (source.occupants place).length
  | .mk factor joins => by
      rw [Source.occupants, List.length_append]
      exact Nat.le_add_right_of_le (factor.one_le_occupants place)

end

/-- Factors bring in at least as many relations as they are. -/
theorem length_le_occupants (place : Place) (factors : List Factor) :
    factors.length ≤ (factors.flatMap (Factor.occupants place)).length := by
  induction factors with
  | nil => exact Nat.le_refl 0
  | cons factor rest inductionHypothesis =>
      have one := factor.one_le_occupants place
      rw [List.flatMap_cons, List.length_append, List.length_cons]
      omega

/-- A source with a condition consists of several factors. -/
theorem Source.two_le_factors {source : Source} {condition : Expr}
    (among : condition ∈ source.conditions) : 2 ≤ source.factors.length := by
  obtain ⟨factor, joins⟩ := source
  cases joins with
  | nil => cases among
  | cons join joins => simp [factors]

/-- Factors stand in a part from a site on: they are all of a new clause, or what the part brings in. -/
def Site.Opens (site : Site) (part : Part) (start : Site) (factors : List Factor) : Prop :=
  start = site.selecting factors ∨
    start = site ∧ part.occupants site.place = factors.flatMap (Factor.occupants site.place)

/-- What a part of a part to which the extraction comes can be: no factor and at the same site, or
below named queries; the query of a relation; a factor of those that stand in the part; or an
expression behind all factors of a selection, or behind several that are joined in parentheses. -/
inductive Site.Step (site : Site) (part : Part) : Site × Part → Prop
  | inside {inner : Part} (own : ∀ place, part.occupants place = [])
      (plain : ∀ place, inner.occupants place = []) : Step site part (site, inner)
  | below {inner : Part} {visible names : List String} (own : ∀ place, part.occupants place = [])
      (known : visible ⊆ names) (plain : ∀ place, inner.occupants place = []) :
      Step site part (site.below visible names, inner)
  | derived (query : Query) : Step site part (site.derived, .query query)
  | among {start : Site} {factors : List Factor} (opens : site.Opens part start factors)
      {child : Site × Part} (listed : child ∈ start.factors factors) : Step site part child
  | selected (factors : List Factor) (expr : Expr) :
      Step site part ((site.selecting factors).bindingAll factors, .expr expr)
  | joined {factors : List Factor}
      (same : part.occupants site.place = factors.flatMap (Factor.occupants site.place))
      (several : 2 ≤ factors.length) (expr : Expr) :
      Step site part (site.bindingAll factors, .expr expr)

/-- The query of a definition sees named queries of its list. -/
theorem Place.below_of_mem_definitions {place : Place} {recursive : Bool}
    {names earlier : List String} {definitions : List Definition} {child : Place × Part}
    (among : child ∈ place.definitions recursive names earlier definitions)
    (known : earlier ++ definitionNames definitions ⊆ names) :
    ∃ visible, visible ⊆ names ∧ child.1 = place.below visible names ∧
      ∃ query, child.2 = .query query := by
  induction definitions generalizing earlier with
  | nil => cases among
  | cons definition rest inductionHypothesis =>
      obtain ⟨name, lead, marker, query, tail⟩ := definition
      rcases List.mem_cons.mp among with rfl | later
      · refine ⟨_, ?_, rfl, query, rfl⟩
        split
        · exact fun _ => id
        · exact List.Subset.trans (List.subset_append_left _ _) known
      · refine inductionHypothesis later ?_
        rwa [List.append_assoc]

/-- The parts of a part to which the extraction comes are steps into it. -/
theorem Site.step_of_mem_parts {site : Site} {part : Part} {child : Site × Part}
    (among : child ∈ site.parts part) (reached : child.1.place.reached = true) :
    site.Step part child := by
  cases part with
  | expr expr =>
      unfold parts at among
      split at among
      all_goals
        simp only [exprs, List.map_cons, List.map_nil, List.mem_append, List.mem_cons,
          List.not_mem_nil, or_false, List.mem_map] at among
      all_goals grind [Step.inside, Part.occupants, → testing_of_reached]
  | query query =>
      obtain ⟨recursive, definitions, body, tail⟩ := query
      rcases List.mem_append.mp among with named | outer
      · obtain ⟨other, listed, rfl⟩ := List.mem_map.mp named
        obtain ⟨visible, known, below, query, inner⟩ :=
          Place.below_of_mem_definitions listed (List.nil_append _ ▸ fun _ => id)
        rw [below, inner]
        exact .below (fun _ => rfl) known fun _ => rfl
      · rw [List.mem_singleton.mp outer]
        exact .below (fun _ => rfl) (fun _ => id) fun _ => rfl
  | body body =>
      cases body with
      | select select =>
          obtain ⟨lead, items, target, sources, condition, groups, groupWord, having, tail⟩ := select
          rcases List.mem_append.mp among with listed | later
          · exact .among (.inl rfl) listed
          · obtain ⟨expr, _, rfl⟩ := List.mem_map.mp later
            exact .selected _ expr
      | phrase text => cases among
      | query | combination | values =>
          simp only [parts, exprs, List.mem_cons, List.not_mem_nil, or_false, List.mem_map] at among
          grind [Step.inside, Part.occupants]
  | factor factor =>
      cases factor with
      | joined source label =>
          have same : (Part.factor (.joined source label)).occupants site.place =
              source.factors.flatMap (Factor.occupants site.place) :=
            source.occupants_eq site.place
          rcases List.mem_append.mp among with listed | later
          · exact .among (.inr ⟨rfl, same⟩) listed
          · obtain ⟨expr, condition, rfl⟩ := List.mem_map.mp later
            exact .joined same (Source.two_le_factors condition) expr
      | derived lateral query label =>
          rw [List.mem_singleton.mp among]
          exact .derived query
      | table | phrase => cases among

/-- What is bound at a part, and what the part brings in, is the start of the clause. -/
def Part.Ordered (site : Site) (part : Part) : Prop :=
  site.bound ++ part.occupants site.place <+: site.clause

namespace Site

/-- Behind factors their relations are bound. -/
theorem bound_bindingAll (site : Site) (factors : List Factor) :
    (site.bindingAll factors).bound =
      site.bound ++ factors.flatMap (Factor.occupants site.place) := by
  induction factors generalizing site with
  | nil => exact (List.append_nil _).symm
  | cons factor rest inductionHypothesis =>
      rw [List.flatMap_cons, ← List.append_assoc]
      exact inductionHypothesis (site.binding factor)

/-- Behind factors the clause is the same. -/
theorem clause_bindingAll (site : Site) (factors : List Factor) :
    (site.bindingAll factors).clause = site.clause := by
  induction factors generalizing site with
  | nil => rfl
  | cons factor rest inductionHypothesis => exact inductionHypothesis (site.binding factor)

/-- A site behind factors is as exposed as the one before them. -/
theorem exposed_bindingAll (site : Site) (factors : List Factor) :
    (site.bindingAll factors).exposed = site.exposed := by
  induction factors generalizing site with
  | nil => rfl
  | cons factor rest inductionHypothesis => exact inductionHypothesis (site.binding factor)

/-- Factors that follow each other are factors. -/
theorem exists_factor_of_mem_factors {site : Site} {factors : List Factor} {child : Site × Part}
    (among : child ∈ site.factors factors) : ∃ factor, child.2 = .factor factor := by
  induction factors generalizing site with
  | nil => cases among
  | cons factor rest inductionHypothesis =>
      rcases List.mem_cons.mp among with rfl | later
      · exact ⟨factor, rfl⟩
      · exact inductionHypothesis later

/-- Factors that are the start of the clause from a site on are so one after the other. -/
theorem ordered_of_mem_factors {site : Site} {factors : List Factor}
    (within : site.bound ++ factors.flatMap (Factor.occupants site.place) <+: site.clause) :
    ∀ child ∈ site.factors factors, child.2.Ordered child.1 := by
  induction factors generalizing site with
  | nil => exact nofun
  | cons factor rest inductionHypothesis =>
      rw [List.flatMap_cons, ← List.append_assoc] at within
      rw [factors, List.forall_mem_cons]
      exact ⟨(List.prefix_append _ _).trans within, inductionHypothesis within⟩

/-- What is bound is the start of the clause behind factors of the clause. -/
theorem ordered_bindingAll {site : Site} {factors : List Factor}
    (within : site.bound ++ factors.flatMap (Factor.occupants site.place) <+: site.clause)
    (expr : Expr) : Part.Ordered (site.bindingAll factors) (.expr expr) := by
  show (site.bindingAll factors).bound ++ [] <+: _
  rw [bound_bindingAll, clause_bindingAll, List.append_nil]
  exact within

end Site

/-- What is bound stays the start of the clause in the parts of a part. -/
theorem Part.Ordered.step {site : Site} {part : Part} (ordered : part.Ordered site)
    {child : Site × Part} (step : site.Step part child) : child.2.Ordered child.1 := by
  have start : site.bound ++ [] <+: site.clause := by
    rw [List.append_nil]
    exact (List.prefix_append _ _).trans ordered
  cases step with
  | inside own plain =>
      rw [Part.Ordered, plain]
      exact start
  | below own known plain =>
      rw [Part.Ordered, plain]
      exact start
  | derived query => exact start
  | among opens listed =>
      rcases opens with rfl | ⟨rfl, same⟩
      · exact Site.ordered_of_mem_factors List.prefix_rfl _ listed
      · exact Site.ordered_of_mem_factors (same ▸ ordered) _ listed
  | selected factors expr => exact Site.ordered_bindingAll List.prefix_rfl expr
  | joined same several expr => exact Site.ordered_bindingAll (same ▸ ordered) expr

/-- At a part that is no factor and not exposed, all relations of the clause are bound, or several. -/
def Part.Settled (site : Site) (part : Part) : Prop :=
  site.exposed = false → (∀ place, part.occupants place = []) →
    site.bound = site.clause ∨ 2 ≤ site.bound.length

/-- There are no factors among the parts for which all relations of the clause are to be bound. -/
theorem Site.settled_of_mem_factors {site : Site} {factors : List Factor} {child : Site × Part}
    (among : child ∈ site.factors factors) : child.2.Settled child.1 := by
  intro _ plain
  obtain ⟨factor, same⟩ := exists_factor_of_mem_factors among
  have some := factor.one_le_occupants site.place
  have none : factor.occupants site.place = [] := by
    have plain := plain site.place
    rwa [same] at plain
  rw [none] at some
  cases some

/-- Behind all factors of a clause its relations are bound. -/
theorem Site.settled_bindingAll {site : Site} {factors : List Factor}
    (whole : site.bound ++ factors.flatMap (Factor.occupants site.place) = site.clause)
    (expr : Expr) : Part.Settled (site.bindingAll factors) (.expr expr) := by
  intro _ _
  rw [bound_bindingAll, clause_bindingAll]
  exact .inl whole

/-- The relations of the clause stay bound in the parts of a part. -/
theorem Part.Settled.step {site : Site} {part : Part} (settled : part.Settled site)
    {child : Site × Part} (step : site.Step part child) : child.2.Settled child.1 := by
  cases step with
  | inside own plain => exact fun hidden _ => settled hidden own
  | below own known plain => exact fun hidden _ => settled hidden own
  | derived query => exact nofun
  | among opens listed => exact Site.settled_of_mem_factors listed
  | selected factors expr => exact Site.settled_bindingAll rfl expr
  | @joined factors same several expr =>
      intro _ _
      have many := length_le_occupants site.place factors
      rw [Site.bound_bindingAll, List.length_append]
      omega

/-- Every named query that is visible at a place is around it. -/
def Place.Covered (place : Place) : Prop := place.visible ⊆ place.around

/-- Every named query that is visible at a site, or where a relation stands that is bound there, is
around it. -/
structure Site.Covered (site : Site) : Prop where
  place : site.place.Covered
  mentions : ∀ occupant ∈ site.bound, ∀ mention ∈ occupant.mention?, mention.place.Covered

mutual

/-- The mentions that a factor brings in stand at its place. -/
theorem Factor.place_of_mem_occupants {place : Place} {occupant : Occupant} {mention : Mention}
    (known : occupant.mention? = some mention) :
    ∀ factor : Factor, occupant ∈ factor.occupants place → mention.place = place
  | .table name extras label hints, among => by
      rw [List.mem_singleton.mp among] at known
      exact Option.some.inj known ▸ rfl
  | .derived lateral query label, among => by
      rw [List.mem_singleton.mp among] at known
      cases known
  | .joined source label, among => source.place_of_mem_occupants known among
  | .phrase text, among => by
      rw [List.mem_singleton.mp among] at known
      cases known

/-- The mentions that a source brings in stand at its place. -/
theorem Source.place_of_mem_occupants {place : Place} {occupant : Occupant} {mention : Mention}
    (known : occupant.mention? = some mention) :
    ∀ source : Source, occupant ∈ source.occupants place → mention.place = place
  | .mk factor joins, among => (List.mem_append.mp among).elim
      (factor.place_of_mem_occupants known) (place_of_mem_occupantsOf known joins)

/-- The mentions that joins bring in stand at their place. -/
theorem place_of_mem_occupantsOf {place : Place} {occupant : Occupant} {mention : Mention}
    (known : occupant.mention? = some mention) :
    ∀ joins : List Join, occupant ∈ occupantsOf place joins → mention.place = place
  | [], among => nomatch among
  | .mk _ factor _ :: joins, among => (List.mem_append.mp among).elim
      (factor.place_of_mem_occupants known) (place_of_mem_occupantsOf known joins)

end

namespace Site.Covered

variable {site : Site}

/-- A clause opens without relations. -/
theorem opening (covered : site.Covered) (clause : List Occupant) (exposed : Bool) :
    (site.opening clause exposed).Covered :=
  ⟨covered.place, fun _ => nofun⟩

/-- The relations of a factor stand where it stands. -/
theorem binding (covered : site.Covered) (factor : Factor) : (site.binding factor).Covered := by
  refine ⟨covered.place, fun occupant among mention known => ?_⟩
  rcases List.mem_append.mp among with before | own
  · exact covered.mentions occupant before mention known
  · rw [factor.place_of_mem_occupants known own]
    exact covered.place

/-- The relations of factors that follow each other stand where they stand. -/
theorem bindingAll (covered : site.Covered) (factors : List Factor) :
    (site.bindingAll factors).Covered := by
  induction factors generalizing site with
  | nil => exact covered
  | cons factor rest inductionHypothesis => exact inductionHypothesis (covered.binding factor)

/-- Factors that follow each other stand where the first stands. -/
theorem factors (covered : site.Covered) {factors : List Factor} :
    ∀ child ∈ site.factors factors, child.1.Covered := by
  induction factors generalizing site with
  | nil => exact nofun
  | cons factor rest inductionHypothesis =>
      rw [Site.factors, List.forall_mem_cons]
      exact ⟨covered, inductionHypothesis (covered.binding factor)⟩

/-- Named queries of which some are visible are around what is below them. -/
theorem below (covered : site.Covered) {visible names : List String} (known : visible ⊆ names) :
    (site.below visible names).Covered :=
  ⟨List.append_subset.mpr ⟨List.Subset.trans known (List.subset_append_left _ _),
    List.Subset.trans covered.place (List.subset_append_right _ _)⟩, covered.mentions⟩

/-- Named queries that are visible stay around in the parts of a part. -/
theorem step (covered : site.Covered) {part : Part} {child : Site × Part}
    (step : site.Step part child) : child.1.Covered := by
  cases step with
  | inside => exact covered
  | below own known => exact covered.below known
  | derived => exact ⟨covered.place, covered.mentions⟩
  | among opens listed =>
      rcases opens with rfl | ⟨rfl, _⟩
      · exact (covered.opening _ _).factors _ listed
      · exact covered.factors _ listed
  | selected factors => exact (covered.opening _ _).bindingAll factors
  | joined => exact covered.bindingAll _

end Site.Covered

/-- What the extraction takes for a table is one for SQL, if it is no call and all named queries that
are visible are around it. -/
theorem Mention.table?_of_taken? {mention : Mention} {table : String}
    (taken : mention.taken? = some table) (plain : mention.called = false)
    (covered : mention.place.Covered) : mention.table? = some table := by
  obtain ⟨named, _, free⟩ := (mention.taken?_eq_some_iff table).mp taken
  have unseen : mention.isAmong mention.place.visible = false := by
    unfold isAmong at free ⊢
    split
    · rw [‹mention.name = _›] at free
      simp only [List.contains_eq_mem, decide_eq_false_iff_not] at free ⊢
      exact fun seen => free (covered seen)
    · rfl
  rw [table?, plain, unseen]
  exact named

/-- The extraction comes to the query or to the rows that are inserted. -/
theorem Site.of_mem_inserted {site : Site} {source : Option Query} {child : Site × Part}
    (among : child ∈ site.inserted source) (reached : child.1.place.reached = true) :
    (∃ query, child = (site, .query query)) ∨ ∃ recursive definitions lead rows tail expr,
      source = some (.mk recursive definitions (.values lead rows) tail) ∧
        child = (site.below (definitionNames definitions) [], .expr expr) := by
  unfold inserted at among
  split at among
  next recursive definitions lead rows tail =>
    rcases List.mem_append.mp among with named | listed
    · rw [reached_of_mem_definitions named] at reached
      cases reached
    · obtain ⟨expr, _, rfl⟩ := List.mem_map.mp listed
      exact .inr ⟨_, _, _, _, _, expr, rfl, rfl⟩
  next query _ =>
    rw [List.mem_singleton.mp among]
    exact .inl ⟨query, rfl⟩
  next => cases among

namespace Statement

variable {statement : Statement}

/-- What holds of the outermost parts and of parts in them holds of the references of a statement. -/
theorem holds_of_mem_references (Holds : Site → Part → Prop)
    (step : ∀ site part, Holds site part → ∀ child, site.Step part child → Holds child.1 child.2)
    (start : ∀ child ∈ statement.sites, child.1.place.reached = true → Holds child.1 child.2)
    {reference : Reference} (among : reference ∈ statement.references)
    (reached : reference.site.place.reached = true) :
    Holds reference.site (.expr (.column reference.name)) := by
  obtain ⟨child, listed, among⟩ := List.mem_flatMap.mp among
  refine Part.holds_of_mem_references Holds (fun site part holds child listed comes => ?_)
    (start child listed) among reached
  exact step site part holds child (Site.step_of_mem_parts listed comes)

/-- The extraction comes to what an update names before its further relations. -/
theorem of_mem_sites_update {lead : String} {target : Source} {assignments : List Assignment}
    {source : Option Source} {condition : Option Expr} {returning : String} {child : Site × Part}
    (among : child ∈ (update lead target assignments source condition returning).sites)
    (reached : child.1.place.reached = true) :
    let opened := (Site.outermost target.lone?.isSome).updating target.factors
      (source.toList.flatMap Source.factors)
    child ∈ opened.factors target.factors ∨
      ∃ expr, child = (opened.bindingAll target.factors, .expr expr) := by
  simp only [sites, List.mem_append] at among
  rcases among with updated | used | further | joined
  · exact .inl updated
  · obtain ⟨expr, _, rfl⟩ := List.mem_map.mp used
    exact .inr ⟨expr, rfl⟩
  · rw [Site.place_of_mem_factors further] at reached
    cases reached
  · obtain ⟨expr, _, rfl⟩ := List.mem_map.mp joined
    cases reached

/-- What is bound in the outermost parts of a statement is the start of their clause. -/
theorem ordered_of_mem_sites {child : Site × Part} (among : child ∈ statement.sites)
    (reached : child.1.place.reached = true) : child.2.Ordered child.1 := by
  cases statement with
  | query selection =>
      rw [List.mem_singleton.mp among]
      exact List.prefix_rfl
  | insert lead target label columns source tail =>
      rcases Site.of_mem_inserted among reached with ⟨query, rfl⟩ | ⟨_, _, _, _, _, expr, _, rfl⟩
      · exact List.prefix_rfl
      · exact List.prefix_rfl
  | update lead target assignments source condition returning =>
      let opened := (Site.outermost target.lone?.isSome).updating target.factors
        (source.toList.flatMap Source.factors)
      have within : opened.bound ++ target.factors.flatMap (Factor.occupants opened.place) <+:
          opened.clause := by
        show _ <+: (target.factors ++ _).flatMap _
        rw [List.flatMap_append]
        exact List.prefix_append _ _
      rcases of_mem_sites_update among reached with listed | ⟨expr, rfl⟩
      · exact Site.ordered_of_mem_factors within child listed
      · exact Site.ordered_bindingAll within expr
  | createTable | createIndex | alterTable | other => cases among

/-- All relations of their clause are bound in the outermost parts of a statement that are not exposed,
but for its factors. -/
theorem settled_of_mem_sites {child : Site × Part} (among : child ∈ statement.sites)
    (reached : child.1.place.reached = true) : child.2.Settled child.1 := by
  cases statement with
  | query selection =>
      rw [List.mem_singleton.mp among]
      exact fun _ _ => .inl rfl
  | insert lead target label columns source tail =>
      rcases Site.of_mem_inserted among reached with ⟨query, rfl⟩ | ⟨_, _, _, _, _, expr, _, rfl⟩
      · exact fun _ _ => .inl rfl
      · exact fun _ _ => .inl rfl
  | update lead target assignments source condition returning =>
      rcases of_mem_sites_update among reached with listed | ⟨expr, rfl⟩
      · exact Site.settled_of_mem_factors listed
      · -- The update is exposed if it has further relations, and else has bound all of them.
        intro hidden
        rw [Site.exposed_bindingAll] at hidden
        have alone : source.toList.flatMap Source.factors = [] := by
          simpa [Site.updating, Site.opening] using hidden
        refine Site.settled_bindingAll ?_ expr ((Site.exposed_bindingAll _ _).trans hidden)
        rw [alone]
        exact congrArg (List.flatMap _) (List.append_nil _).symm
  | createTable | createIndex | alterTable | other => cases among

/-- Named queries that are visible are around the outermost parts of a statement, but for rows that are
inserted behind them. -/
theorem covered_of_mem_sites (plain : statement.hidesNames = false) {child : Site × Part}
    (among : child ∈ statement.sites) (reached : child.1.place.reached = true) :
    child.1.Covered := by
  have outermost (reached : Bool) : (Site.outermost reached).Covered :=
    ⟨fun _ => id, fun _ => nofun⟩
  cases statement with
  | query selection =>
      rw [List.mem_singleton.mp among]
      exact outermost true
  | insert lead target label columns source tail =>
      rcases Site.of_mem_inserted among reached with
        ⟨query, rfl⟩ | ⟨_, definitions, _, _, _, expr, rfl, rfl⟩
      · exact outermost _
      · cases definitions with
        | nil => exact (outermost _).below fun _ => id
        | cons => cases plain
  | update lead target assignments source condition returning =>
      rcases of_mem_sites_update among reached with listed | ⟨expr, rfl⟩
      · exact ((outermost _).opening _ _).factors child listed
      · exact ((outermost _).opening _ _).bindingAll _
  | createTable | createIndex | alterTable | other => cases among

end Statement

end Sql

end SchemaDrift
