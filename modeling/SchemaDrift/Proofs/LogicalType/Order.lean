import Mathlib.Order.Bounds.Basic
import SchemaDrift.Proofs.LogicalType.Widening

namespace SchemaDrift

namespace LogicalType

/-- The values of a type fit in a type when that is the same, or a wider one, or both are texts and
the bound of the second is none or no shorter. -/
inductive FitsIn : LogicalType → LogicalType → Prop where
  | same (type : LogicalType) : FitsIn type type
  | narrower {type other : LogicalType} (wider : Wider other type) : FitsIn type other
  | bounded (length : Option UInt32) : FitsIn (varchar length) (varchar none)
  | shorter {length other : UInt32} (within : length ≤ other) :
      FitsIn (varchar (some length)) (varchar (some other))

theorem Wider.trans {first second third : LogicalType} (outer : Wider first second)
    (inner : Wider second third) : Wider first third := by
  cases outer <;> cases inner
  constructor

/-- Of two types only one is wider. -/
theorem Wider.asymm {first second : LogicalType} (wider : Wider first second) :
    ¬ Wider second first := by
  intro reverse
  cases wider <;> cases reverse

namespace FitsIn

variable {first second third : LogicalType}

theorem trans (inner : first.FitsIn second) (outer : second.FitsIn third) :
    first.FitsIn third := by
  cases inner with
  | same => exact outer
  | narrower wider =>
      cases outer with
      | same => exact .narrower wider
      | narrower further => exact .narrower (further.trans wider)
      | bounded => cases wider
      | shorter => cases wider
  | bounded length =>
      cases outer with
      | same => exact .bounded length
      | narrower further => cases further
      | bounded => exact .bounded length
  | shorter within =>
      cases outer with
      | same => exact .shorter within
      | narrower further => cases further
      | bounded => exact .bounded _
      | shorter further => exact .shorter (UInt32.le_trans within further)

/-- Types that fit in each other are the same. -/
theorem antisymm (inner : first.FitsIn second) (outer : second.FitsIn first) : first = second := by
  cases inner with
  | same => rfl
  | narrower wider =>
      cases outer with
      | same => rfl
      | narrower reverse => exact absurd reverse wider.asymm
      | bounded => cases wider
      | shorter => cases wider
  | bounded =>
      cases outer with
      | same => rfl
      | narrower reverse => cases reverse
      | bounded => rfl
  | shorter within =>
      cases outer with
      | same => rfl
      | narrower reverse => cases reverse
      | shorter reverse => rw [UInt32.le_antisymm within reverse]

/-- A type says as much about a column as the types that it fits in. -/
theorem specificity_eq (fits : first.FitsIn second) : first.specificity = second.specificity := by
  cases fits with
  | same => rfl
  | narrower wider => cases wider <;> rfl
  | bounded => rfl
  | shorter => rfl

end FitsIn

/-- A type is below those that its values fit in. -/
instance : PartialOrder LogicalType where
  le := FitsIn
  le_refl := .same
  le_trans _ _ _ := FitsIn.trans
  le_antisymm _ _ := FitsIn.antisymm

/-- The wider of two lengths is one of them, and texts of the other fit in it. -/
theorem widerLength_cases (length other : Option UInt32) :
    widerLength length other = length ∧ varchar other ≤ varchar length ∨
      widerLength length other = other ∧ varchar length ≤ varchar other := by
  cases length with
  | none => exact .inl ⟨rfl, .bounded other⟩
  | some length =>
      cases other with
      | none => exact .inr ⟨rfl, .bounded (some length)⟩
      | some other =>
          by_cases within : length ≤ other
          · exact .inr ⟨congrArg some (if_pos within), .shorter within⟩
          · have reverse := (UInt32.le_total length other).resolve_left within
            exact .inl ⟨congrArg some (if_neg within), .shorter reverse⟩

/-- Of two lengths the one that texts of the other fit in is the wider, in either order. -/
theorem widerLength_of_le {length other : Option UInt32} (below : varchar length ≤ varchar other) :
    widerLength length other = other ∧ widerLength other length = other := by
  constructor
  · obtain ⟨same, above⟩ | ⟨same, _⟩ := widerLength_cases length other
    · exact same.trans (varchar.inj (le_antisymm below above))
    · exact same
  · obtain ⟨same, _⟩ | ⟨same, above⟩ := widerLength_cases other length
    · exact same
    · exact same.trans (varchar.inj (le_antisymm below above))

theorem widen_varchar (length other : Option UInt32) :
    (varchar length).widen (varchar other) = some (varchar (widerLength length other)) := by
  by_cases same : length = other
  · rw [same, widen_self, (widerLength_of_le le_rfl).1]
  · unfold widen
    exact if_neg (mt varchar.inj same)

/-- A text is widened to one that it fits in, from either side. -/
theorem widen_varchar_of_le {length other : Option UInt32}
    (below : varchar length ≤ varchar other) :
    (varchar length).widen (varchar other) = some (varchar other) ∧
      (varchar other).widen (varchar length) = some (varchar other) := by
  obtain ⟨left, right⟩ := widerLength_of_le below
  rw [widen_varchar, widen_varchar, left, right]
  exact ⟨rfl, rfl⟩

variable {first second third joined whole rest : LogicalType}

/-- Two types are widened to one of them, and the other fits in it. -/
theorem widen_cases (made : first.widen second = some joined) :
    joined = first ∧ second ≤ first ∨ joined = second ∧ first ≤ second := by
  by_cases same : first = second
  · rw [same, widen_self] at made
    exact .inr ⟨(Option.some.inj made).symm, same.le⟩
  · unfold widen at made
    rw [if_neg same] at made
    -- Texts have lengths to compare; the other types of one family differ in their constructors.
    cases first <;> cases second <;> cases made <;> first
      | exact .inl ⟨rfl, .narrower (by constructor)⟩
      | exact .inr ⟨rfl, .narrower (by constructor)⟩
      | exact (widerLength_cases _ _).imp (And.imp_left (congrArg varchar))
          (And.imp_left (congrArg varchar))

/-- A type is widened to one that it fits in, from either side. -/
theorem widen_of_le (below : first ≤ second) :
    first.widen second = some second ∧ second.widen first = some second := by
  cases below with
  | same => exact ⟨widen_self _, widen_self _⟩
  | narrower wider => cases wider <;> exact ⟨rfl, rfl⟩
  | bounded length => exact widen_varchar_of_le (.bounded length)
  | shorter within => exact widen_varchar_of_le (.shorter within)

/-- The greatest of two types is one of them that both fit in. -/
theorem isGreatest_pair_iff : IsGreatest {first, second} joined ↔
    (joined = first ∨ joined = second) ∧ first ≤ joined ∧ second ≤ joined := by
  simp [IsGreatest]

/-- Two types are widened to the greatest of them, where one of them is the greatest. -/
theorem widen_eq_some_iff_isGreatest :
    first.widen second = some joined ↔ IsGreatest {first, second} joined := by
  rw [isGreatest_pair_iff]
  constructor
  · intro made
    obtain ⟨rfl, below⟩ | ⟨rfl, below⟩ := widen_cases made
    · exact ⟨.inl rfl, le_rfl, below⟩
    · exact ⟨.inr rfl, below, le_rfl⟩
  · rintro ⟨rfl | rfl, left, right⟩
    · exact (widen_of_le right).2
    · exact (widen_of_le left).1

theorem le_of_widen (made : first.widen second = some joined) :
    first ≤ joined ∧ second ≤ joined :=
  (isGreatest_pair_iff.mp (widen_eq_some_iff_isGreatest.mp made)).2

/-- The order in which types are widened by each other does not matter. -/
theorem widen_comm (first second : LogicalType) : first.widen second = second.widen first := by
  apply Option.ext
  intro joined
  rw [widen_eq_some_iff_isGreatest, widen_eq_some_iff_isGreatest, Set.pair_comm]

/-- Types are widened exactly when one of them fits in the other. -/
theorem isSome_widen_iff (first second : LogicalType) :
    (first.widen second).isSome = true ↔ first ≤ second ∨ second ≤ first := by
  rw [Option.isSome_iff_exists]
  constructor
  · rintro ⟨joined, made⟩
    exact (widen_cases made).symm.imp And.right And.right
  · rintro (below | below)
    · exact ⟨second, (widen_of_le below).1⟩
    · exact ⟨first, (widen_of_le below).2⟩

/-- A type that was widened and then widened again is widened by what the later two are widened
to, where they are. -/
theorem widen_assoc (inner : first.widen second = some joined)
    (outer : joined.widen third = some whole) (right : second.widen third = some rest) :
    first.widen rest = some whole := by
  rw [widen_eq_some_iff_isGreatest, isGreatest_pair_iff] at *
  obtain ⟨chosen, firstBelow, secondBelow⟩ := inner
  obtain ⟨among, joinedBelow, thirdBelow⟩ := outer
  obtain ⟨taken, below, above⟩ := right
  have bound : rest ≤ whole := by
    obtain rfl | rfl := taken
    · exact secondBelow.trans joinedBelow
    · exact thirdBelow
  refine ⟨?_, firstBelow.trans joinedBelow, bound⟩
  -- The whole is one of the three types; as one of the last two it is the greatest of them, `rest`.
  obtain rfl | rfl := among
  · obtain rfl | rfl := chosen
    · exact .inl rfl
    · exact .inr (le_antisymm below bound)
  · exact .inr (le_antisymm above bound)

/-- What makes an operation on types a partial join: it is there for types of which one fits in the
other, and then it is their least upper bound, of their family and as specific. -/
structure PartialJoin (join : LogicalType → LogicalType → Option LogicalType) : Prop where
  self (type : LogicalType) : join type type = some type
  comm (first second : LogicalType) : join first second = join second first
  comparable (first second : LogicalType) :
    (join first second).isSome = true ↔ first ≤ second ∨ second ≤ first
  least {first second joined : LogicalType} : join first second = some joined →
    IsLUB {first, second} joined
  absorbs {first second joined : LogicalType} : join first second = some joined →
    join first joined = some joined ∧ join second joined = some joined
  family {first second joined : LogicalType} : join first second = some joined →
    joined.family = first.family ∧ joined.family = second.family
  specificity {first second joined : LogicalType} : join first second = some joined →
    joined.specificity = first.specificity ∧ joined.specificity = second.specificity
  assoc {first second third joined whole rest : LogicalType} : join first second = some joined →
    join joined third = some whole → join second third = some rest → join first rest = some whole

/-- Widening is a partial join. -/
theorem partialJoin_widen : PartialJoin widen where
  self := widen_self
  comm := widen_comm
  comparable := isSome_widen_iff
  least made := (widen_eq_some_iff_isGreatest.mp made).isLUB
  absorbs made := by
    obtain ⟨left, right⟩ := le_of_widen made
    exact ⟨(widen_of_le left).1, (widen_of_le right).1⟩
  family made := by
    obtain ⟨left, right⟩ := widen_family made
    exact ⟨left, left.trans right.symm⟩
  specificity made := by
    obtain ⟨left, right⟩ := le_of_widen made
    exact ⟨(FitsIn.specificity_eq left).symm, (FitsIn.specificity_eq right).symm⟩
  assoc := widen_assoc

/-- Decimals of different sizes both fit in floating numbers, but they are not widened to them. -/
example : decimal (some 10) (some 2) ≤ float ∧ decimal (some 12) (some 4) ≤ float ∧
    (decimal (some 10) (some 2)).widen (decimal (some 12) (some 4)) = none :=
  ⟨.narrower (.floatDecimal _ _), .narrower (.floatDecimal _ _), by decide⟩

end LogicalType

end SchemaDrift
