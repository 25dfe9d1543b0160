import SchemaDrift.LogicalType.Basic

namespace SchemaDrift

namespace LogicalType

theorem isSpecific_iff (type : LogicalType) :
    type.isSpecific = true ↔ type ≠ .unknown ∧ type.isText = false := by
  cases type <;> simp [isSpecific, specificity, isText]

theorem isText_of_plain {type : LogicalType} (plain : type.isSpecific = false)
    (known : type ≠ .unknown) : type.isText = true := by
  cases text : type.isText with
  | true => rfl
  | false => rw [(isSpecific_iff type).mpr ⟨known, text⟩] at plain; cases plain

/-- The family of text holds the text types. -/
theorem family_eq_text_iff (type : LogicalType) : type.family = .text ↔ type.isText = true := by
  cases type <;> simp [family, isText]

theorem family_eq_unknown_iff (type : LogicalType) :
    type.family = .unknown ↔ type = .unknown := by
  cases type <;> simp [family]

/-- Types of one family are specific together. -/
theorem isSpecific_of_family_eq {first second : LogicalType} (same : first.family = second.family)
    (specific : second.isSpecific = true) : first.isSpecific = true := by
  rw [isSpecific_iff, ← Bool.not_eq_true, ← family_eq_text_iff, Ne, ← family_eq_unknown_iff] at *
  rwa [same]

/-- Known types are compatible within a family only. -/
theorem isCompatibleWith_iff {first second : LogicalType} (known : first ≠ .unknown)
    (other : second ≠ .unknown) :
    first.isCompatibleWith second = true ↔ first.family = second.family := by
  have left := mt (family_eq_unknown_iff first).mp known
  have right := mt (family_eq_unknown_iff second).mp other
  simp [isCompatibleWith, left, right]

/-- Widening a type by itself leaves it as it is. -/
theorem widen_self (type : LogicalType) : type.widen type = some type := by
  unfold widen
  exact if_pos rfl

/-- Types are widened within a family only, to a type of it. -/
theorem widen_family {first second widened : LogicalType}
    (made : first.widen second = some widened) :
    widened.family = first.family ∧ second.family = first.family := by
  by_cases same : first = second
  · rw [← same, widen_self] at made
    cases made
    exact ⟨rfl, congrArg family same.symm⟩
  · unfold widen at made
    rw [if_neg same] at made
    cases first <;> cases second <;> cases made <;> exact ⟨rfl, rfl⟩

/-- A type holds another when widening it by the other leaves it as it is. -/
def Holds (type other : LogicalType) : Prop := type.widen other = some type

instance (type other : LogicalType) : Decidable (type.Holds other) :=
  inferInstanceAs (Decidable (_ = _))

/-- A specific type has room for the values of another one. -/
inductive Wider : LogicalType → LogicalType → Prop where
  | floatInt : Wider float int
  | floatDecimal (precision scale : Option UInt16) : Wider float (decimal precision scale)
  | decimalInt (precision scale : Option UInt16) : Wider (decimal precision scale) int
  | timestampDate : Wider timestamp date

/-- Two different types of one family, neither of which has room for the other. -/
inductive Apart : LogicalType → LogicalType → Prop where
  | decimals {precision scale otherPrecision otherScale : Option UInt16}
      (different : decimal precision scale ≠ decimal otherPrecision otherScale) :
      Apart (decimal precision scale) (decimal otherPrecision otherScale)
  | arrays {element other : LogicalType} (different : array element ≠ array other) :
      Apart (array element) (array other)

/-- Two specific types of one family are the same, or one of them is wider, or they lie apart. -/
theorem related_of_family_eq {first second : LogicalType} (specific : first.isSpecific = true)
    (same : first.family = second.family) :
    first = second ∨ Wider first second ∨ Wider second first ∨ Apart first second := by
  by_cases equal : first = second
  · exact .inl equal
  · right
    cases first <;> cases second <;> first
      | contradiction
      | exact .inl (by constructor)
      | exact .inr (.inl (by constructor))
      | exact .inr (.inr (by constructor; exact equal))

/-- A specific type is widened by the types that it has room for, and to those that have room for
it. -/
theorem widen_eq_some_iff {first second widened : LogicalType}
    (specific : first.isSpecific = true) : first.widen second = some widened ↔
      widened = first ∧ (first = second ∨ Wider first second) ∨
        widened = second ∧ Wider second first := by
  constructor
  · intro made
    by_cases same : first = second
    · rw [← same, widen_self] at made
      cases made
      exact .inl ⟨rfl, .inl same⟩
    · unfold widen at made
      rw [if_neg same] at made
      cases first <;> cases second <;> cases made <;> first
        | contradiction
        | exact .inl ⟨rfl, .inr (by constructor)⟩
        | exact .inr ⟨rfl, by constructor⟩
  · rintro (⟨rfl, rfl | wider⟩ | ⟨rfl, wider⟩)
    · exact widen_self widened
    · cases wider <;> rfl
    · cases wider <;> rfl

/-- A specific type holds itself and the types that it has room for. -/
theorem holds_iff {type other : LogicalType} (specific : type.isSpecific = true) :
    type.Holds other ↔ type = other ∨ Wider type other := by
  rw [Holds, widen_eq_some_iff specific]
  constructor
  · rintro (⟨_, held⟩ | ⟨rfl, wider⟩)
    · exact held
    · exact .inr wider
  · exact fun held => .inl ⟨rfl, held⟩

/-- A type that a specific type was widened by is held. -/
theorem holds_of_widen {first second widened : LogicalType} (specific : first.isSpecific = true)
    (made : first.widen second = some widened) : widened.Holds second := by
  obtain ⟨rfl, _⟩ | ⟨rfl, _⟩ := (widen_eq_some_iff specific).mp made
  · exact made
  · exact widen_self widened

/-- Specific types are widened unless they are of different families or lie apart. -/
theorem widen_eq_none_iff {first second : LogicalType} (specific : first.isSpecific = true) :
    first.widen second = none ↔ first.family ≠ second.family ∨ Apart first second := by
  constructor
  · intro unmade
    by_cases same : first.family = second.family
    · obtain rfl | wider | wider | apart := related_of_family_eq specific same
      · cases ((widen_eq_some_iff specific).mpr (.inl ⟨rfl, .inl rfl⟩)).symm.trans unmade
      · cases ((widen_eq_some_iff specific).mpr (.inl ⟨rfl, .inr wider⟩)).symm.trans unmade
      · cases ((widen_eq_some_iff specific).mpr (.inr ⟨rfl, wider⟩)).symm.trans unmade
      · exact .inr apart
    · exact .inl same
  · rintro (other | apart)
    · rw [Option.eq_none_iff_forall_ne_some]
      intro widened made
      exact other (widen_family made).2.symm
    · cases apart with
      | decimals different =>
          unfold widen
          exact if_neg different
      | arrays different =>
          unfold widen
          exact if_neg different

/-- Types lie apart when a specific one is not widened by another of its family. -/
theorem apart_iff {first second : LogicalType} : Apart first second ↔
    first.isSpecific = true ∧ first.family = second.family ∧ first.widen second = none := by
  constructor
  · intro apart
    have specific : first.isSpecific = true := by cases apart <;> rfl
    have same : first.family = second.family := by cases apart <;> rfl
    exact ⟨specific, same, (widen_eq_none_iff specific).mpr (.inr apart)⟩
  · rintro ⟨specific, same, unmade⟩
    exact ((widen_eq_none_iff specific).mp unmade).resolve_left (not_not_intro same)

instance (first second : LogicalType) : Decidable (Apart first second) :=
  decidable_of_iff _ apart_iff.symm

/-- A type does not hold one that lies apart from it. -/
theorem Apart.not_holds {first second : LogicalType} (apart : Apart first second) :
    ¬ first.Holds second := by
  intro holds
  cases holds.symm.trans (apart_iff.mp apart).2.2

/-- A type that lies apart from another has nothing to do with floating numbers. -/
theorem Apart.not_float {first second : LogicalType} (apart : Apart first second) :
    ¬ (first.Holds .float ∨ Apart first .float) := by
  rintro (holds | further)
  · cases apart <;> cases holds
  · cases apart <;> cases further

/-- What lies apart from a type lies apart from it still, or fits with it, after it was widened. -/
theorem Apart.widen {first second third widened : LogicalType} (apart : Apart first third)
    (made : first.widen second = some widened) : widened.Holds third ∨ Apart widened third := by
  obtain ⟨rfl, _⟩ | ⟨rfl, wider⟩ := (widen_eq_some_iff (apart_iff.mp apart).1).mp made
  · exact .inr apart
  · cases apart <;> cases wider
    exact .inl rfl

/-- What a type holds it holds still after it was widened. -/
theorem Holds.widen {first second third widened : LogicalType} (holds : first.Holds third)
    (specific : first.isSpecific = true) (made : first.widen second = some widened) :
    widened.Holds third := by
  obtain ⟨rfl, _⟩ | ⟨rfl, wider⟩ := (widen_eq_some_iff specific).mp made
  · exact holds
  · obtain rfl | narrower := (holds_iff specific).mp holds
    · cases wider <;> rfl
    · cases wider <;> cases narrower
      rfl

/-- A type that holds two types that lie apart is that of floating numbers. -/
theorem Apart.eq_float {first second type : LogicalType} (apart : Apart first second)
    (specific : type.isSpecific = true) (holdsFirst : type.Holds first)
    (holdsSecond : type.Holds second) : type = .float := by
  obtain rfl | wider := (holds_iff specific).mp holdsFirst
  · exact absurd holdsSecond apart.not_holds
  · cases apart <;> cases wider
    rfl

end LogicalType

end SchemaDrift
