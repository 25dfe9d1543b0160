import SchemaDrift.Proofs.Json.Record
import SchemaDrift.Proofs.LogicalType.Spelling

namespace SchemaDrift.LogicalType

/-- The form of a type is an object. -/
theorem isNull_toJson (type : LogicalType) : type.toJson.isNull = false := by
  cases type <;> rfl

/-- An optional number is an optional value whose form is a number. -/
theorem optionalNumber_eq (number : Option Nat) :
    optionalNumber number = Json.ofOption Json.ofNat number := by
  cases number <;> rfl

/-- An optional number is read from its form when it is within the bound. -/
theorem nullable?_optionalNumber {bound : Nat} {number : Option Nat}
    (within : ∀ n ∈ number, n ≤ bound) :
    Json.nullable? (·.nat? bound) (optionalNumber number) = some number := by
  rw [optionalNumber_eq]
  exact Json.nullable?_ofOption fun n known =>
    ⟨rfl, Json.nat?_ofNat (within n known)⟩

theorem whole_optionalNumber {number : Option Nat}
    (within : ∀ n ∈ number, n ≤ Json.word64) : (optionalNumber number).Whole := by
  rw [optionalNumber_eq, Json.whole_ofOption_iff]
  exact fun n known => (Json.whole_ofNat_iff n).mpr (within n known)

/-- The bounds of a decimal type have 16 bits. -/
theorem word16_bound (bound : Option UInt16) :
    ∀ n ∈ bound.map UInt16.toNat, n ≤ Json.word16 := by
  intro n known
  obtain ⟨word, -, same⟩ := Option.map_eq_some_iff.mp known
  rw [← same]
  exact Nat.le_of_lt_succ word.toNat_lt

/-- The length of a bounded text has 32 bits. -/
theorem word32_bound (bound : Option UInt32) :
    ∀ n ∈ bound.map UInt32.toNat, n ≤ Json.word32 := by
  intro n known
  obtain ⟨word, -, same⟩ := Option.map_eq_some_iff.mp known
  rw [← same]
  exact Nat.le_of_lt_succ word.toNat_lt

/-- The numbers in the form of a type are whole. -/
theorem whole_toJson (type : LogicalType) : type.toJson.Whole := by
  induction type with
  | decimal precision scale =>
      have small : Json.word16 ≤ Json.word64 := by decide
      exact ⟨trivial, whole_optionalNumber fun n known => (word16_bound precision n known).trans small,
        whole_optionalNumber fun n known => (word16_bound scale n known).trans small, trivial⟩
  | varchar length =>
      have small : Json.word32 ≤ Json.word64 := by decide
      exact ⟨trivial, whole_optionalNumber fun n known => (word32_bound length n known).trans small,
        trivial⟩
  | array element inductionHypothesis => exact ⟨trivial, inductionHypothesis, trivial⟩
  | _ => exact ⟨trivial, trivial⟩

/-- The form of a type is one deeper than the type. -/
theorem depth_toJson (type : LogicalType) : type.toJson.depth = type.depth + 1 := by
  induction type with
  | decimal precision scale => cases precision <;> cases scale <;> rfl
  | varchar length => cases length <;> rfl
  | array element inductionHypothesis =>
      show max 0 (max element.toJson.depth 0) + 1 = element.depth + 1 + 1
      rw [inductionHypothesis, Nat.max_zero, Nat.zero_max]
  | _ => rfl

/-- The form of a type has some levels when the type has one less. -/
theorem depth_toJson_le_iff (type : LogicalType) (limit : Nat) :
    type.toJson.depth ≤ limit + 1 ↔ type.depth ≤ limit := by
  rw [depth_toJson, Nat.add_le_add_iff_right]

/-- A type without parameters is read from the name of its case. -/
theorem ofJsonWithin?_plain {name : String} {type : LogicalType} (named : ofTag? name = some type)
    (fuel : Nat) : ofJsonWithin? (fuel + 1) (toJson.tagged name []) = some type := by
  rw [ofJsonWithin?, toJson.tagged]
  simp [Json.members?, Json.required, Json.valuesOf_cons, Json.valuesOf_nil, Json.text?_string, named]

/-- A type is read from its form within more levels than its arrays have. -/
theorem ofJsonWithin?_toJson (type : LogicalType) {fuel : Nat} (enough : type.depth < fuel) :
    ofJsonWithin? fuel type.toJson = some type := by
  have unnamed : ∀ name ∈ ["decimal", "varchar", "array"], ofTag? name = none := by decide
  simp only [List.forall_mem_cons] at unnamed
  obtain ⟨decimal, varchar, array, -⟩ := unnamed
  obtain _ | fuel := fuel
  · cases enough
  induction type generalizing fuel with
  | decimal precision scale =>
      have digits := nullable?_optionalNumber (word16_bound precision)
      have places := nullable?_optionalNumber (word16_bound scale)
      rw [toJson, ofJsonWithin?, toJson.tagged]
      simp [Json.members?, Json.required, Json.optional, Json.valuesOf_cons, Json.valuesOf_nil,
        Json.text?_string, decimal, digits, places, Function.comp_def]
  | varchar length =>
      have characters := nullable?_optionalNumber (word32_bound length)
      rw [toJson, ofJsonWithin?, toJson.tagged]
      simp [Json.members?, Json.required, Json.optional, Json.valuesOf_cons, Json.valuesOf_nil,
        Json.text?_string, varchar, characters, Function.comp_def]
  | array element inductionHypothesis =>
      obtain _ | fuel := fuel
      · exact absurd (Nat.lt_of_succ_lt_succ enough) (Nat.not_lt_zero _)
      · have inner := inductionHypothesis fuel (Nat.lt_of_succ_lt_succ enough)
        rw [toJson, ofJsonWithin?, toJson.tagged]
        simp [Json.members?, Json.required, Json.valuesOf_cons, Json.valuesOf_nil, Json.text?_string, array,
          inner]
  | _ => exact ofJsonWithin?_plain (by decide) fuel

/-- A type with fewer than 128 levels of arrays is read from its form. -/
theorem ofJson?_toJson {type : LogicalType} (shallow : type.depth < 128) :
    ofJson? type.toJson = some type :=
  ofJsonWithin?_toJson type shallow

end SchemaDrift.LogicalType
