import SchemaDrift.Issue.Json
import SchemaDrift.Proofs.Json.Reading

namespace SchemaDrift.Json

variable {α β : Type} {toJson : α → Json} {read : Json → Option α}

/-- A value is found under the name of its member, before the others of that name. -/
theorem valuesOf_cons (key name : String) (value : Json) (members : List (String × Json)) :
    valuesOf key ((name, value) :: members) =
      if name = key then value :: valuesOf key members else valuesOf key members := by
  by_cases same : name = key <;> simp [valuesOf, same]

/-- Nothing is found where there are no members. -/
theorem valuesOf_nil (key : String) : valuesOf key [] = [] := rfl

/-- Each value is found alone under its name where no two members have one name. -/
theorem valuesOf_of_mem {members : List (String × Json)}
    (distinct : (members.map Prod.fst).Nodup) {member : String × Json} (among : member ∈ members) :
    valuesOf member.1 members = [member.2] := by
  induction members with
  | nil => cases among
  | cons first members inductionHypothesis =>
      rw [List.map_cons, List.nodup_cons] at distinct
      rw [valuesOf_cons]
      obtain rfl | later := List.mem_cons.mp among
      · have absent : valuesOf member.1 members = [] := by
          rw [valuesOf, List.map_eq_nil_iff, List.filter_eq_nil_iff]
          intro other present same
          exact distinct.1 (beq_iff_eq.mp same ▸ List.mem_map_of_mem present)
        rw [if_pos rfl, absent]
      · have other : first.1 ≠ member.1 := fun same =>
          distinct.1 (same ▸ List.mem_map_of_mem later)
        rw [if_neg other, inductionHypothesis distinct.2 later]

/-- A text is read from its form. -/
theorem text?_string (text : String) : text? (string text) = some text := rfl

theorem nullable?_of_read {value : Json} {inner : α} (present : value.isNull = false)
    (known : read value = some inner) : nullable? read value = some (some inner) := by
  rw [nullable?, known]
  · rfl
  · intro absent
    rw [absent] at present
    cases present

/-- A value that may be missing is read from its form, which is null for just its absence. -/
theorem nullable?_ofOption {value : Option α}
    (each : ∀ inner ∈ value, (toJson inner).isNull = false ∧ read (toJson inner) = some inner) :
    nullable? read (ofOption toJson value) = some value := by
  cases value with
  | none => rfl
  | some inner =>
      obtain ⟨present, known⟩ := each inner rfl
      exact nullable?_of_read present known

/-- A text that may be missing is read from its form. -/
theorem nullable?_ofText? (text : Option String) : nullable? text? (ofText? text) = some text := by
  cases text <;> rfl

/-- A reader goes on with a member that must be there. -/
theorem required_bind {members : List (String × Json)} {key : String} {written : Json} {value : α}
    (found : valuesOf key members = [written]) (known : read written = some value)
    (rest : α → Option β) : (required members key read >>= rest) = rest value := by
  rw [required, found]
  exact congrArg (Option.bind · rest) known

/-- A reader goes on with a member that may be missing. -/
theorem optional_bind {members : List (String × Json)} {key : String} {written : Json}
    {value : Option α} (found : valuesOf key members = [written])
    (known : nullable? read written = some value) (rest : Option α → Option β) :
    (Json.optional members key read >>= rest) = rest value := by
  rw [Json.optional, found]
  exact congrArg (Option.bind · rest) known

/-- A reader goes on with a member that something else may stand for. -/
theorem defaulted_bind {members : List (String × Json)} {key : String} {written : Json}
    {default value : α} (found : valuesOf key members = [written])
    (known : read written = some value) (rest : α → Option β) :
    (defaulted members key default read >>= rest) = rest value := by
  rw [defaulted, found]
  exact congrArg (Option.bind · rest) known

/-- A list is read from the array of the forms of its elements. -/
theorem list?_map {values : List α} (each : ∀ value ∈ values, read (toJson value) = some value) :
    list? read (array (values.map toJson)) = some values := by
  rw [list?]
  induction values with
  | nil => rfl
  | cons value values inductionHypothesis =>
      rw [List.forall_mem_cons] at each
      rw [List.map_cons, List.mapM_cons, each.1, inductionHypothesis each.2]
      rfl

/-- A natural number is read from its form when it is within the bound. -/
theorem nat?_ofNat {bound n : Nat} (within : n ≤ bound) : nat? bound (ofNat n) = some n := by
  have checked : (0 ≤ (n : Int) && (n : Int) ≤ bound) = true := by
    rw [Bool.and_eq_true, decide_eq_true_eq, decide_eq_true_eq]
    omega
  rw [ofNat, nat?, if_pos checked, Int.toNat_natCast]

/-- A natural number of 64 bits is whole. -/
theorem whole_ofNat_iff (n : Nat) : (ofNat n).Whole ↔ n ≤ word64 := by
  rw [ofNat, Whole]
  omega

theorem whole_string (text : String) : (string text).Whole := trivial

/-- A value that may be missing is whole when the value is. -/
theorem whole_ofOption_iff (value : Option α) :
    (ofOption toJson value).Whole ↔ ∀ inner ∈ value, (toJson inner).Whole := by
  cases value with
  | none => exact iff_of_true trivial nofun
  | some inner => simp [ofOption]

/-- A text that may be missing is whole. -/
theorem whole_ofText? (text : Option String) : (ofText? text).Whole := by
  cases text <;> trivial

theorem depth_string (text : String) : (string text).depth = 0 := rfl

/-- A value that may be missing is as deep as the value. -/
theorem depth_ofOption_le_iff (value : Option α) (limit : Nat) :
    (ofOption toJson value).depth ≤ limit ↔ ∀ inner ∈ value, (toJson inner).depth ≤ limit := by
  cases value with
  | none => exact iff_of_true (Nat.zero_le _) nofun
  | some inner => simp [ofOption]

/-- A text that may be missing has no depth. -/
theorem depth_ofText? (text : Option String) : (ofText? text).depth = 0 := by
  cases text <;> rfl

theorem whole_map_iff (values : List α) :
    (array (values.map toJson)).Whole ↔ ∀ value ∈ values, (toJson value).Whole := by
  rw [whole_array_iff, List.forall_mem_map]

/-- The array of a list is one deeper than the forms of its elements. -/
theorem depth_map_le_iff (values : List α) (limit : Nat) :
    (array (values.map toJson)).depth ≤ limit + 1 ↔
      ∀ value ∈ values, (toJson value).depth ≤ limit := by
  rw [depth_array_le_iff, List.forall_mem_map]

end SchemaDrift.Json
