import Mathlib.Data.Finset.Card
import SchemaDrift.Proofs.Keyed

namespace SchemaDrift

/-- Numbers of which each may be missing are compared as options. -/
theorem compareOptional_eq (first second : Option Nat) :
    compareOptional first second = compare first second := by
  cases first <;> cases second <;> rfl

namespace Location

/-- Places are compared by their parts, one after the other. -/
theorem order_eq : order = compareLex (compareLex
    (fun first second => compareText first.file second.file) (compareOn line))
    (compareOn column) := by
  funext first second
  simp only [order, compareLex, compareOn, compareOptional_eq]

instance : Std.TransCmp order := by
  rw [order_eq]
  infer_instance

/-- Two places are equal in order only when they are the same. -/
theorem order_eq_iff (first second : Location) : order first second = .eq ↔ first = second := by
  obtain ⟨file, line, column⟩ := first
  obtain ⟨otherFile, otherLine, otherColumn⟩ := second
  simp [order, Ordering.then_eq_eq, compareText_eq_iff, compareOptional_eq, and_assoc]

/-- A place does not come before itself. -/
theorem order_irrefl (place : Location) : order place place ≠ .lt := by
  rw [(order_eq_iff place place).mpr rfl]
  exact Ordering.noConfusion

/-- Places stand in order, each once. -/
def Ordered (places : List Location) : Prop :=
  places.Pairwise fun first second => order first second = .lt

/-- Places in order are distinct. -/
theorem Ordered.nodup {places : List Location} (ordered : Ordered places) : places.Nodup := by
  refine ordered.imp ?_
  rintro first second less rfl
  exact order_irrefl first less

/-- A place that is added is there, beside those that were there. -/
theorem mem_insertSorted (place other : Location) (places : List Location) :
    other ∈ insertSorted place places ↔ other = place ∨ other ∈ places := by
  induction places with
  | nil => simp [insertSorted]
  | cons head rest inductionHypothesis =>
      unfold insertSorted
      split
      · simp
      · rename_i same
        rw [(order_eq_iff place head).mp same]
        simp
      · rw [List.mem_cons, inductionHypothesis, List.mem_cons]
        exact or_left_comm

/-- Places in order stay so when one is added. -/
theorem Ordered.insertSorted {places : List Location} (ordered : Ordered places)
    (place : Location) : Ordered (insertSorted place places) := by
  induction places with
  | nil => exact List.pairwise_singleton _ _
  | cons head rest inductionHypothesis =>
      obtain ⟨before, tail⟩ := List.pairwise_cons.mp ordered
      unfold Location.insertSorted
      split
      · rename_i less
        refine List.pairwise_cons.mpr ⟨?_, ordered⟩
        intro later present
        obtain rfl | found := List.mem_cons.mp present
        · exact less
        · exact Std.TransCmp.lt_trans less (before later found)
      · exact ordered
      · rename_i greater
        refine List.pairwise_cons.mpr ⟨?_, inductionHypothesis tail⟩
        intro later present
        obtain rfl | found := (mem_insertSorted place later rest).mp present
        · exact Std.OrientedCmp.gt_iff_lt.mp greater
        · exact before later found

theorem mem_distinct (place : Location) (places : List Location) :
    place ∈ distinct places ↔ place ∈ places := by
  have grows : ∀ sites : List Location,
      place ∈ places.foldl (fun sites next => insertSorted next sites) sites ↔
        place ∈ sites ∨ place ∈ places := by
    induction places with
    | nil => simp
    | cons head rest inductionHypothesis =>
        intro sites
        rw [List.foldl_cons, inductionHypothesis, mem_insertSorted, List.mem_cons, or_assoc,
          or_left_comm]
  simpa [distinct] using grows []

/-- The distinct places of a list stand in order, each once. -/
theorem ordered_distinct (places : List Location) : Ordered (distinct places) :=
  List.foldlRecOn (motive := Ordered) places _ .nil fun _ ordered place _ =>
    ordered.insertSorted place

/-- One more place is added to the distinct ones. -/
theorem distinct_concat (places : List Location) (place : Location) :
    distinct (places ++ [place]) = insertSorted place (distinct places) := by
  rw [distinct, List.foldl_append]
  rfl

/-- Places in order are known by which places they are. -/
theorem Ordered.ext {first second : List Location} (ordered : Ordered first) (other : Ordered second)
    (same : ∀ place, place ∈ first ↔ place ∈ second) : first = second := by
  have permuted := (List.perm_ext_iff_of_nodup ordered.nodup other.nodup).mpr same
  refine permuted.eq_of_pairwise ?_ ordered other
  intro left right _ _ less more
  exact absurd (Std.TransCmp.lt_trans less more) (order_irrefl left)

/-- There are as many distinct places as different places. -/
theorem length_distinct (places : List Location) :
    (distinct places).length = places.toFinset.card := by
  have same : places.toFinset = (distinct places).toFinset := by
    ext place
    rw [List.mem_toFinset, List.mem_toFinset, mem_distinct]
  rw [same, List.toFinset_card_of_nodup (ordered_distinct places).nodup]

end Location

end SchemaDrift
