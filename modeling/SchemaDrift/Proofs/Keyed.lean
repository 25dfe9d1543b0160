import SchemaDrift.Keyed

namespace SchemaDrift

/-- Two sequences of characters are equal in order only when they are the same. -/
theorem compareChars_eq_iff (first second : List Char) :
    compareChars first second = .eq ↔ first = second := by
  induction first generalizing second with
  | nil => cases second <;> simp [compareChars]
  | cons head tail inductionHypothesis =>
      cases second with
      | nil => simp [compareChars]
      | cons other rest =>
          simp [compareChars, Ordering.then_eq_eq, inductionHypothesis, ← Char.toNat_inj]

/-- The order of two sequences of characters turns with their places. -/
theorem compareChars_swap (first second : List Char) :
    (compareChars first second).swap = compareChars second first := by
  induction first generalizing second with
  | nil => cases second <;> rfl
  | cons head tail inductionHypothesis =>
      cases second with
      | nil => rfl
      | cons other rest =>
          rw [compareChars, compareChars, Ordering.swap_then, inductionHypothesis rest,
            Nat.compare_swap]

/-- A sequence of characters before a second one comes before all that come after the second. -/
theorem compareChars_trans {first second third : List Char}
    (left : compareChars first second = .lt) (right : compareChars second third = .lt) :
    compareChars first third = .lt := by
  induction first generalizing second third with
  | nil =>
      cases third with
      | nil => cases second <;> simp [compareChars] at left right
      | cons last rest => rfl
  | cons head tail inductionHypothesis =>
      cases second with
      | nil => simp [compareChars] at left
      | cons middle between =>
          cases third with
          | nil => simp [compareChars] at right
          | cons last rest =>
              simp only [compareChars, Ordering.then_eq_lt, Nat.compare_eq_lt,
                Nat.compare_eq_eq] at left right ⊢
              rcases left with left | ⟨same, left⟩
              · rcases right with right | ⟨equal, _⟩
                · exact .inl (Nat.lt_trans left right)
                · exact .inl (equal ▸ left)
              · rcases right with right | ⟨equal, right⟩
                · exact .inl (same ▸ right)
                · exact .inr ⟨same.trans equal, inductionHypothesis left right⟩

/-- Two texts are equal in order only when they are the same. -/
theorem compareText_eq_iff (first second : String) :
    compareText first second = .eq ↔ first = second := by
  rw [compareText, compareChars_eq_iff, String.toList_inj]

/-- The order of two texts turns with their places. -/
theorem compareText_swap (first second : String) :
    (compareText first second).swap = compareText second first :=
  compareChars_swap _ _

/-- A text before a second one comes before all that come after the second. -/
theorem compareText_trans {first second third : String}
    (left : compareText first second = .lt) (right : compareText second third = .lt) :
    compareText first third = .lt :=
  compareChars_trans left right

/-- A text does not come before itself. -/
theorem compareText_irrefl (text : String) : compareText text text ≠ .lt := by
  rw [(compareText_eq_iff text text).mpr rfl]
  exact Ordering.noConfusion

/-- A text that comes after another has the other before it. -/
theorem compareText_gt_iff (first second : String) :
    compareText first second = .gt ↔ compareText second first = .lt := by
  rw [← compareText_swap second first]
  cases compareText second first <;> decide

/-- The order of texts is a total order. -/
instance : Std.TransCmp compareText where
  eq_swap {first second} := (compareText_swap second first).symm
  isLE_trans {first second third} left right := by
    rw [Ordering.isLE_iff_eq_lt_or_eq_eq] at left right ⊢
    obtain less | same := left
    · obtain more | equal := right
      · exact .inl (compareText_trans less more)
      · rw [(compareText_eq_iff _ _).mp equal] at less
        exact .inl less
    · rw [(compareText_eq_iff _ _).mp same]
      exact right

/-- Elements that are compared by a text are in a total order, up to those of one text. -/
instance {Element : Type} (text : Element → String) :
    Std.TransCmp fun first second : Element => compareText (text first) (text second) where
  eq_swap := Std.OrientedCmp.eq_swap
  isLE_trans := Std.TransCmp.isLE_trans

namespace Keyed

variable {α β : Type}

/-- The records stand in the order of their keys, so that no key stands twice. -/
def Ordered (records : Keyed α) : Prop :=
  records.Pairwise fun first second => compareText first.1 second.1 = .lt

/-- A record put under a key answers for the key, and the others answer as before. -/
theorem get?_insert (records : Keyed α) (key other : String) (value : α) :
    (records.insert key value).get? other =
      if key = other then some value else records.get? other := by
  induction records with
  | nil => rfl
  | cons record rest inductionHypothesis =>
      rcases record with ⟨present, old⟩
      unfold insert
      split
      · rfl
      · rename_i same
        rw [compareText_eq_iff] at same
        subst same
        simp only [get?]
        split <;> rfl
      · rename_i after
        simp only [get?, inductionHypothesis]
        by_cases first : present = other
        · have different : key ≠ other := by
            intro same
            rw [same, ← first, (compareText_eq_iff present present).mpr rfl] at after
            exact Ordering.noConfusion after
          simp [first, different]
        · simp [first]

/-- A change under one key is seen under that key only. -/
theorem get?_modify (records : Keyed α) (key other : String) (change : α → α) :
    (records.modify key change).get? other =
      if key = other then (records.get? other).map change else records.get? other := by
  induction records with
  | nil => simp [modify, get?]
  | cons record rest inductionHypothesis =>
      rcases record with ⟨present, value⟩
      by_cases same : present = key
      · subst same
        by_cases equal : present = other <;> simp [modify, get?, equal]
      · by_cases equal : present = other
        · subst equal
          simp [modify, get?, same, Ne.symm same]
        · simp [modify, get?, same, equal, inductionHypothesis]

/-- A change of every value is seen under every key. -/
theorem get?_mapValues (records : Keyed α) (change : α → β) (key : String) :
    (records.mapValues change).get? key = (records.get? key).map change := by
  induction records with
  | nil => rfl
  | cons record rest inductionHypothesis =>
      rcases record with ⟨present, value⟩
      by_cases same : present = key
      · simp [mapValues, get?, same]
      · simpa [mapValues, get?, same] using inductionHypothesis

/-- What answers for a key stands among the records. -/
theorem mem_of_get? {records : Keyed α} {key : String} {value : α}
    (found : records.get? key = some value) : (key, value) ∈ records := by
  induction records with
  | nil => cases found
  | cons record rest inductionHypothesis =>
      rcases record with ⟨present, old⟩
      rw [get?] at found
      split at found
      · rename_i same
        cases found
        rw [same]
        exact List.mem_cons_self
      · exact List.mem_cons_of_mem _ (inductionHypothesis found)

theorem get?_of_mem {records : Keyed α} (ordered : records.Ordered) {key : String} {value : α}
    (present : (key, value) ∈ records) : records.get? key = some value := by
  induction records with
  | nil => cases present
  | cons record rest inductionHypothesis =>
      rcases record with ⟨head, first⟩
      rcases List.pairwise_cons.mp ordered with ⟨before, tail⟩
      rcases List.mem_cons.mp present with same | later
      · cases same
        simp [get?]
      · have different : head ≠ key := by
          intro same
          have less : compareText head key = .lt := before _ later
          exact compareText_irrefl key (same ▸ less)
        simp only [get?, different, if_false]
        exact inductionHypothesis tail later

/-- A value of ordered records stands under a key that it answers for. -/
theorem exists_get?_of_mem_values {records : Keyed α} (ordered : records.Ordered) {value : α}
    (present : value ∈ records.values) : ∃ key, records.get? key = some value := by
  rcases List.mem_map.mp present with ⟨record, found, rfl⟩
  exact ⟨record.1, get?_of_mem ordered found⟩

/-- The values of ordered records of which each has its key as its name have different names. -/
theorem pairwise_values {records : Keyed α} (ordered : records.Ordered) {name : α → String}
    (named : ∀ {key value}, records.get? key = some value → name value = key) :
    records.values.Pairwise fun first second => name first ≠ name second := by
  rw [values, List.pairwise_map]
  refine List.Pairwise.imp_of_mem ?_ ordered
  intro first second left right less
  rw [named (get?_of_mem ordered left), named (get?_of_mem ordered right)]
  intro same
  exact compareText_irrefl second.1 (same ▸ less)

/-- Of ordered records of which each has its key as its name no two have one name. -/
theorem eq_of_name_eq {records : Keyed α} (ordered : records.Ordered) {name : α → String}
    (named : ∀ {key value}, records.get? key = some value → name value = key) {first second : α}
    (left : first ∈ records.values) (right : second ∈ records.values)
    (same : name first = name second) : first = second := by
  obtain ⟨key, found⟩ := exists_get?_of_mem_values ordered left
  obtain ⟨other, present⟩ := exists_get?_of_mem_values ordered right
  rw [← named found, same, named present, present] at found
  exact (Option.some.inj found).symm

theorem mem_values_of_get? {records : Keyed α} {key : String} {value : α}
    (found : records.get? key = some value) : value ∈ records.values :=
  List.mem_map.mpr ⟨(key, value), mem_of_get? found, rfl⟩

/-- The keys are those for which there is an answer. -/
theorem mem_keys_iff (records : Keyed α) (key : String) :
    key ∈ records.keys ↔ (records.get? key).isSome := by
  induction records with
  | nil => simp [keys, get?]
  | cons record rest inductionHypothesis =>
      rcases record with ⟨present, value⟩
      by_cases same : present = key
      · simp [keys, get?, same]
      · simpa [keys, get?, same, Ne.symm same] using inductionHypothesis

/-- A record put under a key adds no other. -/
theorem mem_insert {records : Keyed α} {key : String} {value : α} {record : String × α}
    (present : record ∈ records.insert key value) : record = (key, value) ∨ record ∈ records := by
  induction records with
  | nil => exact .inl (List.mem_singleton.mp present)
  | cons head rest inductionHypothesis =>
      rcases head with ⟨other, old⟩
      unfold insert at present
      split at present
      · exact List.mem_cons.mp present
      · rcases List.mem_cons.mp present with same | later
        · exact .inl same
        · exact .inr (List.mem_cons_of_mem _ later)
      · rcases List.mem_cons.mp present with same | later
        · exact .inr (same ▸ List.mem_cons_self)
        · exact (inductionHypothesis later).imp_right (List.mem_cons_of_mem _)

/-- No records are in order. -/
theorem ordered_nil : Ordered ([] : Keyed α) := List.Pairwise.nil

/-- Ordered records stay so when one is put under a key. -/
theorem ordered_insert {records : Keyed α} (ordered : records.Ordered) (key : String) (value : α) :
    (records.insert key value).Ordered := by
  induction records with
  | nil => exact List.pairwise_singleton _ _
  | cons record rest inductionHypothesis =>
      rcases record with ⟨other, old⟩
      rcases List.pairwise_cons.mp ordered with ⟨before, tail⟩
      unfold insert
      split
      · rename_i less
        refine List.pairwise_cons.mpr ⟨?_, ordered⟩
        intro later present
        rcases List.mem_cons.mp present with same | found
        · exact same ▸ less
        · exact compareText_trans less (before later found)
      · rename_i same
        rw [compareText_eq_iff] at same
        subst same
        exact List.pairwise_cons.mpr ⟨before, tail⟩
      · rename_i greater
        refine List.pairwise_cons.mpr ⟨?_, inductionHypothesis tail⟩
        intro later present
        rcases mem_insert present with same | found
        · exact same ▸ (compareText_gt_iff _ _).mp greater
        · exact before later found

/-- A change under a key leaves the keys as they are. -/
theorem keys_modify (records : Keyed α) (key : String) (change : α → α) :
    (records.modify key change).keys = records.keys := by
  induction records with
  | nil => rfl
  | cons record rest inductionHypothesis =>
      rcases record with ⟨other, value⟩
      by_cases same : other = key
      · simp [modify, keys, same]
      · simpa [modify, keys, same] using inductionHypothesis

/-- A change of every value leaves the keys as they are. -/
theorem keys_mapValues (records : Keyed α) (change : α → β) :
    (records.mapValues change).keys = records.keys := by
  simp [keys, mapValues, Function.comp_def]

/-- Whether records are in order is known by their keys. -/
theorem ordered_iff_keys (records : Keyed α) :
    records.Ordered ↔ records.keys.Pairwise fun first second => compareText first second = .lt := by
  rw [keys, List.pairwise_map]
  rfl

/-- Ordered records stay so when the value under a key is changed. -/
theorem ordered_modify {records : Keyed α} (ordered : records.Ordered) (key : String)
    (change : α → α) : (records.modify key change).Ordered := by
  rw [ordered_iff_keys, keys_modify]
  exact (ordered_iff_keys records).mp ordered

/-- Ordered records stay so when every value is changed. -/
theorem ordered_mapValues {records : Keyed α} (ordered : records.Ordered) (change : α → β) :
    (records.mapValues change).Ordered := by
  rw [ordered_iff_keys, keys_mapValues]
  exact (ordered_iff_keys records).mp ordered

/-- Ordered records that answer alike for every key are the same. -/
theorem ext_get? {first second : Keyed α} (ordered : first.Ordered) (other : second.Ordered)
    (same : ∀ key, first.get? key = second.get? key) : first = second := by
  have member : ∀ record, record ∈ first ↔ record ∈ second := by
    rintro ⟨key, value⟩
    constructor
    · intro present
      exact mem_of_get? ((same key).symm.trans (get?_of_mem ordered present))
    · intro present
      exact mem_of_get? ((same key).trans (get?_of_mem other present))
  have distinct : ∀ {records : Keyed α}, records.Ordered → records.Nodup := by
    intro records sorted
    refine sorted.imp ?_
    rintro left right less rfl
    exact compareText_irrefl _ less
  have permuted := (List.perm_ext_iff_of_nodup (distinct ordered) (distinct other)).mpr member
  refine permuted.eq_of_pairwise ?_ ordered other
  intro left right _ _ less more
  exact absurd (compareText_trans less more) (compareText_irrefl _)

/-- Ordered records stay the same when a value is put where it is. -/
theorem insert_of_get? {records : Keyed α} (ordered : records.Ordered) {key : String} {value : α}
    (found : records.get? key = some value) : records.insert key value = records := by
  refine ext_get? (ordered_insert ordered _ _) ordered fun other => ?_
  rw [get?_insert]
  split
  · rename_i same
    rw [← same, found]
  · rfl

/-- A value that is put in place of the one under a key is a change of that one. -/
theorem insert_eq_modify {records : Keyed α} (ordered : records.Ordered) {key : String} {value : α}
    (found : records.get? key = some value) (change : α → α) :
    records.insert key (change value) = records.modify key change := by
  refine ext_get? (ordered_insert ordered _ _) (ordered_modify ordered _ _) fun other => ?_
  rw [get?_insert, get?_modify]
  split
  · rename_i same
    rw [← same, found]
    rfl
  · rfl

/-- Of two values that are put under one key the later stays. -/
theorem insert_insert {records : Keyed α} (ordered : records.Ordered) (key : String)
    (first second : α) :
    (records.insert key first).insert key second = records.insert key second := by
  refine ext_get? (ordered_insert (ordered_insert ordered _ _) _ _) (ordered_insert ordered _ _)
    fun other => ?_
  simp only [get?_insert]
  split <;> rfl

/-- Values under different keys may be put there in either order. -/
theorem insert_comm {records : Keyed α} (ordered : records.Ordered) {key other : String}
    (different : key ≠ other) (first second : α) :
    (records.insert key first).insert other second =
      (records.insert other second).insert key first := by
  refine ext_get? (ordered_insert (ordered_insert ordered _ _) _ _)
    (ordered_insert (ordered_insert ordered _ _) _ _) fun place => ?_
  simp only [get?_insert]
  by_cases here : key = place
  · rw [if_pos here, if_pos here, if_neg fun there => different (here.trans there.symm)]
  · rw [if_neg here, if_neg here]

end Keyed

/-- An element that takes its place in an order is one more element. -/
theorem perm_insertStable {Element : Type} (order : Element → Element → Ordering)
    (element : Element) (sorted : List Element) :
    (insertStable order element sorted).Perm (element :: sorted) := by
  induction sorted with
  | nil => exact .refl _
  | cons head rest inductionHypothesis =>
      unfold insertStable
      split
      · exact .refl _
      · exact (inductionHypothesis.cons head).trans (.swap element head rest)

/-- An element takes its place in an order. -/
theorem mem_insertStable {Element : Type} (order : Element → Element → Ordering)
    (element other : Element) (sorted : List Element) :
    other ∈ insertStable order element sorted ↔ other = element ∨ other ∈ sorted := by
  rw [(perm_insertStable order element sorted).mem_iff, List.mem_cons]

/-- Elements in order are the same elements, each as often as before. -/
theorem perm_sortStable {Element : Type} (order : Element → Element → Ordering)
    (elements : List Element) : (sortStable order elements).Perm elements := by
  have grows : ∀ sorted : List Element,
      (elements.foldl (fun sorted next => insertStable order next sorted) sorted).Perm
        (elements ++ sorted) := by
    induction elements with
    | nil => exact fun sorted => .refl sorted
    | cons head rest inductionHypothesis =>
        intro sorted
        have inserted := (perm_insertStable order head sorted).append_left rest
        exact (inductionHypothesis _).trans (inserted.trans List.perm_middle)
  simpa [sortStable] using grows []

theorem mem_sortStable {Element : Type} (order : Element → Element → Ordering)
    (element : Element) (elements : List Element) :
    element ∈ sortStable order elements ↔ element ∈ elements :=
  (perm_sortStable order elements).mem_iff

/-- An element that takes its place in an order leaves the order as it is. -/
theorem pairwise_insertStable {Element : Type} {order : Element → Element → Ordering}
    [Std.TransCmp order] (element : Element) {sorted : List Element}
    (ordered : sorted.Pairwise fun first second => (order first second).isLE) :
    (insertStable order element sorted).Pairwise fun first second =>
      (order first second).isLE := by
  induction sorted with
  | nil => exact List.pairwise_singleton _ _
  | cons head rest inductionHypothesis =>
      obtain ⟨before, tail⟩ := List.pairwise_cons.mp ordered
      unfold insertStable
      split
      · rename_i less
        have below : (order element head).isLE := by rw [less]; rfl
        refine List.pairwise_cons.mpr ⟨?_, ordered⟩
        intro later present
        obtain rfl | found := List.mem_cons.mp present
        · exact below
        · exact Std.TransCmp.isLE_trans below (before later found)
      · rename_i greater
        refine List.pairwise_cons.mpr ⟨?_, inductionHypothesis tail⟩
        intro later present
        obtain rfl | found := (mem_insertStable order element later rest).mp present
        · rw [← Std.OrientedCmp.isGE_iff_isLE]
          cases compared : order later head <;> simp_all
        · exact before later found

/-- Elements that were sorted stand in order. -/
theorem pairwise_sortStable {Element : Type} {order : Element → Element → Ordering}
    [Std.TransCmp order] (elements : List Element) :
    (sortStable order elements).Pairwise fun first second => (order first second).isLE :=
  List.foldlRecOn
    (motive := fun sorted : List Element => sorted.Pairwise fun first second =>
      (order first second).isLE)
    elements _ .nil fun _ ordered element _ => pairwise_insertStable element ordered

end SchemaDrift
