import SchemaDrift.Proofs.Inference.Merging

namespace SchemaDrift

open Observation LogicalType

namespace InferredColumn

/-- What the type of a column holds after observations: it is one of the specific types that were
observed, and of those of its family it holds all that do not lie apart from it. -/
structure Fits (column : InferredColumn) (observations : List Observation) : Prop where
  observed : specifics observations ≠ [] →
    ∃ observation ∈ specifics observations, observation.1 = column.bestType
  held : ∀ observation ∈ specifics observations, observation.1.family = column.bestType.family →
    column.bestType.Holds observation.1 ∨ Apart column.bestType observation.1

namespace Fits

variable {column : InferredColumn} {observations : List Observation} {type : LogicalType}

/-- What is no specific type changes nothing. -/
theorem observe_plain (fits : column.Fits observations) (knows : column.Knows observations)
    (plain : type.isSpecific = false) (site : Location) :
    (column.observe type site).Fits (observations ++ [(type, site)]) := by
  have same := specifics_concat_plain plain observations site
  have kept : specifics observations ≠ [] →
      (column.observe type site).bestType = column.bestType := by
    intro some
    by_cases known : type = .unknown
    · rw [known, InferredColumn.observe_unknown]
    · have kept := merge_specific_text (knows.isSpecific_iff.mpr some) (isText_of_plain plain known)
      exact (observe_keep known kept site).1
  constructor
  · intro some
    rw [same] at some ⊢
    rw [kept some]
    exact fits.observed some
  · intro observation present
    rw [same] at present
    rw [kept (List.ne_nil_of_mem present)]
    exact fits.held observation present

/-- The type of a column fits one more specific type when it is that type or one observed before,
and those of its family, old and new, are held or lie apart. -/
theorem concat (specific : type.isSpecific = true) (site : Location)
    (observed : column.bestType = type ∨
      ∃ observation ∈ specifics observations, observation.1 = column.bestType)
    (old : ∀ observation ∈ specifics observations,
      observation.1.family = column.bestType.family →
        column.bestType.Holds observation.1 ∨ Apart column.bestType observation.1)
    (new : type.family = column.bestType.family →
      column.bestType.Holds type ∨ Apart column.bestType type) :
    column.Fits (observations ++ [(type, site)]) := by
  constructor
  · intro _
    rw [specifics_concat specific]
    obtain same | ⟨observation, present, same⟩ := observed
    · exact ⟨_, List.mem_append_right _ (List.mem_singleton_self _), same.symm⟩
    · exact ⟨observation, List.mem_append_left _ present, same⟩
  · intro observation present
    rw [specifics_concat specific, List.mem_append, List.mem_singleton] at present
    obtain earlier | rfl := present
    · exact old observation earlier
    · exact new

/-- A specific type that a column observes leaves its best type one that fits: what it held it holds
still, and the new one is held, lies apart or is of another family. -/
theorem observe_specific (fits : column.Fits observations) (knows : column.Knows observations)
    (specific : type.isSpecific = true) (site : Location) :
    (column.observe type site).Fits (observations ++ [(type, site)]) := by
  have known : type ≠ .unknown := ((LogicalType.isSpecific_iff type).mp specific).1
  by_cases none : specifics observations = []
  · obtain ⟨now, _⟩ := observe_adopt known (knows.merge_first none specific) site
    refine concat specific site (.inl now) (by simp [none]) fun _ => ?_
    rw [now]
    exact .inl (widen_self type)
  · have typed := knows.isSpecific_iff.mpr none
    have before := fits.observed none
    obtain ⟨widened, made, adopted⟩ | ⟨unmade, same, kept⟩ | ⟨other, disputed⟩ :=
      merge_specific typed specific
    · obtain ⟨now, _⟩ := observe_adopt known adopted site
      have family := (widen_family made).1
      refine concat specific site ?_ ?_ ?_ <;> rw [now]
      · obtain ⟨rfl, _⟩ | ⟨rfl, _⟩ := (widen_eq_some_iff typed).mp made
        · exact .inr before
        · exact .inl rfl
      · intro observation present same
        obtain holds | apart := fits.held observation present (same.trans family)
        · exact .inl (holds.widen typed made)
        · exact apart.widen made
      · exact fun _ => .inl (holds_of_widen typed made)
    · obtain ⟨now, _⟩ := observe_keep known kept site
      have apart := apart_iff.mpr ⟨typed, same.symm, unmade⟩
      refine concat specific site ?_ ?_ ?_ <;> rw [now]
      · exact .inr before
      · exact fits.held
      · exact fun _ => .inr apart
    · obtain ⟨now, _⟩ := observe_conflict known disputed site
      refine concat specific site ?_ ?_ ?_ <;> rw [now]
      · exact .inr before
      · exact fits.held
      · exact fun same => absurd same other

end Fits

/-- After a run of observations the type of a column fits them. -/
theorem fits_observeAll (name : String) (observations : List Observation) :
    ((named name).observeAll observations).Fits observations := by
  induction observations using List.reverseRecOn with
  | nil => exact ⟨by simp [specifics], by simp [specifics]⟩
  | append_singleton observations observation inductionHypothesis =>
      have knows := knows_observeAll name observations
      rw [observeAll_concat]
      by_cases specific : observation.1.isSpecific = true
      · exact inductionHypothesis.observe_specific knows specific observation.2
      · exact inductionHypothesis.observe_plain knows (Bool.not_eq_true _ ▸ specific) observation.2

/-- A specific type that nothing disputes holds every type that was observed, except for the
decimals and arrays that lie apart from it; so it holds them all unless two of them lie apart and
no floating number was observed. -/
theorem holds_observeAll (name : String) (observations : List Observation)
    (calm : ((named name).observeAll observations).conflict = false)
    (typed : ((named name).observeAll observations).bestType.isSpecific = true) :
    (∀ observation ∈ specifics observations,
      ((named name).observeAll observations).bestType.Holds observation.1 ∨
        Apart ((named name).observeAll observations).bestType observation.1) ∧
      ((∀ observation ∈ specifics observations,
          ((named name).observeAll observations).bestType.Holds observation.1) ↔
        ∀ first ∈ specifics observations, ∀ second ∈ specifics observations,
          Apart first.1 second.1 → ∃ third ∈ specifics observations, third.1 = .float) ∧
      ∀ first ∈ specifics observations, ∀ second ∈ specifics observations,
        first.1.widen second.1 = none → Apart first.1 second.1 := by
  have knows := knows_observeAll name observations
  have fits := fits_observeAll name observations
  have alike : ∀ observation ∈ specifics observations, observation.1.family =
      ((named name).observeAll observations).bestType.family := by
    intro observation present
    by_contra other
    exact Bool.false_ne_true (calm.symm.trans (knows.disputed.mpr ⟨observation, present, other⟩))
  have held : ∀ observation ∈ specifics observations,
      ((named name).observeAll observations).bestType.Holds observation.1 ∨
        Apart ((named name).observeAll observations).bestType observation.1 :=
    fun observation present => fits.held observation present (alike observation present)
  refine ⟨held, ⟨?_, ?_⟩, ?_⟩
  · intro all first firstPresent second secondPresent apart
    obtain ⟨third, present, same⟩ := fits.observed (List.ne_nil_of_mem firstPresent)
    exact ⟨third, present, same.trans
      (apart.eq_float typed (all first firstPresent) (all second secondPresent))⟩
  · intro floats observation present
    refine (held observation present).resolve_right fun apart => ?_
    obtain ⟨best, bestPresent, same⟩ := fits.observed (List.ne_nil_of_mem present)
    obtain ⟨third, thirdPresent, float⟩ :=
      floats best bestPresent observation present (same ▸ apart)
    have related := held third thirdPresent
    rw [float] at related
    exact apart.not_float related
  · intro first firstPresent second secondPresent unmade
    exact apart_iff.mpr ⟨(List.mem_filter.mp firstPresent).2,
      (alike first firstPresent).trans (alike second secondPresent).symm, unmade⟩

/-- The conditions are met where dates and times of two places were observed. -/
theorem holds_observeAll_timestamp :
    (((named "seen_at").observeAll [(.date, ⟨"app.py", 1, none⟩),
        (.timestamp, ⟨"app.py", 2, none⟩)]).bestType.Holds .date ∧
      ((named "seen_at").observeAll [(.date, ⟨"app.py", 1, none⟩),
        (.timestamp, ⟨"app.py", 2, none⟩)]).bestType.Holds .timestamp) := by
  have holds := (holds_observeAll "seen_at" [(.date, ⟨"app.py", 1, none⟩),
    (.timestamp, ⟨"app.py", 2, none⟩)] (by decide) (by decide)).2.1.mpr (by decide)
  exact ⟨holds (.date, ⟨"app.py", 1, none⟩) (by decide),
    holds (.timestamp, ⟨"app.py", 2, none⟩) (by decide)⟩

/-- A decimal that does not fit the one observed first goes unnoticed: nothing disputes the type,
and it is proposed. -/
theorem not_forall_holds_observeAll :
    ((named "total").observeAll [(.decimal (some 5) (some 2), ⟨"app.py", 1, none⟩),
        (.decimal (some 20) (some 4), ⟨"app.py", 2, none⟩)]).proposedType 2 =
        some (.decimal (some 5) (some 2)) ∧
      ¬ ∀ (name : String) (observations : List Observation),
        ((named name).observeAll observations).conflict = false →
        ((named name).observeAll observations).bestType.isSpecific = true →
        ∀ observation ∈ specifics observations,
          ((named name).observeAll observations).bestType.widen observation.1 =
            some ((named name).observeAll observations).bestType := by
  refine ⟨by decide, fun all => ?_⟩
  have held := all "total" [(.decimal (some 5) (some 2), ⟨"app.py", 1, none⟩),
    (.decimal (some 20) (some 4), ⟨"app.py", 2, none⟩)] (by decide) (by decide)
    (.decimal (some 20) (some 4), ⟨"app.py", 2, none⟩) (by decide)
  exact absurd held (by decide)

end InferredColumn

end SchemaDrift
