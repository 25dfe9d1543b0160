import SchemaDrift.Inference.Column
import SchemaDrift.Proofs.Location
import SchemaDrift.Proofs.LogicalType.Widening

namespace SchemaDrift

namespace LogicalType

theorem merge_unknown (candidate : LogicalType) :
    merge .unknown candidate = .adopt candidate := by
  rw [merge, if_pos rfl]

theorem merge_text {best candidate : LogicalType} (text : best.isText = true)
    (other : candidate.isText = true) :
    ∃ wider, best.merge candidate = .adopt wider ∧ wider.isText = true := by
  have known : best ≠ .unknown := by rintro rfl; cases text
  refine ⟨best.widenText candidate, by simp [merge, known, text, other], ?_⟩
  unfold widenText
  split <;> rfl

/-- A specific candidate takes the place of text. -/
theorem merge_text_specific {best candidate : LogicalType} (text : best.isText = true)
    (specific : candidate.isSpecific = true) : best.merge candidate = .adopt candidate := by
  have known : best ≠ .unknown := by rintro rfl; cases text
  simp [merge, known, text, ((isSpecific_iff candidate).mp specific).2]

theorem merge_specific_text {best candidate : LogicalType} (specific : best.isSpecific = true)
    (text : candidate.isText = true) : best.merge candidate = .keep := by
  obtain ⟨known, plain⟩ := (isSpecific_iff best).mp specific
  simp [merge, known, plain, text]

/-- A specific candidate widens a specific type, leaves it as it is, or disputes it; it disputes
the types of all other families. -/
theorem merge_specific {best candidate : LogicalType} (specific : best.isSpecific = true)
    (other : candidate.isSpecific = true) :
    (∃ widened, best.widen candidate = some widened ∧ best.merge candidate = .adopt widened) ∨
      (best.widen candidate = none ∧ candidate.family = best.family ∧
        best.merge candidate = .keep) ∨
      (candidate.family ≠ best.family ∧ best.merge candidate = .conflict) := by
  obtain ⟨known, plain⟩ := (isSpecific_iff best).mp specific
  obtain ⟨present, unworded⟩ := (isSpecific_iff candidate).mp other
  cases made : best.widen candidate with
  | some widened => exact .inl ⟨widened, rfl, by simp [merge, known, plain, unworded, made]⟩
  | none =>
      by_cases same : candidate.family = best.family
      · have compatible := (isCompatibleWith_iff known present).mpr same.symm
        exact .inr (.inl ⟨rfl, same, by simp [merge, known, plain, unworded, made, compatible]⟩)
      · have disputed := mt (isCompatibleWith_iff known present).mp (Ne.symm same)
        exact .inr (.inr ⟨same, by simp [merge, known, plain, unworded, made, disputed]⟩)

end LogicalType

/-- A type that spoke for a column, with the place where it did. -/
abbrev Observation := LogicalType × Location

namespace Observation

/-- The observations that say something: those of a known type. -/
def candidates (observations : List Observation) : List Observation :=
  observations.filter (·.1 != .unknown)

def specifics (observations : List Observation) : List Observation :=
  observations.filter (·.1.isSpecific)

/-- The specific candidates of a family. -/
def ofFamily (family : LogicalType.Family) (observations : List Observation) : List Observation :=
  (specifics observations).filter (·.1.family == family)

/-- The number of different places of observations. -/
def placeCount (observations : List Observation) : Nat :=
  (observations.map Prod.snd).toFinset.card

theorem candidates_concat {type : LogicalType} (known : type ≠ .unknown)
    (observations : List Observation) (site : Location) :
    candidates (observations ++ [(type, site)]) = candidates observations ++ [(type, site)] := by
  simp [candidates, known]

/-- A specific type is one more specific candidate. -/
theorem specifics_concat {type : LogicalType} (specific : type.isSpecific = true)
    (observations : List Observation) (site : Location) :
    specifics (observations ++ [(type, site)]) = specifics observations ++ [(type, site)] := by
  simp [specifics, specific]

/-- What is no specific type adds no specific candidate. -/
theorem specifics_concat_plain {type : LogicalType} (plain : type.isSpecific = false)
    (observations : List Observation) (site : Location) :
    specifics (observations ++ [(type, site)]) = specifics observations := by
  simp [specifics, plain]

/-- Observations in another order have as many different places. -/
theorem placeCount_perm {first second : List Observation} (same : first.Perm second) :
    placeCount first = placeCount second := by
  rw [placeCount, placeCount, List.toFinset_eq_of_perm _ _ (same.map Prod.snd)]

end Observation

open Observation

namespace InferredColumn

def observeAll (column : InferredColumn) (observations : List Observation) : InferredColumn :=
  observations.foldl (fun column observation => column.observe observation.1 observation.2) column

/-- The column after one more observation. -/
theorem observeAll_concat (column : InferredColumn) (observations : List Observation)
    (observation : Observation) :
    column.observeAll (observations ++ [observation]) =
      (column.observeAll observations).observe observation.1 observation.2 := by
  rw [observeAll, List.foldl_append]
  rfl

/-- An unknown type says nothing. -/
theorem observe_unknown (column : InferredColumn) (site : Location) :
    column.observe .unknown site = column := by
  rw [observe, if_pos rfl]

/-- A known type becomes a candidate, and the evidence is counted again. -/
theorem observe_known (column : InferredColumn) {type : LogicalType} (known : type ≠ .unknown)
    (site : Location) :
    (column.observe type site).candidates = column.candidates ++ [(type, site)] ∧
      (column.observe type site).evidenceCount =
        (column.observe type site).supportingSites.length := by
  rw [observe, if_neg known]
  refine ⟨?_, rfl⟩
  simp only [recount]
  cases column.bestType.merge type <;> rfl

theorem observe_adopt {column : InferredColumn} {type best : LogicalType} (known : type ≠ .unknown)
    (adopted : column.bestType.merge type = .adopt best) (site : Location) :
    (column.observe type site).bestType = best ∧
      (column.observe type site).conflict = column.conflict := by
  rw [observe, if_neg known]
  simp only [adopted]
  exact ⟨rfl, rfl⟩

/-- A type that changes nothing leaves the best type as it is. -/
theorem observe_keep {column : InferredColumn} {type : LogicalType} (known : type ≠ .unknown)
    (kept : column.bestType.merge type = .keep) (site : Location) :
    (column.observe type site).bestType = column.bestType ∧
      (column.observe type site).conflict = column.conflict := by
  rw [observe, if_neg known]
  simp only [kept]
  exact ⟨rfl, rfl⟩

theorem observe_conflict {column : InferredColumn} {type : LogicalType} (known : type ≠ .unknown)
    (disputed : column.bestType.merge type = .conflict) (site : Location) :
    (column.observe type site).bestType = column.bestType ∧
      (column.observe type site).conflict = true := by
  rw [observe, if_neg known]
  simp only [disputed]
  exact ⟨rfl, rfl⟩

/-- What a column knows after observations: its candidates are theirs, and its best type is unknown,
text, or of the family of the first specific candidate; specific candidates of another family
dispute it. -/
structure Knows (column : InferredColumn) (observations : List Observation) : Prop where
  listed : column.candidates = Observation.candidates observations
  counted : column.evidenceCount = column.supportingSites.length
  blank : Observation.candidates observations = [] → column.bestType = .unknown
  text : Observation.candidates observations ≠ [] → specifics observations = [] →
    column.bestType.isText = true
  specific : ∀ first ∈ (specifics observations).head?,
    column.bestType.isSpecific = true ∧ column.bestType.family = first.1.family
  disputed : column.conflict = true ↔
    ∃ observation ∈ specifics observations, observation.1.family ≠ column.bestType.family

/-- A new column knows nothing. -/
theorem knows_named (name : String) : (named name).Knows [] where
  listed := rfl
  counted := rfl
  blank _ := rfl
  text some := absurd rfl some
  specific first found := by cases found
  disputed := by simp [specifics, named]

namespace Knows

variable {column : InferredColumn} {observations : List Observation} {type : LogicalType}

/-- Before the first specific candidate the best type is unknown or text, without a dispute. -/
theorem open_of_specifics_nil (knows : column.Knows observations)
    (none : specifics observations = []) :
    (column.bestType = .unknown ∨ column.bestType.isText = true) ∧ column.conflict = false := by
  constructor
  · by_cases empty : Observation.candidates observations = []
    · exact .inl (knows.blank empty)
    · exact .inr (knows.text empty none)
  · rw [← Bool.not_eq_true, knows.disputed, none]
    simp

theorem merge_first (knows : column.Knows observations) (none : specifics observations = [])
    (specific : type.isSpecific = true) : column.bestType.merge type = .adopt type := by
  obtain fresh | worded := (knows.open_of_specifics_nil none).1
  · rw [fresh, LogicalType.merge_unknown]
  · exact LogicalType.merge_text_specific worded specific

/-- An unknown type changes nothing. -/
theorem observe_unknown (knows : column.Knows observations) (site : Location) :
    (column.observe .unknown site).Knows (observations ++ [(.unknown, site)]) := by
  have candidates : Observation.candidates (observations ++ [(.unknown, site)]) =
      Observation.candidates observations := by
    simp [Observation.candidates]
  have plain : LogicalType.unknown.isSpecific = false := rfl
  have specifics := specifics_concat_plain plain observations site
  rw [InferredColumn.observe_unknown]
  exact ⟨candidates ▸ knows.listed, knows.counted, candidates ▸ knows.blank,
    candidates ▸ specifics ▸ knows.text, specifics ▸ knows.specific, specifics ▸ knows.disputed⟩

/-- Text is the best type until a specific one is met, and leaves that as it is. -/
theorem observe_text (knows : column.Knows observations) (text : type.isText = true)
    (site : Location) : (column.observe type site).Knows (observations ++ [(type, site)]) := by
  have known : type ≠ .unknown := by rintro rfl; cases text
  have plain : type.isSpecific = false := by
    rw [← Bool.not_eq_true, LogicalType.isSpecific_iff, text]
    simp
  have candidates := candidates_concat known observations site
  have specifics := specifics_concat_plain plain observations site
  obtain ⟨listed, counted⟩ := observe_known column known site
  have settled : (Observation.specifics observations = [] →
        (column.observe type site).bestType.isText = true) ∧
      (∀ first ∈ (Observation.specifics observations).head?,
        (column.observe type site).bestType = column.bestType) ∧
      (column.observe type site).conflict = column.conflict := by
    cases held : Observation.specifics observations with
    | nil =>
        have adopted : ∃ wider, column.bestType.merge type = .adopt wider ∧
            wider.isText = true := by
          obtain fresh | worded := (knows.open_of_specifics_nil held).1
          · exact ⟨type, by rw [fresh, LogicalType.merge_unknown], text⟩
          · exact LogicalType.merge_text worded text
        obtain ⟨wider, adopted, worded⟩ := adopted
        obtain ⟨best, conflict⟩ := observe_adopt known adopted site
        exact ⟨fun _ => best ▸ worded, by simp, conflict⟩
    | cons first rest =>
        have specific := (knows.specific first (by simp [held])).1
        obtain ⟨best, conflict⟩ :=
          observe_keep known (LogicalType.merge_specific_text specific text) site
        exact ⟨by simp, fun _ _ => best, conflict⟩
  obtain ⟨worded, kept, conflict⟩ := settled
  constructor
  case listed => rw [listed, knows.listed, candidates]
  case counted => exact counted
  case blank => simp [candidates]
  case text => exact fun _ none => worded (specifics ▸ none)
  case specific =>
    intro first found
    rw [specifics] at found
    rw [kept first found]
    exact knows.specific first found
  case disputed =>
    rw [conflict, specifics, knows.disputed]
    cases held : Observation.specifics observations with
    | nil => simp
    | cons first rest => rw [kept first (by simp [held])]

/-- The first specific candidate is the best type, and later ones keep its family. -/
theorem observe_specific (knows : column.Knows observations) (specific : type.isSpecific = true)
    (site : Location) : (column.observe type site).Knows (observations ++ [(type, site)]) := by
  have known : type ≠ .unknown := ((LogicalType.isSpecific_iff type).mp specific).1
  have candidates := candidates_concat known observations site
  have specifics := specifics_concat specific observations site
  obtain ⟨listed, counted⟩ := observe_known column known site
  have settled : (∀ first ∈ (Observation.specifics observations ++ [(type, site)]).head?,
        (column.observe type site).bestType.isSpecific = true ∧
        (column.observe type site).bestType.family = first.1.family) ∧
      ((column.observe type site).conflict = true ↔
        column.conflict = true ∨ type.family ≠ (column.observe type site).bestType.family) := by
    cases held : Observation.specifics observations with
    | nil =>
        obtain ⟨best, conflict⟩ := observe_adopt known (knows.merge_first held specific) site
        simp [best, conflict, specific]
    | cons first rest =>
        obtain ⟨typed, family⟩ := knows.specific first (by simp [held])
        obtain ⟨widened, made, adopted⟩ | ⟨_, same, kept⟩ | ⟨other, disputed⟩ :=
          LogicalType.merge_specific typed specific
        · obtain ⟨best, conflict⟩ := observe_adopt known adopted site
          obtain ⟨wide, same⟩ := LogicalType.widen_family made
          have still := LogicalType.isSpecific_of_family_eq wide typed
          simp [best, conflict, still, wide, same, family]
        · obtain ⟨best, conflict⟩ := observe_keep known kept site
          simp [best, conflict, typed, family, same]
        · obtain ⟨best, conflict⟩ := observe_conflict known disputed site
          refine ⟨by simp [best, typed, family], ?_⟩
          simp only [best, conflict, true_iff]
          exact .inr other
  obtain ⟨typed, conflict⟩ := settled
  constructor
  case listed => rw [listed, knows.listed, candidates]
  case counted => exact counted
  case blank => simp [candidates]
  case text => simp [specifics]
  case specific => rw [specifics]; exact typed
  case disputed =>
    rw [conflict, knows.disputed, specifics]
    simp only [List.mem_append, List.mem_singleton, or_and_right, exists_or, exists_eq_left]
    cases held : Observation.specifics observations with
    | nil => simp
    | cons first rest =>
        have before := (knows.specific first (by simp [held])).2
        have after := (typed first (by simp [held])).2
        rw [before, after]

/-- One observation is known, whatever its type. -/
theorem observe (knows : column.Knows observations) (type : LogicalType) (site : Location) :
    (column.observe type site).Knows (observations ++ [(type, site)]) := by
  by_cases unknown : type = .unknown
  · exact unknown ▸ knows.observe_unknown site
  · cases specific : type.isSpecific with
    | true => exact knows.observe_specific specific site
    | false => exact knows.observe_text (LogicalType.isText_of_plain specific unknown) site

/-- The type of a column is specific from the first specific candidate on. -/
theorem isSpecific_iff (knows : column.Knows observations) :
    column.bestType.isSpecific = true ↔ specifics observations ≠ [] := by
  constructor
  · intro typed none
    obtain ⟨known, plain⟩ := (LogicalType.isSpecific_iff _).mp typed
    obtain unknown | text := (knows.open_of_specifics_nil none).1
    · exact known unknown
    · exact Bool.false_ne_true (plain.symm.trans text)
  · exact fun some => (knows.specific _ (List.head?_eq_some_head some)).1

/-- The evidence is the number of places of the candidates that speak for the best type. -/
theorem evidence (knows : column.Knows observations) :
    column.evidenceCount = placeCount ((Observation.candidates observations).filter
      fun candidate => supports column.bestType candidate.1) := by
  rw [knows.counted, supportingSites, Location.length_distinct, knows.listed, placeCount]

/-- Without a specific candidate every candidate speaks for the best type. -/
theorem evidence_text (knows : column.Knows observations)
    (none : Observation.specifics observations = []) :
    column.evidenceCount = placeCount (Observation.candidates observations) := by
  rw [knows.evidence, List.filter_eq_self.mpr]
  intro candidate present
  have worded : column.bestType.isText = true :=
    knows.text (List.ne_nil_of_mem present) none
  obtain ⟨listed, known⟩ := List.mem_filter.mp present
  have plain := (Bool.not_eq_true _).mp (List.filter_eq_nil_iff.mp none candidate listed)
  rw [supports, if_pos worded]
  exact LogicalType.isText_of_plain plain (bne_iff_ne.mp known)

/-- From the first specific candidate on those of its family speak for the best type. -/
theorem evidence_specific (knows : column.Knows observations) {first : Observation}
    (found : first ∈ (specifics observations).head?) :
    column.evidenceCount = placeCount (ofFamily first.1.family observations) := by
  obtain ⟨typed, family⟩ := knows.specific first found
  obtain ⟨known, plain⟩ := (LogicalType.isSpecific_iff column.bestType).mp typed
  have same : (Observation.candidates observations).filter
      (fun candidate => supports column.bestType candidate.1) =
      ofFamily first.1.family observations := by
    rw [ofFamily, specifics, Observation.candidates, List.filter_filter, List.filter_filter]
    refine List.filter_congr fun observation _ => ?_
    rw [Bool.eq_iff_iff]
    simp only [supports, plain, Bool.false_eq_true, if_false, Bool.and_eq_true, bne_iff_ne,
      Bool.not_eq_true', beq_iff_eq, LogicalType.isSpecific_iff, ← family]
    constructor
    · rintro ⟨⟨unworded, compatible⟩, present⟩
      exact ⟨(LogicalType.isCompatibleWith_iff present known).mp compatible, present, unworded⟩
    · rintro ⟨equal, present, unworded⟩
      exact ⟨⟨unworded, (LogicalType.isCompatibleWith_iff present known).mpr equal⟩, present⟩
  rw [knows.evidence, same]

end Knows

/-- What a column knows after a run of observations is settled by what was observed. -/
theorem knows_observeAll (name : String) (observations : List Observation) :
    ((named name).observeAll observations).Knows observations := by
  induction observations using List.reverseRecOn with
  | nil => exact knows_named name
  | append_singleton observations observation inductionHypothesis =>
      rw [observeAll_concat]
      exact inductionHypothesis.observe observation.1 observation.2

/-- What observations settle about the type of a column: it is in dispute when two specific
candidates are of different families, it is text as long as no candidate is specific, and the first
specific candidate settles its family. -/
structure Merges (column : InferredColumn) (observations : List Observation) : Prop where
  disputed : column.conflict = true ↔ ∃ first ∈ specifics observations,
    ∃ second ∈ specifics observations, first.1.family ≠ second.1.family
  blank : Observation.candidates observations = [] → column.bestType = .unknown
  text : Observation.candidates observations ≠ [] → specifics observations = [] →
    column.bestType.isText = true
  textEvidence : specifics observations = [] →
    column.evidenceCount = placeCount (Observation.candidates observations)
  specific : ∀ first ∈ (specifics observations).head?, column.bestType.isSpecific = true ∧
    column.bestType.family = first.1.family ∧
    column.evidenceCount = placeCount (ofFamily first.1.family observations)

/-- Two columns agree on whether there is a type to propose, and on its family and evidence. -/
structure Agrees (first second : InferredColumn) : Prop where
  conflict : first.conflict = second.conflict
  proposes : ∀ minEvidence,
    (first.proposedType minEvidence).isSome = (second.proposedType minEvidence).isSome
  undisputed : first.conflict = false → first.bestType.family = second.bestType.family ∧
    first.evidenceCount = second.evidenceCount

theorem Knows.merges {column : InferredColumn} {observations : List Observation}
    (knows : column.Knows observations) : column.Merges observations where
  disputed := by
    rw [knows.disputed]
    constructor
    · rintro ⟨observation, present, other⟩
      have found := List.head?_eq_some_head (List.ne_nil_of_mem present)
      rw [(knows.specific _ found).2] at other
      exact ⟨observation, present, _, List.mem_of_mem_head? found, other⟩
    · rintro ⟨first, firstPresent, second, secondPresent, different⟩
      by_cases same : first.1.family = column.bestType.family
      · exact ⟨second, secondPresent, fun equal => different (same.trans equal.symm)⟩
      · exact ⟨first, firstPresent, same⟩
  blank := knows.blank
  text := knows.text
  textEvidence := knows.evidence_text
  specific first found :=
    ⟨(knows.specific first found).1, (knows.specific first found).2, knows.evidence_specific found⟩

/-- The first specific candidate of a run is the first of every longer run. -/
theorem head_specifics_append {observations later : List Observation} {first : Observation}
    (found : first ∈ (specifics observations).head?) :
    first ∈ (specifics (observations ++ later)).head? := by
  rw [specifics, List.filter_append, List.head?_append]
  exact Option.or_eq_some_iff.mpr (.inl found)

/-- A type is proposed when it is the best one, is known, is not disputed and has the evidence. -/
theorem proposedType_eq_some_iff (column : InferredColumn) (minEvidence : Nat)
    (type : LogicalType) : column.proposedType minEvidence = some type ↔
      column.bestType = type ∧ type ≠ .unknown ∧ column.conflict = false ∧
        minEvidence ≤ column.evidenceCount := by
  rw [proposedType]
  split
  · rename_i proposable
    simp only [Bool.and_eq_true, Bool.not_eq_true', bne_iff_ne, decide_eq_true_eq] at proposable
    obtain ⟨⟨calm, known⟩, enough⟩ := proposable
    rw [Option.some.injEq]
    constructor
    · rintro rfl
      exact ⟨rfl, known, calm, enough⟩
    · exact fun facts => facts.1
  · rename_i refused
    simp only [reduceCtorEq, false_iff]
    rintro ⟨rfl, known, calm, enough⟩
    simp [known, calm, enough] at refused

/-- Whether a type is proposed is known by the family of the best one. -/
theorem isSome_proposedType (column : InferredColumn) (minEvidence : Nat) :
    (column.proposedType minEvidence).isSome = true ↔ column.conflict = false ∧
      column.bestType.family ≠ .unknown ∧ minEvidence ≤ column.evidenceCount := by
  rw [Option.isSome_iff_exists, Ne, LogicalType.family_eq_unknown_iff]
  simp only [proposedType_eq_some_iff]
  exact exists_eq_left'.trans and_left_comm

/-- Columns whose disputes and, without a dispute, families and evidence are the same agree. -/
theorem agrees_of_undisputed {first second : InferredColumn}
    (conflict : first.conflict = second.conflict)
    (undisputed : first.conflict = false → first.bestType.family = second.bestType.family ∧
      first.evidenceCount = second.evidenceCount) : first.Agrees second where
  conflict := conflict
  proposes minEvidence := by
    rw [Bool.eq_iff_iff, isSome_proposedType, isSome_proposedType, ← conflict]
    refine and_congr_right fun calm => ?_
    rw [(undisputed calm).1, (undisputed calm).2]
  undisputed := undisputed

/-- Columns that know the same observations in different orders agree. -/
theorem Merges.agrees {first second : InferredColumn} {observations other : List Observation}
    (merges : first.Merges observations) (merged : second.Merges other)
    (same : observations.Perm other) : first.Agrees second := by
  have specificsSame : (specifics observations).Perm (specifics other) := same.filter _
  have candidatesSame :
    (Observation.candidates observations).Perm (Observation.candidates other) := same.filter _
  have conflict : first.conflict = second.conflict := by
    rw [Bool.eq_iff_iff, merges.disputed, merged.disputed]
    simp only [specificsSame.mem_iff]
  refine agrees_of_undisputed conflict fun calm => ?_
  cases held : specifics observations with
  | nil =>
      have none : specifics other = [] := List.nil_perm.mp (held ▸ specificsSame)
      refine ⟨?_, ?_⟩
      · by_cases empty : Observation.candidates observations = []
        · rw [merges.blank empty, merged.blank (List.nil_perm.mp (empty ▸ candidatesSame))]
        · have present : Observation.candidates other ≠ [] := fun missing =>
            empty (List.perm_nil.mp (missing ▸ candidatesSame))
          rw [(LogicalType.family_eq_text_iff _).mpr (merges.text empty held),
            (LogicalType.family_eq_text_iff _).mpr (merged.text present none)]
      · rw [merges.textEvidence held, merged.textEvidence none, placeCount_perm candidatesSame]
  | cons head rest =>
      have found : head ∈ (specifics observations).head? := by simp [held]
      obtain ⟨begin, begun⟩ : ∃ begin, begin ∈ (specifics other).head? :=
        ⟨_, List.head?_eq_some_head (List.ne_nil_of_mem
          (specificsSame.mem_iff.mp (List.mem_of_mem_head? found)))⟩
      -- No two specific candidates are of different families, so the two that come first are not.
      have family : head.1.family = begin.1.family := by
        by_contra different
        have disputed := merges.disputed.mpr ⟨head, List.mem_of_mem_head? found, begin,
          specificsSame.mem_iff.mpr (List.mem_of_mem_head? begun), different⟩
        exact Bool.false_ne_true (calm.symm.trans disputed)
      obtain ⟨_, bestFamily, count⟩ := merges.specific head found
      obtain ⟨_, otherFamily, otherCount⟩ := merged.specific begin begun
      rw [bestFamily, otherFamily, count, otherCount, family]
      exact ⟨rfl, placeCount_perm (specificsSame.filter _)⟩

/-- Merging does not depend on the order of observations: they settle the dispute, the family and
the evidence of a new column, a specific type keeps its family from then on, and the same
observations in another order agree. -/
theorem observeAll_orderless (name : String) (observations : List Observation) :
    ((named name).observeAll observations).candidates = Observation.candidates observations ∧
      ((named name).observeAll observations).Merges observations ∧
      (∀ earlier, earlier <+: observations →
        ((named name).observeAll earlier).bestType.isSpecific = true →
        ((named name).observeAll observations).bestType.isSpecific = true ∧
          ((named name).observeAll observations).bestType.family =
            ((named name).observeAll earlier).bestType.family) ∧
      ∀ other : List Observation, observations.Perm other →
        ((named name).observeAll observations).Agrees ((named name).observeAll other) := by
  have knows := knows_observeAll name observations
  refine ⟨knows.listed, knows.merges, ?_, ?_⟩
  · rintro earlier ⟨later, rfl⟩ typed
    have before := knows_observeAll name earlier
    obtain ⟨first, found⟩ :=
      Option.isSome_iff_exists.mp (List.isSome_head?.mpr (before.isSpecific_iff.mp typed))
    obtain ⟨still, family⟩ := knows.specific first (head_specifics_append found)
    exact ⟨still, family.trans (before.specific first found).2.symm⟩
  · intro other same
    exact knows.merges.agrees (knows_observeAll name other).merges same

end InferredColumn

end SchemaDrift
