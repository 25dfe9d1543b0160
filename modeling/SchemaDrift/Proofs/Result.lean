import Mathlib.Data.List.Forall2

namespace SchemaDrift.Result

variable {Error Other Element Value Final : Type}

/-- A chain of two computations succeeds when the first does and the second does on its result. -/
theorem bind_ok_iff (first : Except Error Value) (next : Value → Except Error Final)
    (final : Final) :
    (first >>= next) = .ok final ↔ ∃ value, first = .ok value ∧ next value = .ok final := by
  cases first <;> simp [bind, Except.bind]

/-- A check before a computation has to pass. -/
theorem check_bind_ok_iff (check : Except Error Unit) (next : Unit → Except Error Final)
    (final : Final) :
    (check >>= next) = .ok final ↔ check = .ok () ∧ next () = .ok final := by
  cases check <;> simp [bind, Except.bind]

/-- A chain of two computations fails when the first does, or the second on its result. -/
theorem bind_error_iff (first : Except Error Value) (next : Value → Except Error Final)
    (error : Error) : (first >>= next) = .error error ↔
      first = .error error ∨ ∃ value, first = .ok value ∧ next value = .error error := by
  cases first <;> simp [bind, Except.bind]

/-- A plain result is itself. -/
theorem pure_ok_iff (value final : Value) :
    (pure value : Except Error Value) = .ok final ↔ value = final := by
  simp [pure, Except.pure]

/-- A failure is no result. -/
theorem throw_ok_iff (error : Error) (final : Value) :
    (throw error : Except Error Value) = .ok final ↔ False := by
  simp [throw, throwThe, MonadExceptOf.throw]

/-- Another wording of failures changes no result. -/
theorem mapError_ok_iff (first : Except Error Value) (wording : Error → Other) (final : Value) :
    first.mapError wording = .ok final ↔ first = .ok final := by
  cases first <;> simp [Except.mapError]

/-- A check of every element passes when each passes. -/
theorem forM_ok_iff (check : Element → Except Error Unit) (elements : List Element) :
    forM elements check = .ok () ↔ ∀ element ∈ elements, check element = .ok () := by
  induction elements with
  | nil => simp [pure_ok_iff]
  | cons element rest inductionHypothesis =>
      rw [List.forM_cons, check_bind_ok_iff, inductionHypothesis, List.forall_mem_cons]

/-- A check of every element fails as one of them does. -/
theorem exists_of_forM_error {check : Element → Except Error Unit} {elements : List Element}
    {error : Error} (failed : forM elements check = .error error) :
    ∃ element ∈ elements, check element = .error error := by
  induction elements with
  | nil => cases failed
  | cons element rest inductionHypothesis =>
      rw [List.forM_cons, bind_error_iff] at failed
      obtain here | ⟨_, _, later⟩ := failed
      · exact ⟨element, List.mem_cons_self, here⟩
      · obtain ⟨other, present, found⟩ := inductionHypothesis later
        exact ⟨other, List.mem_cons_of_mem _ present, found⟩

/-- A computation on every element succeeds when each does, with the results in order. -/
theorem mapM_ok_iff (compute : Element → Except Error Value) (elements : List Element)
    (results : List Value) :
    elements.mapM compute = .ok results ↔
      List.Forall₂ (fun element result => compute element = .ok result) elements results := by
  induction elements generalizing results with
  | nil => cases results <;> simp [pure_ok_iff]
  | cons element rest inductionHypothesis =>
      simp only [List.mapM_cons, bind_ok_iff, pure_ok_iff, inductionHypothesis]
      constructor
      · rintro ⟨first, computed, others, related, rfl⟩
        exact .cons computed related
      · rintro (_ | ⟨computed, related⟩)
        exact ⟨_, computed, _, related, rfl⟩

/-- The results of a computation on every element are those on some element. -/
theorem mem_of_mapM_ok {compute : Element → Except Error Value} {elements : List Element}
    {results : List Value} (computed : elements.mapM compute = .ok results) (value : Value) :
    value ∈ results ↔ ∃ element ∈ elements, compute element = .ok value := by
  rw [mapM_ok_iff] at computed
  induction computed with
  | nil => simp
  | cons first _ inductionHypothesis =>
      rw [List.mem_cons, inductionHypothesis, List.exists_mem_cons_iff, first, Except.ok.injEq,
        eq_comm]

/-- A computation on every element succeeds when each does. -/
theorem exists_mapM_ok_iff (compute : Element → Except Error Value) (elements : List Element) :
    (∃ results, elements.mapM compute = .ok results) ↔
      ∀ element ∈ elements, ∃ value, compute element = .ok value := by
  induction elements with
  | nil => simp [pure_ok_iff]
  | cons element rest inductionHypothesis =>
      rw [List.forall_mem_cons, ← inductionHypothesis]
      simp only [List.mapM_cons, bind_ok_iff, pure_ok_iff]
      constructor
      · rintro ⟨results, first, computed, others, found, rfl⟩
        exact ⟨⟨first, computed⟩, others, found⟩
      · rintro ⟨⟨first, computed⟩, others, found⟩
        exact ⟨_, first, computed, others, found, rfl⟩

end SchemaDrift.Result
