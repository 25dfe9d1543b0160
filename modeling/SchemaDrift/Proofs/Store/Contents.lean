import SchemaDrift.Proofs.Store.Writable

namespace SchemaDrift

/-- A file that is written is read as it was written. -/
theorem FileTree.readAt?_writeAt (tree : FileTree) (place : List String) (bytes : List Nat) :
    (tree.writeAt place bytes).readAt? place = some bytes := by
  simp only [readAt?, writeAt]
  induction tree.files with
  | nil => simp
  | cons file rest inductionHypothesis =>
      obtain ⟨name, content⟩ := file
      by_cases written : name = place
      · simpa [written] using inductionHypothesis
      · simpa [List.lookup_cons, written, Ne.symm written, beq_eq_false_iff_ne.mpr (Ne.symm written)]
          using inductionHypothesis

namespace FileStore

/-- The file of issues is there with the text of some issues, or there are none and no file. -/
structure Holds (issues : List Issue) (store : FileStore) : Prop where
  free : store.isBlocked issuesFile = false
  bytes : (store.tree.readAt? [issuesFile] = none ∧ issues = []) ∨
    store.tree.readAt? [issuesFile] = some (Text.encodeUtf8 (issuesText issues))

/-- The text of some issues is read as these issues. -/
def Readable (issues : List Issue) : Prop :=
  ((Text.decodeUtf8? (Text.encodeUtf8 (issuesText issues))).bind fun text =>
    (Json.read? text).bind (Json.list? Issue.ofJson?)) = some issues

/-- Issues that are held and can be read are loaded. -/
theorem Holds.loadIssues {store : FileStore} {issues : List Issue} (held : store.Holds issues)
    (readable : Readable issues) : store.loadIssues = .ok issues := by
  obtain ⟨absent, none⟩ | present := held.bytes
  · simp only [FileStore.loadIssues, readText, held.free, Bool.false_eq_true, if_false, absent, none]
    rfl
  · unfold Readable at readable
    obtain ⟨text, decoded, read⟩ := Option.bind_eq_some_iff.mp readable
    simp only [FileStore.loadIssues, readText, held.free, Bool.false_eq_true, if_false, present,
      decoded]
    simp only [bind, Except.bind, read]
    rfl

end FileStore

namespace Store

def Holds (issues : List Issue) : Store → Prop
  | memory kept _ => kept = issues
  | files store => store.Holds issues

/-- Some issues can be read by the record once it holds them. -/
def Readable (issues : List Issue) : Store → Prop
  | memory _ _ => True
  | files _ => FileStore.Readable issues

/-- Every list of issues can be put into the record. -/
def Accepts (store : Store) : Prop := ∀ issues, (store.saveIssues issues).2 = none

instance (store : Store) (issues : List Issue) : Decidable (store.Readable issues) :=
  match store with
  | memory _ _ => .isTrue trivial
  | files _ => inferInstanceAs (Decidable (_ = some issues))

variable {store : Store} {issues kept : List Issue}

/-- Files accept issues where no directory stands in the way. -/
theorem accepts_files_iff (store : FileStore) : (files store).Accepts ↔
    store.isBlocked issuesDraftFile = false ∧ store.isBlocked issuesFile = false := by
  simp only [Accepts, saveIssues, FileStore.saveIssues]
  cases store.isBlocked issuesDraftFile <;> cases store.isBlocked issuesFile <;> simp

instance (store : Store) : Decidable store.Accepts :=
  match store with
  | memory _ _ => .isTrue fun _ => rfl
  | files store => decidable_of_iff _ (accepts_files_iff store).symm

/-- Issues that are held and can be read are loaded. -/
theorem Holds.loadIssues (held : store.Holds issues) (readable : store.Readable issues) :
    store.loadIssues = .ok issues := by
  cases store with
  | memory known executions => exact congrArg Except.ok held
  | files store => exact FileStore.Holds.loadIssues held readable

theorem holds_saveIssues (accepted : (store.saveIssues issues).2 = none) :
    (store.saveIssues issues).1.Holds issues := by
  cases store with
  | memory known executions => rfl
  | files store =>
      simp only [saveIssues, FileStore.saveIssues] at accepted ⊢
      split at accepted
      · cases accepted
      · rename_i draft
        rw [if_neg draft]
        split at accepted
        · cases accepted
        · rename_i target
          rw [if_neg target]
          refine ⟨?_, .inr (FileTree.readAt?_writeAt _ _ _)⟩
          rw [Bool.not_eq_true] at target
          exact FileTree.isDirectoryAt_writeAt _ _ _ _ (FileTree.isDirectoryAt_filter _ _ _ target)

theorem Holds.saveIssues_refused (held : store.Holds kept) {error : StoreError}
    (refused : (store.saveIssues issues).2 = some error) : (store.saveIssues issues).1.Holds kept := by
  cases store with
  | memory known executions => cases refused
  | files store =>
      simp only [saveIssues, FileStore.saveIssues] at refused ⊢
      by_cases draft : store.isBlocked issuesDraftFile = true
      · rw [if_pos draft]
        exact held
      · rw [if_neg draft, held.free, if_neg Bool.false_ne_true] at refused
        cases refused

/-- A record that gets an execution holds the issues that it held. -/
theorem Holds.appendExecution (held : store.Holds kept) (execution : FixExecution) :
    (store.appendExecution execution).1.Holds kept := by
  cases store with
  | memory known executions => exact held
  | files store =>
      simp only [Store.appendExecution, FileStore.appendExecution]
      split
      · exact held
      · have different : issuesFile ≠ executionsFile := by decide
        have apart : [issuesFile] ≠ [executionsFile] := fun same =>
          different (List.cons.inj same).1
        refine ⟨?_, ?_⟩
        · simp only [FileStore.isBlocked, FileTree.isDirectoryAt_writeAt_of_ne _ different]
          exact held.free
        · simp only [FileTree.readAt?_writeAt_of_ne _ apart]
          exact held.bytes

/-- A record that accepts issues goes on to do so. -/
theorem Accepts.saveIssues (accepts : store.Accepts) (issues : List Issue) :
    (store.saveIssues issues).1.Accepts := by
  cases store with
  | memory known executions => exact fun _ => rfl
  | files store =>
      rw [accepts_files_iff] at accepts
      obtain ⟨draft, target⟩ := accepts
      simp only [Store.saveIssues, FileStore.saveIssues, draft, target, Bool.false_eq_true, if_false,
        accepts_files_iff]
      exact ⟨FileTree.isDirectoryAt_writeAt _ _ _ _ (FileTree.isDirectoryAt_filter _ _ _ draft),
        FileTree.isDirectoryAt_writeAt _ _ _ _ (FileTree.isDirectoryAt_filter _ _ _ target)⟩

/-- A record accepts issues as before when it gets an execution. -/
theorem Accepts.appendExecution (accepts : store.Accepts) (execution : FixExecution) :
    (store.appendExecution execution).1.Accepts := by
  cases store with
  | memory known executions => exact fun _ => rfl
  | files store =>
      simp only [Store.appendExecution, FileStore.appendExecution]
      split
      · exact accepts
      · have draft : issuesDraftFile ≠ executionsFile := by decide
        have target : issuesFile ≠ executionsFile := by decide
        rw [accepts_files_iff] at accepts ⊢
        simp only [FileStore.isBlocked, FileTree.isDirectoryAt_writeAt_of_ne _ draft,
          FileTree.isDirectoryAt_writeAt_of_ne _ target]
        exact accepts

end Store

end SchemaDrift
