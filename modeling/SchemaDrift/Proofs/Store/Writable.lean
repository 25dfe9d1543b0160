import SchemaDrift.Store.Basic

namespace SchemaDrift

/-- A tree has no directory of its own names that it did not have, once a file is written beside
them. -/
theorem FileTree.isDirectoryAt_writeAt (tree : FileTree) (name other : String) (bytes : List Nat)
    (free : tree.isDirectoryAt [name] = false) :
    (tree.writeAt [other] bytes).isDirectoryAt [name] = false := by
  simp only [isDirectoryAt, List.isEmpty_cons, Bool.false_or, Bool.or_eq_false_iff,
    List.any_eq_false] at free ⊢
  refine ⟨free.1, ?_⟩
  intro file present
  rcases List.mem_append.mp present with kept | new
  · exact free.2 file (List.mem_filter.mp kept).1
  · rw [List.mem_singleton] at new
    rw [new]
    by_cases same : name = other
    · simp [same]
    · simp [List.isPrefixOf, same]

/-- A tree has no directory that it did not have, once a file is gone. -/
theorem FileTree.isDirectoryAt_filter (tree : FileTree) (keep : List String × List Nat → Bool)
    (place : List String) (free : tree.isDirectoryAt place = false) :
    FileTree.isDirectoryAt { tree with files := tree.files.filter keep } place = false := by
  simp only [isDirectoryAt, Bool.or_eq_false_iff, List.any_eq_false] at free ⊢
  exact ⟨free.1, fun file present => free.2 file (List.mem_filter.mp present).1⟩

/-- A file that is written changes none of the others. -/
theorem FileTree.readAt?_writeAt_of_ne (tree : FileTree) {place other : List String}
    (different : other ≠ place) (bytes : List Nat) :
    (tree.writeAt place bytes).readAt? other = tree.readAt? other := by
  have apart : (other == place) = false := beq_eq_false_iff_ne.mpr different
  simp only [readAt?, writeAt]
  induction tree.files with
  | nil => simp [List.lookup_cons, apart]
  | cons file rest inductionHypothesis =>
      obtain ⟨name, content⟩ := file
      by_cases written : name = place
      · simpa [List.lookup_cons, written, apart] using inductionHypothesis
      · by_cases same : other = name <;>
          simp [List.lookup_cons, written, same, inductionHypothesis]

/-- A file that is written leaves the directories of other names as they are. -/
theorem FileTree.isDirectoryAt_writeAt_of_ne (tree : FileTree) {name other : String}
    (different : name ≠ other) (bytes : List Nat) :
    (tree.writeAt [other] bytes).isDirectoryAt [name] = tree.isDirectoryAt [name] := by
  have beside : ∀ file : List String × List Nat, file.1 = [other] →
      (file.1 != [name] && [name].isPrefixOf file.1) = false := by
    intro file same
    simp [same, List.isPrefixOf, different]
  have others : ((tree.files.filter (·.1 != [other])).any fun file =>
      file.1 != [name] && [name].isPrefixOf file.1) =
      tree.files.any fun file => file.1 != [name] && [name].isPrefixOf file.1 := by
    rw [List.any_filter]
    congr 1
    funext file
    by_cases same : file.1 = [other]
    · simp [beside file same]
    · simp [same]
  simp only [isDirectoryAt, writeAt, List.any_append, others, List.any_cons, List.any_nil,
    beside ([other], bytes) rfl, Bool.or_false]

/-- A text that is written changes none of the other files. -/
theorem FileStore.readText_writeText_of_ne (store : FileStore) {name other : String}
    (different : name ≠ other) (text : List Char) :
    (store.writeText other text).readText name = store.readText name := by
  have apart : [name] ≠ [other] := fun same => different (List.cons.inj same).1
  simp only [readText, isBlocked, writeText, FileTree.isDirectoryAt_writeAt_of_ne _ different,
    FileTree.readAt?_writeAt_of_ne _ apart]
  rfl

namespace Store

/-- A record that can be written: it is in memory, or no directory stands in the way. -/
def Writable : Store → Prop
  | memory _ _ => True
  | files store => store.isBlocked issuesFile = false ∧ store.isBlocked issuesDraftFile = false ∧
      store.isBlocked executionsFile = false

/-- Issues can be put into a record that can be written, and it can be written again. -/
theorem Writable.saveIssues {store : Store} (writable : store.Writable) (issues : List Issue) :
    (store.saveIssues issues).2 = none ∧ (store.saveIssues issues).1.Writable := by
  cases store with
  | memory known executions => exact ⟨rfl, trivial⟩
  | files store =>
      rcases writable with ⟨target, draft, executions⟩
      have kept : ∀ name, store.isBlocked name = false →
          (store.saveIssues issues).1.isBlocked name = false := by
        intro name free
        rw [FileStore.saveIssues, draft, target]
        exact FileTree.isDirectoryAt_writeAt _ _ _ _ (FileTree.isDirectoryAt_filter _ _ _ free)
      have saved : (store.saveIssues issues).2 = none := by
        rw [FileStore.saveIssues, draft, target]
        rfl
      exact ⟨saved, kept _ target, kept _ draft, kept _ executions⟩

/-- An execution can be added to a record that can be written, and it can be written again. -/
theorem Writable.appendExecution {store : Store} (writable : store.Writable)
    (execution : FixExecution) :
    (store.appendExecution execution).2 = none ∧
      (store.appendExecution execution).1.Writable := by
  cases store with
  | memory known executions => exact ⟨rfl, trivial⟩
  | files store =>
      rcases writable with ⟨target, draft, executions⟩
      have kept : ∀ name, store.isBlocked name = false →
          (store.appendExecution execution).1.isBlocked name = false := by
        intro name free
        rw [FileStore.appendExecution, executions]
        exact FileTree.isDirectoryAt_writeAt _ _ _ _ free
      have appended : (store.appendExecution execution).2 = none := by
        rw [FileStore.appendExecution, executions]
        rfl
      exact ⟨appended, kept _ target, kept _ draft, kept _ executions⟩

/-- A record that refuses issues is read as before. -/
theorem saveIssues_refused {store : Store} {issues : List Issue} {error : StoreError}
    (refused : (store.saveIssues issues).2 = some error) :
    (store.saveIssues issues).1.loadIssues = store.loadIssues ∧
      (store.saveIssues issues).1.loadExecutions = store.loadExecutions := by
  cases store with
  | memory known executions => cases refused
  | files store =>
      simp only [saveIssues, FileStore.saveIssues] at refused ⊢
      by_cases draft : store.isBlocked issuesDraftFile = true
      · rw [if_pos draft]
        exact ⟨rfl, rfl⟩
      · rw [if_neg draft] at refused ⊢
        by_cases target : store.isBlocked issuesFile = true
        · -- The draft is written, but nobody reads it.
          rw [if_pos target]
          have issuesFile := store.readText_writeText_of_ne
            (show issuesFile ≠ issuesDraftFile by decide) (FileStore.issuesText issues)
          have executionsFile := store.readText_writeText_of_ne
            (show executionsFile ≠ issuesDraftFile by decide) (FileStore.issuesText issues)
          simp only [loadIssues, loadExecutions, FileStore.loadIssues, FileStore.loadExecutions,
            issuesFile, executionsFile]
          exact ⟨rfl, rfl⟩
        · rw [if_neg target] at refused
          cases refused

end Store

end SchemaDrift
