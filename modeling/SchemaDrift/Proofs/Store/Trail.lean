import SchemaDrift.Proofs.Store.Contents

namespace SchemaDrift

/-- A file that is kept is read as before when others go. -/
theorem FileTree.readAt?_filter (tree : FileTree) (keep : List String × List Nat → Bool)
    {place : List String} (kept : ∀ bytes, keep (place, bytes) = true) :
    FileTree.readAt? { tree with files := tree.files.filter keep } place = tree.readAt? place := by
  simp only [readAt?]
  induction tree.files with
  | nil => rfl
  | cons file rest inductionHypothesis =>
      obtain ⟨name, bytes⟩ := file
      by_cases same : place = name
      · subst same
        simp [kept bytes]
      · have apart : (place == name) = false := beq_eq_false_iff_ne.mpr same
        rw [List.filter_cons]
        split <;> simp [List.lookup_cons, apart, inductionHypothesis]

namespace Store

/-- The record after holds just some executions more than the record before, at its end. -/
def Appends (added : List FixExecution) : Store → Store → Prop
  | memory _ before, memory _ after => after = before ++ added
  | files before, files after =>
    (after.tree.readAt? [executionsFile]).getD [] =
      (before.tree.readAt? [executionsFile]).getD [] ++
        added.flatMap fun execution => Text.encodeUtf8 (FileStore.executionLine execution)
  | _, _ => False

variable {first middle last : Store} {earlier later : List FixExecution}

/-- A record holds no executions more than it holds. -/
theorem Appends.refl (store : Store) : store.Appends [] store := by
  cases store with
  | memory issues executions => exact (List.append_nil executions).symm
  | files store => exact (List.append_nil _).symm

/-- Executions that are added after others come after all of them. -/
theorem Appends.trans (left : first.Appends earlier middle) (right : middle.Appends later last) :
    first.Appends (earlier ++ later) last := by
  cases first <;> cases middle <;> cases last <;>
    first | exact left.elim | exact right.elim | simp only [Appends] at left right ⊢
  · rw [right, left, List.append_assoc]
  · rw [right, left, List.append_assoc, List.flatMap_append]

/-- Issues that are put into a record, or refused by it, leave its executions as they are. -/
theorem appends_saveIssues (store : Store) (issues : List Issue) :
    store.Appends [] (store.saveIssues issues).1 := by
  cases store with
  | memory known executions => exact Appends.refl (.memory known executions)
  | files store =>
      have draft : [executionsFile] ≠ [issuesDraftFile] := by decide
      have target : [executionsFile] ≠ [issuesFile] := by decide
      simp only [saveIssues, FileStore.saveIssues]
      split
      · exact Appends.refl (.files store)
      · split
        · simp only [Appends, FileStore.writeText, FileTree.readAt?_writeAt_of_ne _ draft]
          exact (List.append_nil _).symm
        · have kept := FileTree.readAt?_filter store.tree (·.1 != [issuesDraftFile]) fun _ =>
            bne_iff_ne.mpr draft
          simp only [Appends, FileStore.writeText, FileTree.readAt?_writeAt_of_ne _ target, kept]
          exact (List.append_nil _).symm

/-- An execution that a record takes comes after all that it holds. -/
theorem appends_appendExecution {store : Store} {execution : FixExecution}
    (taken : (store.appendExecution execution).2 = none) :
    store.Appends [execution] (store.appendExecution execution).1 := by
  cases store with
  | memory issues executions => rfl
  | files store =>
      simp only [appendExecution, FileStore.appendExecution] at taken ⊢
      split at taken
      · cases taken
      · rename_i free
        simp only [if_neg free, Appends, FileTree.readAt?_writeAt, Option.getD_some,
          List.flatMap_cons, List.flatMap_nil, List.append_nil]

end Store

end SchemaDrift
