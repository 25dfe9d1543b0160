import SchemaDrift.Monitor.Service
import SchemaDrift.Proofs.Ddl.Parsed
import SchemaDrift.Proofs.Issue.Json
import SchemaDrift.Proofs.Store.Contents
import SchemaDrift.Proofs.Text.Utf8

namespace SchemaDrift

namespace FileStore

variable {store : FileStore} {issues : List Issue}

/-- The failure of a file of issues that cannot be read. -/
def unreadable (directory : String) : StoreError :=
  .malformed (Path.join directory issuesFile) "not a list of issues"

/-- The text of sound issues is read as these issues just when they are all shallow. -/
theorem read?_issuesText (sound : ∀ issue ∈ issues, issue.Sound) :
    (Json.read? (issuesText issues)).bind (Json.list? Issue.ofJson?) =
      if ∀ issue ∈ issues, issue.Shallow then some issues else none := by
  have whole : (Json.array (issues.map (·.toJson))).Whole :=
    (Json.whole_map_iff issues).mpr fun issue among => (sound issue among).whole
  have deep : (Json.array (issues.map (·.toJson))).depth ≤ Json.maxDepth ↔
      ∀ issue ∈ issues, issue.Shallow := by
    rw [Json.maxDepth, Json.depth_map_le_iff]
    exact forall₂_congr fun issue _ => Nat.lt_succ_iff.symm.trans issue.depth_toJson_lt_iff
  rw [issuesText, Json.read?_toPrettyText whole]
  simp only [deep]
  by_cases shallow : ∀ issue ∈ issues, issue.Shallow
  · rw [if_pos shallow, if_pos shallow, Option.bind_some]
    exact Json.list?_map fun issue among => (sound issue among).read (shallow issue among)
  · rw [if_neg shallow, if_neg shallow, Option.bind_none]

/-- Sound issues that are held are loaded just when they are all shallow. -/
theorem Holds.loadIssues_eq (held : store.Holds issues) (sound : ∀ issue ∈ issues, issue.Sound) :
    store.loadIssues = if ∀ issue ∈ issues, issue.Shallow then .ok issues
      else .error (unreadable store.directory) := by
  obtain ⟨absent, none⟩ | present := held.bytes
  · subst none
    simp only [FileStore.loadIssues, readText, held.free, Bool.false_eq_true, if_false, absent]
    rfl
  · have read := read?_issuesText sound
    simp only [FileStore.loadIssues, readText, held.free, Bool.false_eq_true, if_false, present,
      Text.decodeUtf8?_encodeUtf8]
    simp only [bind, Except.bind]
    by_cases shallow : ∀ issue ∈ issues, issue.Shallow
    · rw [if_pos shallow] at read ⊢
      rw [read]
      rfl
    · rw [if_neg shallow] at read ⊢
      rw [read]
      rfl

/-- The files keep their directory when issues are saved. -/
theorem directory_saveIssues (store : FileStore) (issues : List Issue) :
    (store.saveIssues issues).1.directory = store.directory := by
  unfold saveIssues
  split
  · rfl
  · split <;> rfl

end FileStore

namespace Store

/-- A call on the record of issues. -/
inductive Call where
  | save (issues : List Issue)
  | load

/-- What a call gives back. -/
inductive Reply where
  | saved (error : Option StoreError)
  | loaded (issues : Except StoreError (List Issue))

/-- The record after a call, and what the call gives back. -/
def serve (store : Store) : Call → Store × Reply
  | .save issues => ((store.saveIssues issues).1, .saved (store.saveIssues issues).2)
  | .load => (store, .loaded store.loadIssues)

/-- The record after calls, and what they give back, in their order. -/
def serveAll (store : Store) : List Call → Store × List Reply
  | [] => (store, [])
  | call :: calls =>
    let served := (store.serve call).1.serveAll calls
    (served.1, (store.serve call).2 :: served.2)

def Call.Sound : Call → Prop
  | save issues => ∀ issue ∈ issues, issue.Sound
  | load => True

def Call.kept (before : List Issue) : Call → List Issue
  | save issues => issues
  | load => before

/-- What a call gives back from files where it would give back `reply` from memory. -/
def Reply.inFiles (directory : String) : Reply → Reply
  | loaded (.ok issues) =>
    if ∀ issue ∈ issues, issue.Shallow then loaded (.ok issues)
    else loaded (.error (FileStore.unreadable directory))
  | reply => reply

/-- Files in a directory that hold some sound issues and accept others. -/
structure Filed (directory : String) (issues : List Issue) (store : Store) : Prop where
  files : ∃ files, store = .files files ∧ files.directory = directory
  accepts : store.Accepts
  held : store.Holds issues
  sound : ∀ issue ∈ issues, issue.Sound

variable {directory : String} {store : Store} {kept : List Issue}

/-- Files load the issues that they hold just when these are all shallow. -/
theorem Filed.loadIssues (filed : store.Filed directory kept) :
    store.loadIssues = if ∀ issue ∈ kept, issue.Shallow then .ok kept
      else .error (FileStore.unreadable directory) := by
  obtain ⟨files, rfl, rfl⟩ := filed.files
  exact FileStore.Holds.loadIssues_eq filed.held filed.sound

/-- Files hold the issues of a call that saves some, and go on to accept others. -/
theorem Filed.serve (filed : store.Filed directory kept) {call : Call} (sound : call.Sound) :
    (store.serve call).1.Filed directory (call.kept kept) := by
  cases call with
  | load => exact filed
  | save issues =>
      obtain ⟨files, rfl, rfl⟩ := filed.files
      exact ⟨⟨_, rfl, files.directory_saveIssues issues⟩, filed.accepts.saveIssues issues,
        holds_saveIssues (filed.accepts issues), sound⟩

/-- A call gives back from files what it gives back from memory, as far as it can be loaded. -/
theorem Filed.reply (filed : store.Filed directory kept) (executions : List FixExecution)
    (call : Call) :
    (store.serve call).2 = ((memory kept executions).serve call).2.inFiles directory := by
  cases call with
  | save issues => exact congrArg Reply.saved (filed.accepts issues)
  | load =>
      show Reply.loaded store.loadIssues = (Reply.loaded (.ok kept)).inFiles directory
      rw [filed.loadIssues, Reply.inFiles]
      split <;> rfl

/-- The record in memory after a call keeps just the issues of the call. -/
theorem serve_memory (executions : List FixExecution) (call : Call) :
    ((memory kept executions).serve call).1 = memory (call.kept kept) executions := by
  cases call <;> rfl

/-- The record in memory keeps just the issues that were saved last. -/
theorem serveAll_memory (executions : List FixExecution) (calls : List Call) :
    ((memory kept executions).serveAll calls).1 = memory (calls.foldl Call.kept kept) executions := by
  induction calls generalizing kept with
  | nil => rfl
  | cons call calls inductionHypothesis =>
      rw [serveAll, serve_memory]
      exact inductionHypothesis

/-- After calls the files hold the issues that were saved last, and each call gave back what it gives
back from memory, as far as it can be loaded. -/
theorem Filed.serveAll (filed : store.Filed directory kept) (executions : List FixExecution)
    {calls : List Call} (sound : ∀ call ∈ calls, call.Sound) :
    (store.serveAll calls).1.Filed directory (calls.foldl Call.kept kept) ∧
      (store.serveAll calls).2 =
        ((memory kept executions).serveAll calls).2.map (Reply.inFiles directory) := by
  induction calls generalizing store kept with
  | nil => exact ⟨filed, rfl⟩
  | cons call calls inductionHypothesis =>
      rw [List.forall_mem_cons] at sound
      obtain ⟨last, replies⟩ := inductionHypothesis (filed.serve sound.1) sound.2
      refine ⟨last, ?_⟩
      rw [Store.serveAll, Store.serveAll, serve_memory, List.map_cons, filed.reply executions]
      exact congrArg (_ :: ·) replies

/-- A monitor starts with the issues that the files hold when these are all shallow, and does not
start otherwise. -/
theorem Filed.start (filed : store.Filed directory kept) (settings : Settings) (catalog : Catalog) :
    Service.start settings store catalog =
      if ∀ issue ∈ kept, issue.Shallow then .ok ⟨.ofIssues settings kept, store, catalog⟩
      else .error (FileStore.unreadable directory) := by
  rw [Service.start, filed.loadIssues]
  split <;> rfl

/-- Over any calls that save and load sound issues, files that accept them give back what memory gives
back, and a monitor starts from the issues that were saved last, except that neither loads a list with
an issue that is not shallow. -/
theorem serveAll_files {files : FileStore} (accepts : (Store.files files).Accepts)
    (held : files.Holds kept) (sound : ∀ issue ∈ kept, issue.Sound) {calls : List Call}
    (sounds : ∀ call ∈ calls, call.Sound) (executions : List FixExecution) (settings : Settings)
    (catalog : Catalog) :
    let last := calls.foldl Call.kept kept
    let filed := (Store.files files).serveAll calls
    let recalled := (Store.memory kept executions).serveAll calls
    recalled.1 = .memory last executions ∧
      filed.2 = recalled.2.map (Reply.inFiles files.directory) ∧
      Service.start settings filed.1 catalog =
        if ∀ issue ∈ last, issue.Shallow then .ok ⟨.ofIssues settings last, filed.1, catalog⟩
        else .error (FileStore.unreadable files.directory) := by
  have filed : (Store.files files).Filed files.directory kept :=
    ⟨⟨files, rfl, rfl⟩, accepts, held, sound⟩
  obtain ⟨last, replies⟩ := filed.serveAll executions sounds
  exact ⟨serveAll_memory executions calls, replies, last.start settings catalog⟩

end Store

namespace Matrices

/-- The spelling of a type of arrays in arrays of whole numbers. -/
def spelling : Nat → List Char
  | 0 => "integer".toList
  | levels + 1 => spelling levels ++ ['[', ']']

/-- A type of arrays in arrays of whole numbers. -/
def nested : Nat → LogicalType
  | 0 => .int
  | levels + 1 => .array (nested levels)

/-- The type is spelled with a pair of brackets for each level. -/
theorem spelledWith_nested (levels : Nat) : (nested levels).spelledWith [] = spelling levels := by
  induction levels with
  | zero => rfl
  | succ levels inductionHypothesis => exact congrArg (· ++ ['[', ']']) inductionHypothesis

/-- The type is as a catalog can tell it. -/
theorem canonical_nested (levels : Nat) : (nested levels).canonical = nested levels := by
  induction levels with
  | zero => rfl
  | succ levels inductionHypothesis => exact congrArg LogicalType.array inductionHypothesis

/-- The spelling is read as the type, however many levels it has. -/
theorem ofSpelling_spelling (levels : Nat) :
    LogicalType.ofSpelling (String.ofList (spelling levels)) = nested levels := by
  rw [← spelledWith_nested, (Definition.declaredType_toSql (nested levels)).2, canonical_nested]

/-- The type has as many levels as brackets. -/
theorem depth_nested (levels : Nat) : (nested levels).depth = levels := by
  induction levels with
  | zero => rfl
  | succ levels inductionHypothesis => exact congrArg Nat.succ inductionHypothesis

/-- A state directory without files. -/
def files : FileStore := ⟨"state", .empty⟩

/-- A missing table of matrices, with the error of the last attempt to create it. -/
def missing (levels : Nat) : Issue :=
  { Issue.detected .missingTable "matrices" none
      ⟨1, [⟨"a.py", 1, none⟩], "referenced by 1 statement(s)"⟩ (.ofMillis 1700000000123) with
    expectedColumns := [⟨"cell", some (.ofSpelling (String.ofList (spelling levels)))⟩]
    lastError := some "refused:\n\t\"cell\" \\ é" }

/-- The missing table is a sound issue. -/
theorem sound_missing (levels : Nat) : (missing levels).Sound := by
  have dated : Moment.Dated (.ofMillis 1700000000123) := by decide +kernel
  have evidence : Evidence.Sound ⟨1, [⟨"a.py", 1, none⟩], "referenced by 1 statement(s)"⟩ := by
    decide
  exact ⟨dated, dated, nofun, evidence⟩

/-- The missing table is a shallow issue up to a number of levels. -/
theorem shallow_missing_iff (levels : Nat) : (missing levels).Shallow ↔ levels ≤ 122 := by
  simp [Issue.shallow_iff, missing, Issue.detected, ofSpelling_spelling, depth_nested, Json.maxDepth]

/-- A list of just the missing table is shallow up to a number of levels. -/
theorem shallow_list_iff (levels : Nat) :
    (∀ issue ∈ [missing levels], issue.Shallow) ↔ levels ≤ 122 := by
  rw [List.forall_mem_singleton, shallow_missing_iff]

/-- Issues with so many levels cannot be loaded from the state directory. -/
def refusal : StoreError := .malformed "state/issues.json" "not a list of issues"

/-- What memory gives back for the missing table comes from files up to a number of levels. -/
theorem inFiles_missing (levels : Nat) :
    (Store.Reply.loaded (.ok [missing levels])).inFiles "state" =
      if levels ≤ 122 then .loaded (.ok [missing levels]) else .loaded (.error refusal) := by
  rw [Store.Reply.inFiles]
  simp only [shallow_list_iff]
  rfl

/-- Calls that save the missing table with few and with many levels, and load after each. -/
def calls : List Store.Call := [.load, .save [missing 2], .load, .save [missing 128], .load]

/-- The calls save sound issues. -/
theorem sound_calls : ∀ call ∈ calls, call.Sound := by
  have single (levels : Nat) : (Store.Call.save [missing levels]).Sound :=
    List.forall_mem_singleton.mpr (sound_missing levels)
  simp only [calls, List.forall_mem_cons]
  exact ⟨trivial, single 2, trivial, single 128, trivial, List.forall_mem_nil _⟩

/-- The list with few levels is loaded from files, the one with many is not, and no monitor starts
from it. -/
theorem serveAll_calls :
    let served := (Store.files files).serveAll calls
    served.2 = [.loaded (.ok []), .saved none, .loaded (.ok [missing 2]), .saved none,
        .loaded (.error refusal)] ∧
      Service.start .initial served.1 (.empty "public" ⟨0⟩) = .error refusal := by
  have accepts : (Store.files files).Accepts := by decide
  have held : files.Holds [] := ⟨rfl, .inl ⟨rfl, rfl⟩⟩
  obtain ⟨-, replies, start⟩ := Store.serveAll_files accepts held (List.forall_mem_nil _)
    sound_calls [] .initial (.empty "public" ⟨0⟩)
  refine ⟨replies.trans ?_, start.trans (if_neg ?_)⟩
  · show [_, _, (Store.Reply.loaded (.ok [missing 2])).inFiles "state", _,
      (Store.Reply.loaded (.ok [missing 128])).inFiles "state"] = _
    rw [inFiles_missing, inFiles_missing]
    rfl
  · exact fun shallow => absurd ((shallow_list_iff 128).mp shallow) (by decide)

/-- An issue with a type that a catalog can spell is saved and cannot be loaded from files, although
memory gives it back, and no monitor starts from it. -/
theorem missing_lost :
    let served := (Store.files files).serveAll [.save [missing 128], .load]
    let recalled := (Store.memory [] []).serveAll [.save [missing 128], .load]
    (missing 128).Sound ∧ served.2 = [.saved none, .loaded (.error refusal)] ∧
      recalled.2 = [.saved none, .loaded (.ok [missing 128])] ∧
      Service.start .initial served.1 (.empty "public" ⟨0⟩) = .error refusal := by
  have sound := sound_missing 128
  have deep : ¬ ∀ issue ∈ [missing 128], issue.Shallow := fun shallow =>
    absurd ((shallow_list_iff 128).mp shallow) (by decide)
  have sounds : ∀ call ∈ [Store.Call.save [missing 128], .load], call.Sound := by
    simp only [List.forall_mem_cons]
    exact ⟨List.forall_mem_singleton.mpr sound, trivial, List.forall_mem_nil _⟩
  have filed : (Store.files files).Filed "state" [] :=
    ⟨⟨files, rfl, rfl⟩, by decide, ⟨rfl, .inl ⟨rfl, rfl⟩⟩, List.forall_mem_nil _⟩
  obtain ⟨last, replies⟩ := filed.serveAll [] sounds
  refine ⟨sound, replies.trans ?_, rfl, (last.start .initial _).trans (if_neg deep)⟩
  show [_, (Store.Reply.loaded (.ok [missing 128])).inFiles "state"] = _
  rw [inFiles_missing]
  rfl

end Matrices

end SchemaDrift
