import SchemaDrift.Proofs.Issue.Json
import SchemaDrift.Proofs.Json.Lines
import SchemaDrift.Proofs.Store.Trail
import SchemaDrift.Proofs.Store.Writable
import SchemaDrift.Proofs.Text.Utf8

namespace SchemaDrift

namespace FixExecution

/-- The duration of the execution has 64 bits and its moment is read from its text. -/
@[mk_iff]
structure Sound (execution : FixExecution) : Prop where
  duration : execution.durationMillis ≤ Json.word64
  appliedAt : execution.appliedAt.Dated

instance (execution : FixExecution) : Decidable execution.Sound :=
  decidable_of_iff _ (sound_iff execution).symm

variable {execution : FixExecution}

theorem Sound.whole (sound : execution.Sound) : execution.toJson.Whole := by
  have duration := (Json.whole_ofNat_iff execution.durationMillis).mpr sound.duration
  rw [toJson, Json.whole_object_iff]
  simp [Json.whole_ofText?, Moment.toJson, duration, Json.Whole]

/-- The form of an execution is one object. -/
theorem depth_toJson_le (execution : FixExecution) : execution.toJson.depth ≤ 1 := by
  rw [toJson, Json.depth_object_le_iff]
  simp [Json.depth_ofText?, Moment.toJson, Json.ofNat, Json.depth]

/-- Each member of the form of an execution is found under its name. -/
theorem valuesOf_toJson {members : List (String × Json)}
    (written : execution.toJson = .object members) :
    ∀ member ∈ members, Json.valuesOf member.1 members = [member.2] := by
  rw [toJson] at written
  cases written
  intro member among
  refine Json.valuesOf_of_mem ?_ among
  simp only [List.map_cons, List.map_nil]
  decide

theorem Sound.read (sound : execution.Sound) : ofJson? execution.toJson = some execution := by
  have duration := Json.nat?_ofNat sound.duration
  have success : (Json.bool execution.success).bool? = some execution.success := rfl
  have found := valuesOf_toJson (toJson.eq_1 execution)
  simp only [List.forall_mem_cons] at found
  obtain ⟨id, fixId, issueId, table, ddl, appliedAt, time, outcome, rollback, failure, -⟩ := found
  rw [toJson, ofJson?, Json.members?, Option.bind_eq_bind, Option.bind_some,
    Json.required_bind id (Json.text?_string _), Json.required_bind fixId (Json.text?_string _),
    Json.required_bind issueId (Json.text?_string _), Json.required_bind table (Json.text?_string _),
    Json.required_bind ddl (Json.text?_string _), Json.required_bind appliedAt sound.appliedAt.read,
    Json.required_bind time duration, Json.required_bind outcome success,
    Json.optional_bind rollback (Json.nullable?_ofText? _),
    Json.optional_bind failure (Json.nullable?_ofText? _)]

end FixExecution

namespace FileStore

variable {store : FileStore} {executions : List FixExecution} {execution : FixExecution}

/-- The line of an execution without the line break behind it. -/
def recordLine (execution : FixExecution) : List Char := execution.toJson.toCompactText.toList

/-- The line of an execution is closed by the only line break in it. -/
theorem executionLine_eq (execution : FixExecution) (rest : List Char) :
    executionLine execution ++ rest = recordLine execution ++ '\n' :: rest := by
  simp [executionLine, recordLine]

theorem newline_notMem_recordLine (sound : execution.Sound) : '\n' ∉ recordLine execution := by
  rw [recordLine, Json.toCompactText, String.toList_ofList]
  exact Json.newline_notMem_compact sound.whole

/-- The line of an execution has nothing to trim, and is not blank. -/
theorem trim_recordLine (execution : FixExecution) :
    (Text.trim (recordLine execution)).isEmpty = false := by
  have braces : ∃ inner, recordLine execution = '{' :: (inner ++ ['}']) :=
    ⟨_, String.toList_ofList⟩
  obtain ⟨inner, same⟩ := braces
  rw [same, Text.trim_eq_self]
  · rfl
  · rintro c ⟨⟩
    decide
  · intro c last
    rw [← List.cons_append, List.getLast?_concat] at last
    cases last
    decide

/-- The filled lines of a file of executions are the lines of the executions. -/
theorem filledLines_flatMap (sound : ∀ execution ∈ executions, execution.Sound) :
    filledLines (executions.flatMap executionLine) = executions.map recordLine := by
  rw [filledLines]
  induction executions with
  | nil => rfl
  | cons execution executions inductionHypothesis =>
      rw [List.forall_mem_cons] at sound
      rw [List.flatMap_cons, executionLine_eq,
        Text.splitOn_append (newline_notMem_recordLine sound.1), List.filter_cons_of_pos,
        inductionHypothesis sound.2, List.map_cons]
      rw [trim_recordLine]
      rfl

theorem read?_recordLine (sound : execution.Sound) :
    (Json.read? (recordLine execution)).bind FixExecution.ofJson? = some execution := by
  have shallow : execution.toJson.depth ≤ Json.maxDepth :=
    execution.depth_toJson_le.trans (by decide)
  rw [recordLine, Json.read?_toCompactText sound.whole, if_pos shallow, Option.bind_some, sound.read]

theorem mapM_recordLine (sound : ∀ execution ∈ executions, execution.Sound) :
    ((executions.map recordLine).mapM fun line =>
      (Json.read? line).bind FixExecution.ofJson?) = some executions := by
  induction executions with
  | nil => rfl
  | cons execution executions inductionHypothesis =>
      rw [List.forall_mem_cons] at sound
      rw [List.map_cons, List.mapM_cons, read?_recordLine sound.1, inductionHypothesis sound.2]
      rfl

/-- The file of executions holds the lines of some executions, and can be written; there may be no
file where there are none. -/
structure Logs (executions : List FixExecution) (store : FileStore) : Prop where
  free : store.isBlocked executionsFile = false
  bytes : (store.tree.readAt? [executionsFile]).getD [] =
    executions.flatMap fun execution => Text.encodeUtf8 (executionLine execution)

theorem encodeUtf8_executionLines (executions : List FixExecution) :
    (executions.flatMap fun execution => Text.encodeUtf8 (executionLine execution)) =
      Text.encodeUtf8 (executions.flatMap executionLine) :=
  List.flatMap_assoc.symm

theorem Logs.loadExecutions (logs : store.Logs executions)
    (sound : ∀ execution ∈ executions, execution.Sound) :
    store.loadExecutions = .ok executions := by
  have bytes := logs.bytes
  rw [encodeUtf8_executionLines] at bytes
  cases found : store.tree.readAt? [executionsFile] with
  | none =>
      have none : executions = [] := by
        rw [found, Option.getD_none] at bytes
        have blank : some [] = some (executions.flatMap executionLine) := by
          rw [← Text.decodeUtf8?_encodeUtf8 (executions.flatMap executionLine), ← bytes]
          exact (Text.decodeUtf8?_encodeUtf8 []).symm
        cases executions with
        | nil => rfl
        | cons execution executions =>
            rw [List.flatMap_cons, executionLine_eq] at blank
            exact absurd (Option.some.inj blank) (by simp)
      simp only [FileStore.loadExecutions, readText, logs.free, Bool.false_eq_true, if_false, found,
        none]
      rfl
  | some present =>
      rw [found, Option.getD_some] at bytes
      simp only [FileStore.loadExecutions, readText, logs.free, Bool.false_eq_true, if_false, found,
        bytes, Text.decodeUtf8?_encodeUtf8]
      simp only [bind, Except.bind, filledLines_flatMap sound, mapM_recordLine sound]
      rfl

/-- A file that gets an execution holds it behind those that it held. -/
theorem Logs.appendExecution (logs : store.Logs executions) (execution : FixExecution) :
    (store.appendExecution execution).2 = none ∧
      (store.appendExecution execution).1.Logs (executions ++ [execution]) := by
  rw [FileStore.appendExecution, if_neg (by rw [logs.free]; exact Bool.false_ne_true)]
  refine ⟨rfl, FileTree.isDirectoryAt_writeAt _ _ _ _ logs.free, ?_⟩
  rw [FileTree.readAt?_writeAt, Option.getD_some, logs.bytes, List.flatMap_append,
    List.flatMap_singleton]

end FileStore

namespace Store

/-- A call on the record of executions. -/
inductive TrailCall where
  | append (execution : FixExecution)
  | load

/-- What a call on the record of executions gives back. -/
inductive TrailReply where
  | appended (error : Option StoreError)
  | loaded (executions : Except StoreError (List FixExecution))

/-- The record after a call, and what the call gives back. -/
def serveTrail (store : Store) : TrailCall → Store × TrailReply
  | .append execution =>
    ((store.appendExecution execution).1, .appended (store.appendExecution execution).2)
  | .load => (store, .loaded store.loadExecutions)

/-- The record after calls, and what they give back, in their order. -/
def serveTrails (store : Store) : List TrailCall → Store × List TrailReply
  | [] => (store, [])
  | call :: calls =>
    let served := (store.serveTrail call).1.serveTrails calls
    (served.1, (store.serveTrail call).2 :: served.2)

namespace TrailCall

def appends : TrailCall → List FixExecution
  | append execution => [execution]
  | load => []

/-- The reply to a call of a record that holds some executions. -/
def replyTo (kept : List FixExecution) : TrailCall → TrailReply
  | append _ => .appended none
  | load => .loaded (.ok kept)

/-- The replies to calls of a record that holds some executions: each load gives back those that it
held at first and all that were appended since, in order. -/
def repliesTo (kept : List FixExecution) : List TrailCall → List TrailReply
  | [] => []
  | call :: calls => call.replyTo kept :: repliesTo (kept ++ call.appends) calls

end TrailCall

variable {store : Store} {kept : List FixExecution}

/-- The record holds some executions: in memory, or as the lines of a file that can be written. -/
def Logs (executions : List FixExecution) : Store → Prop
  | memory _ kept => kept = executions
  | files store => store.Logs executions

/-- A record that holds sound executions gives them back, takes one more, and holds it behind those
that it held. -/
theorem Logs.serveTrail (logs : store.Logs kept) (sound : ∀ execution ∈ kept, execution.Sound)
    (call : TrailCall) :
    (store.serveTrail call).2 = call.replyTo kept ∧
      (store.serveTrail call).1.Logs (kept ++ call.appends) ∧
      store.Appends call.appends (store.serveTrail call).1 := by
  cases call with
  | load =>
      rw [TrailCall.appends, List.append_nil]
      refine ⟨congrArg TrailReply.loaded ?_, logs, .refl store⟩
      cases store with
      | memory issues executions => exact congrArg Except.ok logs
      | files store => exact FileStore.Logs.loadExecutions logs sound
  | append execution =>
      have taken : (store.appendExecution execution).2 = none ∧
          (store.appendExecution execution).1.Logs (kept ++ [execution]) := by
        cases store with
        | memory issues executions => exact ⟨rfl, congrArg (· ++ [execution]) logs⟩
        | files store => exact FileStore.Logs.appendExecution logs execution
      exact ⟨congrArg TrailReply.appended taken.1, taken.2, appends_appendExecution taken.1⟩

/-- Over any calls a record that holds sound executions gives back at each load those that it held
and all that were appended so far, and holds all of them behind what it held. -/
theorem Logs.serveTrails (logs : store.Logs kept) (sound : ∀ execution ∈ kept, execution.Sound)
    {calls : List TrailCall} (sounds : ∀ call ∈ calls, ∀ execution ∈ call.appends, execution.Sound) :
    (store.serveTrails calls).2 = TrailCall.repliesTo kept calls ∧
      (store.serveTrails calls).1.Logs (kept ++ calls.flatMap TrailCall.appends) ∧
      store.Appends (calls.flatMap TrailCall.appends) (store.serveTrails calls).1 := by
  induction calls generalizing store kept with
  | nil => exact ⟨rfl, (List.append_nil kept).symm ▸ logs, .refl store⟩
  | cons call calls inductionHypothesis =>
      rw [List.forall_mem_cons] at sounds
      obtain ⟨reply, held, added⟩ := logs.serveTrail sound call
      have all : ∀ execution ∈ kept ++ call.appends, execution.Sound := fun execution among =>
        (List.mem_append.mp among).elim (sound execution) (sounds.1 execution)
      obtain ⟨replies, last, rest⟩ := inductionHypothesis held all sounds.2
      rw [List.flatMap_cons, ← List.append_assoc]
      refine ⟨?_, last, added.trans rest⟩
      rw [Store.serveTrails, TrailCall.repliesTo, reply, replies]

/-- Over any calls that append and load sound executions, a file gives back what memory gives back:
each load gives all executions that were appended so far, in order. The bytes of the file stay, and
the lines of the new executions come behind them. -/
theorem serveTrails_files {files : FileStore} (logs : files.Logs kept)
    (sound : ∀ execution ∈ kept, execution.Sound) {calls : List TrailCall}
    (sounds : ∀ call ∈ calls, ∀ execution ∈ call.appends, execution.Sound) (issues : List Issue) :
    let filed := (Store.files files).serveTrails calls
    let recalled := (Store.memory issues kept).serveTrails calls
    filed.2 = recalled.2 ∧ filed.2 = TrailCall.repliesTo kept calls ∧
      (Store.files files).Appends (calls.flatMap TrailCall.appends) filed.1 := by
  have inFiles : (Store.files files).Logs kept := logs
  have inMemory : (Store.memory issues kept).Logs kept := rfl
  obtain ⟨replies, -, added⟩ := inFiles.serveTrails sound sounds
  exact ⟨replies.trans (inMemory.serveTrails sound sounds).1.symm, replies, added⟩

end Store

namespace Attempts

/-- A state directory without files. -/
def files : FileStore := ⟨"state", .empty⟩

/-- An attempt whose texts hold line breaks, quotes, control characters and letters beyond ASCII. -/
def refused : FixExecution where
  id := "a\r\nb"
  fixId := "fix_1"
  issueId := "iss_1"
  table := "données"
  ddl := "ALTER TABLE \"x\ny\" ADD COLUMN \\ \t"
  appliedAt := .ofMillis 1700000000123
  durationMillis := Json.word64
  success := false
  rollback := some "\n\n"
  errorMessage := some "\u0001\u2028 déjà vu \u007f"

/-- An attempt that succeeded, without texts that may be missing. -/
def granted : FixExecution :=
  { refused with ddl := "", success := true, rollback := none, errorMessage := none }

theorem sound_attempts : refused.Sound ∧ granted.Sound := by decide +kernel

/-- Each load gives back the attempts appended before it. -/
theorem serveTrails_attempts :
    ((Store.files files).serveTrails [.load, .append refused, .load, .append granted, .append refused,
      .load]).2 = [.loaded (.ok []), .appended none, .loaded (.ok [refused]), .appended none,
        .appended none, .loaded (.ok [refused, granted, refused])] := by
  have logs : files.Logs [] := ⟨rfl, rfl⟩
  obtain ⟨refusal, grant⟩ := sound_attempts
  refine (Store.serveTrails_files logs (List.forall_mem_nil _) ?_ []).2.1
  simp only [List.forall_mem_cons, Store.TrailCall.appends]
  simp [refusal, grant]

end Attempts

end SchemaDrift
