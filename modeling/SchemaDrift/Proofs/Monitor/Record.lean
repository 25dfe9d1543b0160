import SchemaDrift.Proofs.Catalog.Capture
import SchemaDrift.Proofs.Monitor.Failure
import SchemaDrift.Proofs.Monitor.Provenance
import SchemaDrift.Proofs.Store.Contents

namespace SchemaDrift

theorem KnownIssues.ofList_values {issues : Keyed Issue} (known : KnownIssues issues) :
    Keyed.ofList (issues.values.map fun issue => (issue.id, issue)) = issues := by
  have listed : ∀ {key issue}, (key, issue) ∈ issues.values.map (fun issue => (issue.id, issue)) ↔
      issues.get? key = some issue := by
    intro key issue
    simp only [List.mem_map, Prod.mk.injEq]
    constructor
    · intro ⟨other, present, named, same⟩
      rw [← named, ← same]
      exact known.get?_id present
    · intro found
      exact ⟨issue, Keyed.mem_values_of_get? found, known.named found, rfl⟩
  refine Keyed.ext_get? (KnownIssues.ofList _).ordered known.ordered ?_
  intro key
  cases found : issues.get? key with
  | none =>
      rw [Option.eq_none_iff_forall_ne_some]
      intro issue present
      have other := listed.mp (Keyed.mem_of_get?_ofList present)
      rw [found] at other
      cases other
  | some issue =>
      obtain ⟨other, present⟩ :=
        Option.isSome_iff_exists.mp (Keyed.isSome_get?_ofList (listed.mpr found))
      have same := listed.mp (Keyed.mem_of_get?_ofList present)
      rw [found] at same
      rw [present, same]

namespace Service

/-- The record holds the issues that the monitor knows. -/
def Agrees (service : Service) : Prop := service.store.Holds service.monitor.issues.values

variable {service : Service}

/-- A cycle keeps record and monitor in agreement, whether its issues are recorded or refused. -/
theorem Agrees.publish (agrees : service.Agrees) (cycleId : String) (analysis : Analysis)
    (now : Moment) : (service.publish cycleId analysis now).1.Agrees := by
  unfold Service.publish
  simp only
  split
  · rename_i store error saved
    have held := Store.Holds.saveIssues_refused agrees (congrArg Prod.snd saved)
    rw [saved] at held
    exact held
  · rename_i store saved
    have held := Store.holds_saveIssues (congrArg Prod.snd saved)
    rw [saved] at held
    exact held

/-- The change of an issue puts all issues into the record. -/
theorem updateIssue_store (service : Service) (id : String) (change : Issue → Issue) :
    (service.updateIssue id change).1.store =
      (service.store.saveIssues (service.monitor.issues.modify id change).values).1 := by
  unfold updateIssue
  simp only
  split <;> rfl

/-- The change of an issue keeps record and monitor in agreement if it is recorded. -/
theorem agrees_updateIssue (accepts : service.store.Accepts) (id : String)
    (change : Issue → Issue) : (service.updateIssue id change).1.Agrees := by
  unfold Agrees
  rw [updateIssue_issues, updateIssue_store]
  exact Store.holds_saveIssues (accepts _)

/-- A request for a fix keeps record and monitor in agreement if its mark is recorded. -/
theorem Agrees.planFix (agrees : service.Agrees) (accepts : service.store.Accepts) (id : String)
    (approval : Approval) (now : Moment) : (service.planFix id approval now).1.Agrees := by
  obtain same | ⟨change, _, same⟩ := planFix_cases service id approval now
  · rw [same]
    exact agrees
  · rw [same]
    exact agrees_updateIssue accepts id change

/-- A fix that is applied keeps record and monitor in agreement if its mark is recorded. -/
theorem Agrees.executeFix (agrees : service.Agrees) (accepts : service.store.Accepts)
    (executionId : String) (fix : Fix) (now : Moment) :
    (service.executeFix executionId fix now).1.Agrees := by
  obtain same | same := executeFix_cases service executionId fix now
  · rw [same]
    exact agrees.appendExecution _
  · rw [same]
    exact agrees_updateIssue (accepts.appendExecution _) _ _

end Service

/-- The event leaves the record in order, so far as it is not a matter of the monitor: marks of fixes
are accepted, a monitor that starts anew can read the record, and the world leaves the issues in it
as they are. -/
def Event.Respects (store : Store) : Event → Prop
  | .answer _ | .requestFix _ _ => store.Accepts
  | .restart => ∀ issues, store.Holds issues → store.Readable issues
  | .edit _ other _ => ∀ issues, store.Holds issues → other.Holds issues
  | _ => True

/-- A request for a fix leaves a record in order that accepts its mark. -/
theorem Event.respects_requestFix {store : Store} (accepts : store.Accepts) (id : String)
    (approval : Approval) : (Event.requestFix id approval).Respects store :=
  accepts

namespace Timeline

variable {timeline : Timeline}

/-- Neither the record nor the issues that the monitor knows changed. -/
structure SameRecord (before after : Timeline) : Prop where
  store : after.service.store = before.service.store
  issues : after.service.monitor.issues = before.service.monitor.issues

/-- Agreement lasts where record and issues stay as they are. -/
theorem SameRecord.agrees {before after : Timeline} (same : SameRecord before after)
    (agrees : before.service.Agrees) : after.service.Agrees := by
  unfold Service.Agrees
  rw [same.store, same.issues]
  exact agrees

/-- A cycle that fails changes neither the record nor the issues. -/
theorem sameRecord_failCycle (error : CycleError) (timeline : Timeline) :
    SameRecord timeline (timeline.failCycle error) :=
  ⟨rfl, (quiet_failCycle error timeline).issues⟩

/-- A cycle that ends well changes neither the record nor the issues. -/
theorem sameRecord_finishCycle (id : String) (startedAt : Moment) (analysis : Analysis)
    (executions : List FixExecution) (timeline : Timeline) :
    SameRecord timeline (timeline.finishCycle id startedAt analysis executions) :=
  ⟨rfl, (quiet_finishCycle id startedAt analysis executions timeline).issues⟩

/-- Fixes that are given to the catalog change neither the record nor the issues. -/
theorem sameRecord_submitAll (fixes : List Fix) (timeline : Timeline) :
    SameRecord timeline (timeline.submitAll fixes) := by
  have given : ∀ fixes : List Fix, SameRecord timeline (fixes.foldl (submit true) timeline) := by
    intro fixes
    refine List.foldlRecOn (motive := SameRecord timeline) _ _ ⟨rfl, rfl⟩ ?_
    intro after same fix _
    exact ⟨same.store, same.issues⟩
  unfold submitAll
  exact ⟨(given _).store, (given _).issues⟩

/-- The note of an automatic fix changes neither the record nor the issues. -/
theorem sameRecord_noteExecution (result : Except MonitorError FixExecution) (timeline : Timeline) :
    SameRecord timeline (timeline.noteExecution result) := by
  obtain ended | ⟨same, _⟩ := noteExecution_cases result timeline
  · refine ⟨?_, (quiet_noteExecution result timeline).issues⟩
    unfold noteExecution
    split
    · simp only
      split <;> rfl
    · rfl
  · exact ⟨by rw [same], by rw [same]⟩

/-- A cycle that begins keeps record and monitor in agreement. -/
theorem Begun.agrees {before after : Service} (begun : Begun before after) (agrees : before.Agrees) :
    after.Agrees := by
  cases begun with
  | kept same => exact same ▸ agrees
  | begun idle cycleId same => exact same ▸ agrees

/-- A step of a cycle keeps record and monitor in agreement. -/
theorem agrees_advance (agrees : timeline.service.Agrees) : timeline.advance.service.Agrees := by
  have publishing : ∀ {timeline : Timeline} (id : String) (startedAt : Moment) (scan : ScanResult)
      (capture : Except IntrospectionError Snapshot), timeline.service.Agrees →
      (timeline.publishCycle id startedAt scan capture).service.Agrees := by
    intro timeline id startedAt scan capture agrees
    unfold publishCycle
    split
    · exact (sameRecord_failCycle _ timeline).agrees agrees
    · rename_i analysis _
      have published := agrees.publish id analysis timeline.now
      split
      · rename_i service error refused
        rw [refused] at published
        exact (sameRecord_failCycle error { timeline with service }).agrees published
      · rename_i service fixes granted
        rw [granted] at published
        have submitted := (sameRecord_submitAll fixes { timeline with service }).agrees published
        simp only
        split
        · exact submitted
        · exact (sameRecord_finishCycle id startedAt analysis [] _).agrees submitted
  have reading : ∀ {timeline : Timeline} (id : String) (startedAt : Moment) (scan : ScanResult)
      (capture : Capture), timeline.service.Agrees →
      (timeline.continueReading id startedAt scan capture).service.Agrees := by
    intro timeline id startedAt scan capture agrees
    unfold continueReading
    split
    · exact publishing id startedAt scan _ agrees
    · exact agrees
  unfold advance
  split
  · split
    · unfold advanceCycle
      simp only
      split
      · exact reading _ _ _ _ agrees
      · exact reading _ _ _ _ agrees
      · exact agrees
    · exact agrees
  · exact agrees

/-- An answer of the catalog keeps record and monitor in agreement if its mark is recorded. -/
theorem agrees_answer (agrees : timeline.service.Agrees) (accepts : timeline.service.store.Accepts)
    (place : Nat) : (timeline.answer place).service.Agrees := by
  unfold answer
  simp only
  split
  · rename_i application _
    have ran := agrees.executeFix accepts application.executionId application.fix
      application.begunAt
    unfold finishApplication
    generalize timeline.service.executeFix application.executionId application.fix
      application.begunAt = executed at ran ⊢
    obtain ⟨service, result⟩ := executed
    simp only at ran ⊢
    split
    · refine (sameRecord_noteExecution result _).agrees ?_
      exact ran
    · exact ran
  · exact agrees

/-- A request for a fix leaves record and issues as its planning does. -/
theorem requestFix_record (id : String) (approval : Approval) (timeline : Timeline) :
    (timeline.requestFix id approval).service.store =
        (timeline.service.planFix id approval timeline.now).1.store ∧
      (timeline.requestFix id approval).service.monitor.issues =
        (timeline.service.planFix id approval timeline.now).1.monitor.issues := by
  unfold requestFix
  generalize timeline.service.planFix id approval timeline.now = plan
  obtain ⟨service, result⟩ := plan
  cases result <;> exact ⟨rfl, rfl⟩

/-- A request for a fix keeps record and monitor in agreement if its mark is recorded. -/
theorem agrees_requestFix (agrees : timeline.service.Agrees)
    (accepts : timeline.service.store.Accepts) (id : String) (approval : Approval) :
    (timeline.requestFix id approval).service.Agrees := by
  obtain ⟨store, issues⟩ := requestFix_record id approval timeline
  unfold Service.Agrees
  rw [store, issues]
  exact agrees.planFix accepts id approval timeline.now

/-- A monitor that starts anew knows the same issues as before if it can read its record. -/
theorem restart_of_agrees (agrees : timeline.service.Agrees)
    (known : KnownIssues timeline.service.monitor.issues)
    (readable : timeline.service.store.Readable timeline.service.monitor.issues.values) :
    ∃ restarted, timeline.restart = .ok restarted ∧ SameRecord timeline restarted := by
  have loaded := Store.Holds.loadIssues agrees readable
  simp only [restart, Service.start, loaded]
  exact ⟨_, rfl, rfl, known.ofList_values⟩

/-- Every event that leaves the record in order keeps record and monitor in agreement. -/
theorem agrees_occur (agrees : timeline.service.Agrees)
    (known : KnownIssues timeline.service.monitor.issues) {event : Event}
    (respects : event.Respects timeline.service.store) :
    (timeline.occur event).service.Agrees := by
  cases event with
  | tick time => exact agrees
  | answer place => exact agrees_answer agrees respects place
  | advance => exact agrees_advance agrees
  | hear => exact (begun_hear timeline).agrees agrees
  | requestCycle => exact (begun_occur_requestCycle timeline).agrees agrees
  | requestFix id approval => exact agrees_requestFix agrees respects id approval
  | setAutoApply enabled => exact agrees
  | resume => exact agrees
  | stop => exact agrees
  | startSchedule => exact agrees
  | restart =>
      obtain ⟨restarted, started, same⟩ := restart_of_agrees agrees known (respects _ agrees)
      simp only [occur, started, Except.toOption, Option.getD_some]
      exact same.agrees agrees
  | edit sources store catalog => exact respects _ agrees

/-- Every event of a run leaves the record in order. -/
def Orderly (start : Timeline) (events : List Event) : Prop :=
  ∀ (earlier : List Event) (event : Event) (later : List Event), events = earlier ++ event :: later →
    event.Respects (start.after earlier).service.store

/-- A run leaves the record in order if it did so until its last event, and that event does so. -/
theorem Orderly.concat {start : Timeline} {events : List Event} (orderly : Orderly start events)
    {event : Event} (respects : event.Respects (start.after events).service.store) :
    Orderly start (events ++ [event]) := by
  intro earlier other later split
  obtain ⟨rfl, rfl, rfl⟩ | ⟨between, rfl, same⟩ := concat_eq_append_cons_iff.mp split
  · exact respects
  · exact orderly earlier other between same

/-- A run that leaves the record in order keeps record and monitor in agreement. -/
theorem Orderly.agrees {start : Timeline}
    (known : ∀ earlier, KnownIssues (start.after earlier).service.monitor.issues)
    (agrees : start.service.Agrees) {events : List Event} (orderly : Orderly start events) :
    (start.after events).service.Agrees := by
  induction events using List.reverseRecOn with
  | nil => exact agrees
  | append_singleton events event inductionHypothesis =>
      have before : Orderly start events := by
        intro earlier other later same
        exact orderly earlier other (later ++ [event]) (by rw [same, List.append_assoc]; rfl)
      rw [after_concat]
      exact agrees_occur (inductionHypothesis before) (known events) (orderly events event [] rfl)

/-- A monitor that starts with a record of no issues finds in it what it knows, at every moment of a
run that leaves the record in order: the record holds just its issues, and where they can be read,
they are what is loaded and what a monitor that starts anew knows. -/
theorem recorded_after (settings : Settings) (store : Store) (catalog : Catalog) (sources : Sources)
    (ids : Nat → String) (events : List Event) (empty : store.Holds [])
    (orderly : Orderly (ofService ⟨.ofIssues settings [], store, catalog⟩ sources ids) events) :
    let reached := (ofService ⟨.ofIssues settings [], store, catalog⟩ sources ids).after events
    reached.service.store.Holds reached.service.monitor.issues.values ∧
    (reached.service.store.Readable reached.service.monitor.issues.values →
      reached.service.store.loadIssues = .ok reached.service.monitor.issues.values ∧
      ∃ restarted, reached.restart = .ok restarted ∧
        restarted.service.monitor.issues = reached.service.monitor.issues) := by
  intro reached
  have known := known_after_ofService settings [] store catalog sources ids
  have agrees : reached.service.Agrees := orderly.agrees known empty
  refine ⟨agrees, ?_⟩
  intro readable
  obtain ⟨restarted, started, same⟩ := restart_of_agrees agrees (known events) readable
  exact ⟨Store.Holds.loadIssues agrees readable, restarted, started, same.issues⟩

/-- When the world changes, so does the record. -/
theorem store_edit (sources : Sources) (store : Store) (catalog : Catalog) (timeline : Timeline) :
    (timeline.occur (.edit sources store catalog)).service.store = store := rfl

/-- A request for a fix leaves a record as it is that stays so whatever is put into it. -/
theorem store_requestFix
    (stuck : ∀ issues, (timeline.service.store.saveIssues issues).1 = timeline.service.store)
    (id : String) (approval : Approval) :
    (timeline.requestFix id approval).service.store = timeline.service.store := by
  rw [(requestFix_record id approval timeline).1]
  obtain same | ⟨change, _, same⟩ := Service.planFix_cases timeline.service id approval timeline.now
  · rw [same]
  · rw [same, Service.updateIssue_store]
    exact stuck _

namespace Deployments

/-- Sources that read a table which is not there. -/
def sources : Sources :=
  ⟨FileTree.empty.writeText "health.py" "cur.execute(\"SELECT * FROM deployment_test\")\n", some [], "."⟩

/-- A monitor that knows no issues, with a record and no tables. -/
def monitoring (store : Store) : Timeline :=
  ofService ⟨.ofIssues .initial [], store, .empty "public" ⟨0⟩⟩ sources fun _ => "id"

/-- A cycle finds that the table is missing. -/
def found : List Event := [.requestCycle, .advance, .advance]

/-- An operator approves the fix that creates the table. -/
def approved : Event := .requestFix "iss_c5bc88956d77ea16" .manual

/-- The standings of all issues that the monitor knows. -/
def standings (timeline : Timeline) : List IssueStatus :=
  timeline.service.monitor.issues.values.map (·.status)

/-- What the monitor has come to once the fix was approved. -/
def marked (store : Store) : Timeline := (monitoring store).after (found ++ [approved])

/-- The approval comes after the cycle. -/
theorem marked_eq (store : Store) :
    marked store = ((monitoring store).after found).occur approved := after_concat _ _ _

/-- A record in memory takes the issues of the cycle and can be read once the fix is approved. -/
theorem approved_inMemory :
    ((monitoring .empty).after found).service.store.Accepts ∧
    (marked .empty).service.store.Readable (marked .empty).service.monitor.issues.values ∧
    standings (marked .empty) = [.approved] := by
  rw [marked_eq]
  decide +kernel

/-- A monitor whose record is in memory finds in it the fix that was approved. -/
theorem recorded_inMemory :
    Orderly (monitoring .empty) (found ++ [approved]) ∧ standings (marked .empty) = [.approved] ∧
    (marked .empty).service.store.loadIssues =
      .ok (marked .empty).service.monitor.issues.values ∧
    ∃ restarted, (marked .empty).restart = .ok restarted ∧
      restarted.service.monitor.issues = (marked .empty).service.monitor.issues := by
  have cycled : Orderly (monitoring .empty) found := by
    intro earlier event later split
    obtain _ | ⟨first, _ | ⟨second, _ | ⟨third, rest⟩⟩⟩ := earlier
    · cases split
      trivial
    · cases split
      trivial
    · cases split
      trivial
    · cases rest <;> cases split
  obtain ⟨accepts, readable, approving⟩ := approved_inMemory
  have orderly : Orderly (monitoring .empty) (found ++ [approved]) :=
    cycled.concat (Event.respects_requestFix accepts _ _)
  have recorded := recorded_after .initial .empty (.empty "public" ⟨0⟩) sources (fun _ => "id")
    (found ++ [approved]) rfl orderly
  exact ⟨orderly, approving, recorded.2 readable⟩

/-- The record in files has a directory in the way of every list of issues; one in memory cannot. -/
def blocked : Store → Store
  | .memory issues executions => .memory issues executions
  | .files store => .files { store with tree := store.tree.addDirectoryAt [issuesDraftFile] }

/-- The record is kept in files. -/
def inFiles : Store → Bool
  | .memory _ _ => false
  | .files _ => true

/-- A directory in the way of the issues leaves those in the file as they are. -/
theorem loadIssues_blocked (store : Store) : (blocked store).loadIssues = store.loadIssues := by
  cases store with
  | memory issues executions => rfl
  | files store =>
      have free : [issuesFile].isPrefixOf [issuesDraftFile] = false := by decide
      simp only [blocked, Store.loadIssues, FileStore.loadIssues, FileStore.readText,
        FileStore.isBlocked, FileTree.isDirectoryAt, FileTree.addDirectoryAt, List.any_append,
        List.any_cons, List.any_nil, free, Bool.or_false]
      rfl

/-- A record in files with a directory in the way refuses every list of issues, and stays as it
is. -/
theorem saveIssues_blocked {store : Store} (kept : inFiles store = true) (issues : List Issue) :
    ((blocked store).saveIssues issues).1 = blocked store := by
  cases store with
  | memory known executions => cases kept
  | files store =>
      have inTheWay : FileStore.isBlocked
          { store with tree := store.tree.addDirectoryAt [issuesDraftFile] } issuesDraftFile =
            true := by
        simp [FileStore.isBlocked, FileTree.isDirectoryAt, FileTree.addDirectoryAt]
      simp only [blocked, Store.saveIssues, FileStore.saveIssues, inTheWay, if_true]

/-- A monitor that knows no issues, with a record in files. -/
def onDisk : Timeline := monitoring (.files ⟨"", .empty⟩)

/-- The record in files after a cycle that found the missing table. -/
def kept : Store := (onDisk.after found).service.store

/-- After the cycle something gets in the way of the record. -/
def hindered : List Event := found ++ [Event.edit sources (blocked kept) (.empty "public" ⟨0⟩)]

/-- The record is in files, and the missing table is pending until its fix is approved. -/
theorem approved_onDisk :
    inFiles kept = true ∧ standings (onDisk.after hindered) = [.pending] ∧
    standings ((onDisk.after hindered).occur approved) = [.approved] := by
  decide +kernel

/-- The record takes no mark once something is in its way. -/
theorem requestFix_hindered :
    ((onDisk.after hindered).occur approved).service.store = (onDisk.after hindered).service.store := by
  have store : (onDisk.after hindered).service.store = blocked kept := by
    rw [hindered, after_concat]
    exact store_edit _ _ _ _
  have asked : ∀ timeline : Timeline,
      timeline.occur approved = timeline.requestFix "iss_c5bc88956d77ea16" .manual := fun _ => rfl
  rw [asked]
  refine store_requestFix ?_ _ _
  intro issues
  rw [store]
  exact saveIssues_blocked approved_onDisk.1 issues

/-- A mark stays with the monitor even if the record refuses it. So record and monitor cannot agree
both before and after an operator approved the fix, though nothing changed the issues in the record
but the monitor. -/
theorem mark_unrecorded :
    (blocked kept).loadIssues = kept.loadIssues ∧
    ¬ ∀ earlier later, hindered ++ [approved] = earlier ++ later →
      (onDisk.after earlier).service.store.loadIssues =
        .ok (onDisk.after earlier).service.monitor.issues.values := by
  refine ⟨loadIssues_blocked kept, ?_⟩
  intro agree
  obtain ⟨_, pending, approving⟩ := approved_onDisk
  have first := agree hindered [approved] rfl
  have second := agree (hindered ++ [approved]) [] (List.append_nil _).symm
  rw [after_concat, requestFix_hindered, first, Except.ok.injEq] at second
  unfold standings at pending approving
  rw [← second, pending] at approving
  cases approving

end Deployments

end Timeline

end SchemaDrift
