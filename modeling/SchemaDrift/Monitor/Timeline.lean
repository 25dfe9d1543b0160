import SchemaDrift.Monitor.Backoff
import SchemaDrift.Monitor.Cycle

/-
This file holds a monitor at work in time. Answers of the catalog take their time, so a cycle reads,
publishes and applies at different moments, other requests come in between, and the schedule waits
from one cycle to the next. Fixes on one table are applied one after the other.
-/

namespace SchemaDrift

/-- What a cycle in flight does: it has not begun, it reads the database, or its fixes are
applied. -/
inductive CycleStage where
  | requested
  | reading (startedAt : Moment) (scan : ScanResult) (capture : Capture)
  | applying (startedAt : Moment) (analysis : Analysis) (executions : List FixExecution)

/-- A cycle in flight, with the time of what it waits for; fixes have times of their own. -/
structure CycleRun where
  id : String
  due : Span
  stage : CycleStage

/-- A fix that is under way: its statement is given to the catalog when its table is free, and the
answer is due later. -/
structure Application where
  begun : Span
  due : Span
  fix : Fix
  executionId : String
  automatic : Bool

/-- The point of time at which the statement is given to the catalog. -/
def Application.begunAt (application : Application) : Moment := .ofMillis application.begun.toMillis

/-- What the schedule waits for: a time, the end of its cycle, or an operator. -/
inductive Schedule where
  | sleeping (due : Span)
  | cycling
  | paused
  deriving DecidableEq

/-- A service at a point of time, with what is under way. `woken` is a call to the schedule that it
has not heard yet, and `ids` are the identities for cycles and attempts that are still unused from
`nextId` on. -/
structure Timeline where
  service : Service
  sources : Sources
  clock : Span
  cycle : Option CycleRun
  applications : List Application
  schedule : Option Schedule
  woken : Bool
  lastCycle : Option (Except CycleError CycleReport)
  lastApplication : Option (Except MonitorError FixExecution)
  nextId : Nat
  ids : Nat → String

namespace Timeline

/-- A service at rest at the start of time. -/
def ofService (service : Service) (sources : Sources) (ids : Nat → String) : Timeline where
  service := service
  sources := sources
  clock := ⟨0⟩
  cycle := none
  applications := []
  schedule := none
  woken := false
  lastCycle := none
  lastApplication := none
  nextId := 0
  ids := ids

/-- The point of time that the clock shows. -/
def now (timeline : Timeline) : Moment := .ofMillis timeline.clock.toMillis

def onService (change : Service → Service) (timeline : Timeline) : Timeline :=
  { timeline with service := change timeline.service }

def onMonitor (change : Monitor → Monitor) (timeline : Timeline) : Timeline :=
  timeline.onService (.onMonitor change)

/-- An identity, and the timeline that will not give it again. -/
def takeId (timeline : Timeline) : String × Timeline :=
  (timeline.ids timeline.nextId, { timeline with nextId := timeline.nextId + 1 })

/-- The time at which the fixes already under way on a table are done. -/
def tableFreeAt (timeline : Timeline) (table : String) : Span :=
  (timeline.applications.filter fun application => application.fix.table == table).foldl
    (fun free application => free.longer application.due) timeline.clock

/-- How long the catalog takes to answer a fix. -/
def executionTime (timeline : Timeline) : Span :=
  timeline.service.catalog.executionTime timeline.service.monitor.executionLimit

/-- The order of applications by the time of their answers. -/
def orderApplications (a b : Application) : Ordering := compare a.due.nanos b.due.nanos

/-- The timeline with a fix given to the catalog as soon as its table is free. -/
def submit (automatic : Bool) (timeline : Timeline) (fix : Fix) : Timeline :=
  let begun := timeline.tableFreeAt fix.table
  let due := begun + timeline.executionTime
  let (executionId, timeline) := timeline.takeId
  let application : Application := ⟨begun, due, fix, executionId, automatic⟩
  { timeline with applications := timeline.applications ++ [application] }.onMonitor fun monitor =>
    { monitor with applying := monitor.applying + 1 }

/-- The order in which tables take turns, where answers take time: that of their first fixes. -/
def rankFixes (fixes : List Fix) : List Fix :=
  let tables := (fixes.map (·.table)).eraseDups
  tables.flatMap fun table => fixes.filter fun fix => fix.table == table

/-- The timeline with all automatic fixes of a cycle given to the catalog. -/
def submitAll (fixes : List Fix) (timeline : Timeline) : Timeline :=
  let instant := timeline.executionTime.nanos = 0
  let timeline := (if instant then fixes else rankFixes fixes).foldl (submit true) timeline
  { timeline with applications := sortStable orderApplications timeline.applications }

/-- What the schedule waits for after a cycle of its own. -/
def scheduleAfter (timeline : Timeline) : Except CycleError CycleReport → Option Schedule
  | .ok _ => some (.sleeping
      (timeline.clock + .ofSeconds timeline.service.monitor.settings.monitor.intervalSecs))
  | .error .cancelled => none
  | .error _ =>
    let monitor := timeline.service.monitor
    let backoff := Backoff.ofSettings monitor.settings.monitor
    if monitor.paused then some .paused
    else some (.sleeping (timeline.clock + backoff.delay monitor.failures))

/-- The timeline after the cycle in flight ended. -/
def endCycle (result : Except CycleError CycleReport) (timeline : Timeline) : Timeline :=
  { timeline with
    cycle := none
    lastCycle := some result
    schedule :=
      if timeline.schedule = some .cycling then timeline.scheduleAfter result
      else timeline.schedule }

/-- The timeline after the cycle in flight failed. -/
def failCycle (error : CycleError) (timeline : Timeline) : Timeline :=
  (timeline.onService (.failCycle error)).endCycle (.error error)

/-- The timeline after the fixes of the cycle in flight were applied. -/
def finishCycle (id : String) (startedAt : Moment) (analysis : Analysis)
    (executions : List FixExecution) (timeline : Timeline) : Timeline :=
  let (service, report) :=
    timeline.service.finishCycle id analysis executions startedAt timeline.now
  { timeline with service }.endCycle (.ok report)

/-- Some automatic fix is under way. -/
def hasAutomatic (timeline : Timeline) : Bool := timeline.applications.any (·.automatic)

/-- The timeline after the cycle in flight read sources and database. -/
def publishCycle (id : String) (startedAt : Moment) (scan : ScanResult)
    (capture : Except IntrospectionError Snapshot) (timeline : Timeline) : Timeline :=
  match Service.analyze timeline.service.monitor scan capture timeline.now with
  | .error error => timeline.failCycle error
  | .ok analysis =>
    match timeline.service.publish id analysis timeline.now with
    | (service, .error error) => { timeline with service }.failCycle error
    | (service, .ok fixes) =>
      let timeline := { timeline with service }.submitAll fixes
      if timeline.hasAutomatic then
        { timeline with
          cycle := some ⟨id, timeline.clock, .applying startedAt analysis []⟩ }
      else timeline.finishCycle id startedAt analysis []

/-- The timeline with the cycle in flight reading the database, or past it. -/
def continueReading (id : String) (startedAt : Moment) (scan : ScanResult) (capture : Capture)
    (timeline : Timeline) : Timeline :=
  match capture with
  | .finished result => timeline.publishCycle id startedAt scan result
  | capture =>
    let wait := capture.answerTime timeline.service.monitor.introspection timeline.service.catalog
    { timeline with
      cycle := some ⟨id, timeline.clock + wait, .reading startedAt scan capture⟩ }

/-- The timeline after what the cycle in flight waits for has come. A monitor that was stopped
cancels the reading. -/
def advanceCycle (run : CycleRun) (timeline : Timeline) : Timeline :=
  let monitor := timeline.service.monitor
  match run.stage with
  | .requested =>
    let scan := timeline.sources.scan monitor.settings monitor.stopped
    let capture := if monitor.stopped then .finished (.error .cancelled) else .listing
    (timeline.onService (.enter .scanning)).continueReading run.id timeline.now scan capture
  | .reading startedAt scan capture =>
    let capture :=
      if monitor.stopped then .finished (.error .cancelled)
      else capture.advance monitor.introspection timeline.service.catalog
    timeline.continueReading run.id startedAt scan capture
  | .applying startedAt analysis executions =>
    timeline.finishCycle run.id startedAt analysis executions

/-- The timeline after an automatic fix of the cycle in flight was applied. -/
def noteExecution (result : Except MonitorError FixExecution) (timeline : Timeline) : Timeline :=
  match timeline.cycle with
  | some ⟨id, due, .applying startedAt analysis executions⟩ =>
    let executions := executions ++ result.toOption.toList
    if timeline.hasAutomatic then
      { timeline with cycle := some ⟨id, due, .applying startedAt analysis executions⟩ }
    else timeline.finishCycle id startedAt analysis executions
  | _ => timeline

/-- The timeline after the catalog answered a fix, which is one of those under way no more. -/
def finishApplication (application : Application) (others : List Application)
    (timeline : Timeline) : Timeline :=
  let (service, result) :=
    timeline.service.executeFix application.executionId application.fix application.begunAt
  let timeline := { timeline with service, applications := others }.onMonitor fun monitor =>
    { monitor with applying := monitor.applying - 1 }
  if application.automatic then timeline.noteExecution result
  else { timeline with lastApplication := some result }

/-- The timeline with a cycle requested, or the cycle that is in flight already. -/
def requestCycle (timeline : Timeline) : Except String Timeline := do
  let (id, timeline) := timeline.takeId
  let service ← timeline.service.beginCycle id
  return { timeline with service, cycle := some ⟨id, timeline.clock, .requested⟩ }

/-- The timeline after the schedule has heard a call or its time has come. -/
def advanceSchedule (schedule : Schedule) (timeline : Timeline) : Timeline :=
  let monitor := timeline.service.monitor
  let timeline := { timeline with woken := false }
  if monitor.stopped then { timeline with schedule := none }
  else
    match schedule with
    | .cycling => timeline
    | .paused => { timeline with schedule := some (.sleeping timeline.clock) }
    | .sleeping _ =>
      if monitor.paused then { timeline with schedule := some .paused }
      else
        match timeline.requestCycle with
        | .ok timeline => { timeline with schedule := some .cycling }
        | .error _ =>
          { timeline with
            schedule := some (.sleeping
              (timeline.clock + .ofSeconds monitor.settings.monitor.intervalSecs)) }

/-- The time at which the cycle in flight goes on by itself. -/
def cycleDue? (timeline : Timeline) : Option Span :=
  timeline.cycle.bind fun run =>
    match run.stage with
    | .applying _ _ _ => none
    | _ => some (if timeline.service.monitor.stopped then timeline.clock else run.due)

/-- The time at which the schedule goes on. -/
def scheduleDue? (timeline : Timeline) : Option Span :=
  let called := timeline.woken || timeline.service.monitor.stopped
  match timeline.schedule with
  | none => none
  | some .cycling => none
  | some .paused => if called then some timeline.clock else none
  | some (.sleeping due) => some (if called then timeline.clock else due)

/-- The application whose answer comes first, and the others. -/
def firstApplication? (timeline : Timeline) : Option (Application × List Application) :=
  match sortStable orderApplications timeline.applications with
  | [] => none
  | first :: others => some (first, others)

/-- What happens next, and when: an answer to a fix before a step of the cycle before a step of the
schedule, when they fall on one time. -/
def nextEvent? (timeline : Timeline) : Option (Span × (Timeline → Timeline)) :=
  let answer := timeline.firstApplication?.map fun first =>
    (first.1.due, finishApplication first.1 first.2)
  let cycle := timeline.cycle.bind fun run =>
    timeline.cycleDue?.map fun due => (due, advanceCycle run)
  let schedule := timeline.schedule.bind fun schedule =>
    timeline.scheduleDue?.map fun due => (due, advanceSchedule schedule)
  [cycle, schedule].foldl (fun first event =>
    match first, event with
    | some first, some event => if event.1.isBefore first.1 then some event else some first
    | none, event => event
    | first, none => first) answer

/-- The timeline at a time that is not before its own. -/
def setClock (time : Span) (timeline : Timeline) : Timeline :=
  { timeline with clock := timeline.clock.longer time }

/-- The timeline after what happens while a condition holds, in at most a number of steps. -/
def runWhile (condition : Timeline → Span → Bool) : Nat → Timeline → Timeline
  | 0, timeline => timeline
  | steps + 1, timeline =>
    match timeline.nextEvent? with
    | none => timeline
    | some (due, event) =>
      if condition timeline due then runWhile condition steps (event (timeline.setClock due))
      else timeline

/-- The greatest number of steps between two requests. -/
def stepLimit : Nat := 1000000

/-- The timeline after a span of time. What falls on its end has not happened yet. -/
def wait (span : Span) (timeline : Timeline) : Timeline :=
  let target := timeline.clock + span
  (timeline.runWhile (fun _ due => due.isBefore target) stepLimit).setClock target

/-- The timeline after a whole cycle at the request of an operator. -/
def runCycle (timeline : Timeline) : Timeline × Except CycleError CycleReport :=
  match timeline.requestCycle with
  | .error other => (timeline, .error (.alreadyRunning other))
  | .ok timeline =>
    let timeline := timeline.runWhile (fun timeline _ => timeline.cycle.isSome) stepLimit
    (timeline, timeline.lastCycle.getD (.error .crashed))

/-- The timeline with a cycle requested that runs while time passes. -/
def requestScan (timeline : Timeline) : Timeline × Except MonitorError ScanTicket :=
  let monitor := timeline.service.monitor
  if monitor.paused then (timeline, .error (.paused monitor.failures))
  else
    match timeline.requestCycle with
    | .error other => (timeline, .ok ⟨other, true⟩)
    | .ok requested => (requested, .ok ⟨(requested.cycle.map (·.id)).getD "", false⟩)

/-- Some fix of an operator is under way. -/
def hasRequested (timeline : Timeline) : Bool := timeline.applications.any (!·.automatic)

/-- The timeline after the fix for an issue was planned and applied at the request of an
operator. -/
def applyFix (id : String) (approval : Approval) (timeline : Timeline) :
    Timeline × Except MonitorError FixExecution :=
  match timeline.service.planFix id approval timeline.now with
  | (service, .error error) => ({ timeline with service }, .error error)
  | (service, .ok fix) =>
    let submitted := { timeline with service }.submit false fix
    let timeline := submitted.runWhile (fun timeline _ => timeline.hasRequested) stepLimit
    (timeline, timeline.lastApplication.getD (.error (.issueNotFound id)))

/-- The timeline with its monitor resumed and the schedule called. -/
def resume (timeline : Timeline) : Timeline :=
  { timeline.onMonitor .resume with woken := true }

def startSchedule (timeline : Timeline) : Timeline :=
  { timeline with schedule := some (.sleeping timeline.clock) }

/-- The timeline after its monitor was stopped and the schedule has ended. -/
def stopSchedule (timeline : Timeline) : Timeline :=
  (timeline.onMonitor .stop).runWhile (fun timeline _ => timeline.schedule.isSome) stepLimit

/-- The timeline with a new monitor that knows the issues of the record. What was under way is
forgotten. -/
def restart (timeline : Timeline) : Except StoreError Timeline := do
  let old := timeline.service
  let service ← Service.start old.monitor.settings old.store old.catalog
  return { timeline with
    service, cycle := none, applications := [], schedule := none, woken := false }

end Timeline

end SchemaDrift
