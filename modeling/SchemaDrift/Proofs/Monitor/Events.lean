import SchemaDrift.Monitor.Timeline

namespace SchemaDrift

/-- What may happen to a monitor at work at any moment: time passes, the catalog answers one of the
fixes under way, the cycle in flight or the schedule goes on, an operator asks for something, the
monitor starts anew, or the world changes. -/
inductive Event where
  | tick (time : Span)
  | answer (place : Nat)
  | advance
  | hear
  | requestCycle
  | requestFix (id : String) (approval : Approval)
  | setAutoApply (enabled : Bool)
  | resume
  | stop
  | startSchedule
  | restart
  | edit (sources : Sources) (store : Store) (catalog : Catalog)

/-- The event happens by itself, whatever was asked for. -/
def Event.spontaneous : Event → Bool
  | .tick _ | .answer _ | .advance | .hear => true
  | _ => false

/-- A request that an operator waits for; a preview changes nothing, and whatever else happens may
come between two requests. -/
inductive Request where
  | event (event : Event)
  | runCycle
  | requestScan
  | previewFix (id : String)
  | applyFix (id : String) (approval : Approval)
  | wait (span : Span)
  | stopSchedule

/-- A request gives rise to an event: to the one that it asks for, or to what happens by itself until
the request is served. -/
inductive Request.Raises : Request → Event → Prop
  | event (event : Event) : Raises (.event event) event
  | runCycle : Raises .runCycle .requestCycle
  | requestScan : Raises .requestScan .requestCycle
  | applyFix (id : String) (approval : Approval) :
      Raises (.applyFix id approval) (.requestFix id approval)
  | stopSchedule : Raises .stopSchedule .stop
  | spontaneous {request : Request} {event : Event} (spontaneous : event.spontaneous = true) :
      Raises request event

/-- A fix is asked for by its own requests only. -/
theorem Request.raises_requestFix_iff {request : Request} {id : String} {approval : Approval} :
    request.Raises (.requestFix id approval) ↔
      request = .applyFix id approval ∨ request = .event (.requestFix id approval) := by
  constructor
  · intro raises
    cases raises with
    | event => exact .inr rfl
    | applyFix => exact .inl rfl
    | spontaneous spontaneous => cases spontaneous
  · rintro (rfl | rfl)
    · exact .applyFix id approval
    · exact .event _

/-- A run with one more step at its end splits at this step, or at one before it. -/
theorem concat_eq_append_cons_iff {Step : Type} {steps earlier later : List Step} {last step : Step} :
    steps ++ [last] = earlier ++ step :: later ↔
      (earlier = steps ∧ step = last ∧ later = []) ∨
      ∃ between, later = between ++ [last] ∧ steps = earlier ++ step :: between := by
  constructor
  · intro split
    obtain rfl | ⟨between, final, rfl⟩ := List.eq_nil_or_concat later
    · obtain ⟨same, ends⟩ := List.append_inj' split rfl
      exact .inl ⟨same.symm, (List.cons.inj ends).1.symm, rfl⟩
    · rw [List.concat_eq_append] at split ⊢
      rw [← List.cons_append, ← List.append_assoc] at split
      obtain ⟨same, ends⟩ := List.append_inj' split rfl
      rw [(List.cons.inj ends).1]
      exact .inr ⟨between, rfl, same⟩
  · rintro (⟨rfl, rfl, rfl⟩ | ⟨between, rfl, rfl⟩)
    · rfl
    · simp

/-- Some step of a run did something, and no step since then undid it. What a step does may depend on
those before it. -/
def StandsSince {Step : Type} (Does Undoes : List Step → Step → Prop) (steps : List Step) : Prop :=
  ∃ earlier step later, steps = earlier ++ step :: later ∧ Does earlier step ∧
    ∀ first next rest, later = first ++ next :: rest → ¬ Undoes (earlier ++ step :: first) next

section StandsSince

variable {Step : Type} {Does Undoes : List Step → Step → Prop} {steps : List Step} {step : Step}

/-- Nothing was done in no steps. -/
theorem not_standsSince_nil : ¬ StandsSince Does Undoes [] := by
  rintro ⟨earlier, step, later, split, _⟩
  cases earlier <;> cases split

/-- After one more step something stands if this step did it, or if it stood before and this step did
not undo it. -/
theorem standsSince_concat_iff : StandsSince Does Undoes (steps ++ [step]) ↔
    Does steps step ∨ StandsSince Does Undoes steps ∧ ¬ Undoes steps step := by
  constructor
  · rintro ⟨earlier, other, later, split, done, kept⟩
    obtain ⟨rfl, rfl, rfl⟩ | ⟨between, rfl, rfl⟩ := concat_eq_append_cons_iff.mp split
    · exact .inl done
    · refine .inr ⟨⟨earlier, other, between, rfl, done, ?_⟩, kept between step [] rfl⟩
      intro first next rest same
      exact kept first next (rest ++ [step]) (by rw [same]; simp)
  · rintro (done | ⟨⟨earlier, other, later, rfl, done, kept⟩, stands⟩)
    · refine ⟨steps, step, [], rfl, done, ?_⟩
      intro first next rest same
      cases first <;> cases same
    · refine ⟨earlier, other, later ++ [step], by simp, done, ?_⟩
      intro first next rest same
      obtain ⟨rfl, rfl, rfl⟩ | ⟨between, rfl, within⟩ := concat_eq_append_cons_iff.mp same
      · exact stands
      · exact kept first next between within

end StandsSince

namespace Timeline

/-- The timeline after the catalog answered the fix at a place in the order of answers. -/
def answer (place : Nat) (timeline : Timeline) : Timeline :=
  let pending := sortStable orderApplications timeline.applications
  match pending[place]? with
  | some application => timeline.finishApplication application (pending.eraseIdx place)
  | none => timeline

/-- The timeline after the cycle in flight went on, if it goes on by itself. -/
def advance (timeline : Timeline) : Timeline :=
  match timeline.cycle with
  | some run => if timeline.cycleDue?.isSome then timeline.advanceCycle run else timeline
  | none => timeline

/-- The timeline after the schedule went on, if it waits for no cycle. -/
def hear (timeline : Timeline) : Timeline :=
  match timeline.schedule with
  | some schedule =>
    if timeline.scheduleDue?.isSome then timeline.advanceSchedule schedule else timeline
  | none => timeline

/-- The timeline after an operator asked for the fix of an issue: it is planned, and given to the
catalog unless it is refused. -/
def requestFix (id : String) (approval : Approval) (timeline : Timeline) : Timeline :=
  match timeline.service.planFix id approval timeline.now with
  | (service, .error _) => { timeline with service }
  | (service, .ok fix) => { timeline with service }.submit false fix

/-- The timeline with other sources, another record and another catalog; what the catalog was asked
to run stays written down. -/
def edit (sources : Sources) (store : Store) (catalog : Catalog) (timeline : Timeline) : Timeline :=
  { timeline with
    sources
    service :=
      { timeline.service with
        store
        catalog := { catalog with log := timeline.service.catalog.log } } }

def occur (timeline : Timeline) : Event → Timeline
  | .tick time => timeline.setClock time
  | .answer place => timeline.answer place
  | .advance => timeline.advance
  | .hear => timeline.hear
  | .requestCycle => timeline.requestCycle.toOption.getD timeline
  | .requestFix id approval => timeline.requestFix id approval
  | .setAutoApply enabled => timeline.onMonitor (.setAutoApply enabled)
  | .resume => timeline.resume
  | .stop => timeline.onMonitor .stop
  | .startSchedule => timeline.startSchedule
  | .restart => timeline.restart.toOption.getD timeline
  | .edit sources store catalog => timeline.edit sources store catalog

def after (timeline : Timeline) (events : List Event) : Timeline := events.foldl occur timeline

/-- The timeline after a request was served to its end. -/
def serve (timeline : Timeline) : Request → Timeline
  | .event event => timeline.occur event
  | .runCycle => timeline.runCycle.1
  | .requestScan => timeline.requestScan.1
  | .previewFix _ => timeline
  | .applyFix id approval => (timeline.applyFix id approval).1
  | .wait span => timeline.wait span
  | .stopSchedule => timeline.stopSchedule

/-- The timeline after requests in their order. -/
def serveAll (timeline : Timeline) (requests : List Request) : Timeline :=
  requests.foldl serve timeline

/-- The requests, served one after the other, come to these events: each of them to what it gives
rise to. -/
inductive Unfolds : Timeline → List Request → List Event → Prop
  | nil {timeline : Timeline} : Unfolds timeline [] []
  | cons {timeline : Timeline} {request : Request} {requests : List Request}
      {events later : List Event} (raised : ∀ event ∈ events, request.Raises event)
      (served : timeline.serve request = timeline.after events)
      (rest : Unfolds (timeline.serve request) requests later) :
      Unfolds timeline (request :: requests) (events ++ later)

/-- Some events, all of them allowed, lead from one timeline to another. -/
def Leads (allowed : Event → Prop) (first last : Timeline) : Prop :=
  ∃ events : List Event, (∀ event ∈ events, allowed event) ∧ last = first.after events

/-- Events after others come after all of them. -/
theorem after_append (timeline : Timeline) (earlier later : List Event) :
    timeline.after (earlier ++ later) = (timeline.after earlier).after later :=
  List.foldl_append

/-- One more event comes after the others. -/
theorem after_concat (timeline : Timeline) (events : List Event) (event : Event) :
    timeline.after (events ++ [event]) = (timeline.after events).occur event :=
  timeline.after_append events [event]

variable {allowed : Event → Prop} {first middle last : Timeline}

theorem Leads.refl (timeline : Timeline) : Leads allowed timeline timeline :=
  ⟨[], List.forall_mem_nil _, rfl⟩

theorem Leads.trans (left : Leads allowed first middle) (right : Leads allowed middle last) :
    Leads allowed first last := by
  obtain ⟨earlier, before, rfl⟩ := left
  obtain ⟨later, after, rfl⟩ := right
  refine ⟨earlier ++ later, ?_, (first.after_append earlier later).symm⟩
  intro event present
  exact (List.mem_append.mp present).elim (before event) (after event)

theorem leads_occur (timeline : Timeline) (event : Event) (may : allowed event) :
    Leads allowed timeline (timeline.occur event) :=
  ⟨[event], fun _ present => List.mem_singleton.mp present ▸ may, rfl⟩

/-- The clock does not decide whether the cycle in flight goes on by itself. -/
theorem cycleDue?_setClock (timeline : Timeline) (time : Span) :
    (timeline.setClock time).cycleDue?.isSome = timeline.cycleDue?.isSome := by
  unfold setClock cycleDue?
  cases timeline.cycle with
  | none => rfl
  | some run => cases stage : run.stage <;> simp [stage]

/-- The clock does not decide whether the schedule goes on by itself. -/
theorem scheduleDue?_setClock (timeline : Timeline) (time : Span) :
    (timeline.setClock time).scheduleDue?.isSome = timeline.scheduleDue?.isSome := by
  unfold setClock scheduleDue?
  rcases timeline.schedule with _ | schedule
  · rfl
  · cases schedule with
    | sleeping due => rfl
    | cycling => rfl
    | paused =>
        simp only
        split <;> rfl

/-- Choices between two things in turn end with one of the things. -/
theorem foldl_choice {Thing : Type} (choose : Thing → Thing → Thing)
    (either : ∀ first second, choose first second = first ∨ choose first second = second)
    (start : Thing) (things : List Thing) :
    things.foldl choose start = start ∨ things.foldl choose start ∈ things := by
  induction things generalizing start with
  | nil => exact .inl rfl
  | cons thing rest inductionHypothesis =>
      rw [List.foldl_cons]
      rcases inductionHypothesis (choose start thing) with same | later
      · rw [same]
        rcases either start thing with first | second
        · exact .inl first
        · exact .inr (List.mem_cons.mpr (.inl second))
      · exact .inr (List.mem_cons_of_mem _ later)

/-- What comes next is an answer, a step of the cycle or a step of the schedule. -/
theorem nextEvent?_cases {timeline : Timeline} {due : Span} {change : Timeline → Timeline}
    (next : timeline.nextEvent? = some (due, change)) :
    (∃ first others, timeline.firstApplication? = some (first, others) ∧
      change = finishApplication first others) ∨
    (∃ run, timeline.cycle = some run ∧ timeline.cycleDue?.isSome ∧ change = advanceCycle run) ∨
    ∃ schedule, timeline.schedule = some schedule ∧ timeline.scheduleDue?.isSome ∧
      change = advanceSchedule schedule := by
  have chosen : some (due, change) = timeline.firstApplication?.map (fun first =>
        (first.1.due, finishApplication first.1 first.2)) ∨
      some (due, change) ∈ [timeline.cycle.bind (fun run =>
        timeline.cycleDue?.map fun due => (due, advanceCycle run)),
      timeline.schedule.bind (fun schedule =>
        timeline.scheduleDue?.map fun due => (due, advanceSchedule schedule))] := by
    rw [← next, nextEvent?]
    refine foldl_choice _ ?_ _ _
    intro first event
    cases first with
    | none => cases event <;> simp
    | some first =>
        cases event with
        | none => simp
        | some event =>
            simp only
            split <;> simp
  simp only [List.mem_cons, List.not_mem_nil, or_false] at chosen
  rcases chosen with answered | advanced | heard
  · rcases Option.map_eq_some_iff.mp answered.symm with ⟨⟨first, others⟩, found, same⟩
    exact .inl ⟨first, others, found, (Prod.mk.inj same).2.symm⟩
  · rcases Option.bind_eq_some_iff.mp advanced.symm with ⟨run, running, found⟩
    rcases Option.map_eq_some_iff.mp found with ⟨time, present, same⟩
    exact .inr (.inl ⟨run, running, by rw [present]; rfl, (Prod.mk.inj same).2.symm⟩)
  · rcases Option.bind_eq_some_iff.mp heard.symm with ⟨schedule, set, found⟩
    rcases Option.map_eq_some_iff.mp found with ⟨time, present, same⟩
    exact .inr (.inr ⟨schedule, set, by rw [present]; rfl, (Prod.mk.inj same).2.symm⟩)

/-- What comes next is an event that happens by itself at its time. -/
theorem nextEvent?_occur {timeline : Timeline} {due : Span} {change : Timeline → Timeline}
    (next : timeline.nextEvent? = some (due, change)) (time : Span) :
    ∃ event, event.spontaneous = true ∧
      change (timeline.setClock time) = (timeline.setClock time).occur event := by
  rcases nextEvent?_cases next with
    ⟨first, others, found, rfl⟩ | ⟨run, running, due, rfl⟩ | ⟨schedule, set, due, rfl⟩
  · refine ⟨.answer 0, rfl, ?_⟩
    unfold firstApplication? at found
    split at found
    · cases found
    · rename_i sorted
      cases found
      have pending : sortStable orderApplications (timeline.setClock time).applications =
          first :: others := sorted
      simp [occur, answer, pending]
  · refine ⟨.advance, rfl, ?_⟩
    have present : (timeline.setClock time).cycle = some run := running
    rw [← cycleDue?_setClock timeline time] at due
    simp [occur, advance, present, due]
  · refine ⟨.hear, rfl, ?_⟩
    have present : (timeline.setClock time).schedule = some schedule := set
    rw [← scheduleDue?_setClock timeline time] at due
    simp [occur, hear, present, due]

/-- What happens by itself while a condition holds is a run of events, where all that happens by itself
is allowed. -/
theorem leads_runWhile (own : ∀ {event : Event}, event.spontaneous = true → allowed event)
    (condition : Timeline → Span → Bool) (steps : Nat) (timeline : Timeline) :
    Leads allowed timeline (runWhile condition steps timeline) := by
  induction steps generalizing timeline with
  | zero => exact .refl timeline
  | succ steps inductionHypothesis =>
      unfold runWhile
      split
      · exact .refl timeline
      · rename_i due change next
        split
        · obtain ⟨event, spontaneous, same⟩ := nextEvent?_occur next due
          rw [same]
          have ticked : Leads allowed timeline (timeline.setClock due) :=
            timeline.leads_occur (.tick due) (own rfl)
          exact (ticked.trans (leads_occur _ event (own spontaneous))).trans (inductionHypothesis _)
        · exact .refl timeline

/-- A cycle that was asked for is an event. -/
theorem leads_requestCycle {timeline requested : Timeline} (may : allowed .requestCycle)
    (granted : timeline.requestCycle = .ok requested) : Leads allowed timeline requested := by
  have same : requested = timeline.occur .requestCycle := by
    simp [occur, granted, Except.toOption]
  exact same ▸ timeline.leads_occur .requestCycle may

/-- Every request is a run of events that it gives rise to. -/
theorem leads_serve (timeline : Timeline) (request : Request) :
    Leads request.Raises timeline (timeline.serve request) := by
  have own : ∀ {event : Event}, event.spontaneous = true → request.Raises event := .spontaneous
  cases request with
  | event event => exact timeline.leads_occur event (.event event)
  | runCycle =>
      simp only [serve, runCycle]
      split
      · exact .refl timeline
      · rename_i requested granted
        exact (leads_requestCycle .runCycle granted).trans (leads_runWhile own _ _ _)
  | requestScan =>
      simp only [serve, requestScan]
      split
      · exact .refl timeline
      · split
        · exact .refl timeline
        · rename_i requested granted
          exact leads_requestCycle .requestScan granted
  | previewFix id => exact .refl timeline
  | applyFix id approval =>
      have planned := timeline.leads_occur _ (Request.Raises.applyFix id approval)
      simp only [serve, applyFix]
      simp only [occur, requestFix] at planned
      split
      · rename_i refused
        simpa only [refused] using planned
      · rename_i granted
        simp only [granted] at planned
        exact planned.trans (leads_runWhile own _ _ _)
  | wait span =>
      have waited : Leads (Request.wait span).Raises timeline
          (timeline.runWhile (fun _ due => due.isBefore (timeline.clock + span)) stepLimit) :=
        leads_runWhile own _ _ _
      exact waited.trans (leads_occur _ (.tick (timeline.clock + span)) (own rfl))
  | stopSchedule =>
      exact (timeline.leads_occur .stop .stopSchedule).trans (leads_runWhile own _ _ _)

/-- All requests together come to a run of events. -/
theorem exists_unfolds (timeline : Timeline) (requests : List Request) :
    ∃ events, timeline.Unfolds requests events := by
  induction requests generalizing timeline with
  | nil => exact ⟨[], .nil⟩
  | cons request rest inductionHypothesis =>
      obtain ⟨events, raised, served⟩ := timeline.leads_serve request
      obtain ⟨later, unfolds⟩ := inductionHypothesis (timeline.serve request)
      exact ⟨events ++ later, .cons raised served unfolds⟩

/-- Requests leave what the events make of a timeline to which they come. -/
theorem Unfolds.serveAll {timeline : Timeline} {requests : List Request} {events : List Event}
    (unfolds : timeline.Unfolds requests events) :
    timeline.serveAll requests = timeline.after events := by
  induction unfolds with
  | nil => rfl
  | cons raised served rest inductionHypothesis =>
      rw [after_append, ← served]
      exact inductionHypothesis

/-- After the earlier events, an event happens while a request is served, which others were before. -/
def During (start : Timeline) (requests : List Request) (earlier : List Event) (request : Request)
    (event : Event) : Prop :=
  ∃ served waiting before meanwhile, requests = served ++ request :: waiting ∧
    start.Unfolds served before ∧ earlier = before ++ meanwhile ∧
    (∀ other ∈ meanwhile, request.Raises other) ∧ request.Raises event

/-- Every event to which requests come happens while one of them is served. -/
theorem Unfolds.during {start : Timeline} {requests : List Request} {events earlier later : List Event}
    {event : Event} (unfolds : start.Unfolds requests events)
    (split : events = earlier ++ event :: later) :
    ∃ request, start.During requests earlier request event := by
  induction unfolds generalizing earlier with
  | nil => cases earlier <;> cases split
  | @cons timeline request requests events others raised served rest inductionHypothesis =>
      have follows : ∀ between, earlier = events ++ between → others = between ++ event :: later →
          ∃ other, timeline.During (request :: requests) earlier other event := by
        rintro between rfl same
        obtain ⟨other, done, waiting, before, meanwhile, rfl, unfolds, rfl, raises⟩ :=
          inductionHypothesis same
        exact ⟨other, request :: done, waiting, events ++ before, meanwhile, rfl,
          .cons raised served unfolds, (List.append_assoc _ _ _).symm, raises⟩
      obtain ⟨between, same, rest⟩ | ⟨between, same, rest⟩ := List.append_eq_append_iff.mp split
      · exact follows between same rest
      · cases between with
        | nil => exact follows [] (by simpa using same.symm) rest.symm
        | cons first between =>
            obtain ⟨rfl, _⟩ := List.cons.inj rest
            refine ⟨request, [], requests, [], earlier, rfl, .nil, rfl, ?_, ?_⟩
            · exact fun other present => raised other (by rw [same]; simp [present])
            · exact raised event (by rw [same]; simp)

/-- A fix that the catalog was asked to run, with the events of the run that came before. -/
structure Execution where
  events : List Event
  application : Application

def answered? (timeline : Timeline) : Event → Option Application
  | .answer place => (sortStable orderApplications timeline.applications)[place]?
  | _ => none

/-- The fixes that the catalog was asked to run in some events after others. -/
def executionsFrom (start : Timeline) : List Event → List Event → List Execution
  | _, [] => []
  | earlier, event :: later =>
    (((start.after earlier).answered? event).toList.map fun application => ⟨earlier, application⟩) ++
      start.executionsFrom (earlier ++ [event]) later

/-- The fixes that the catalog was asked to run in a run of events. -/
def executions (start : Timeline) (events : List Event) : List Execution :=
  start.executionsFrom [] events

/-- One more event adds what is answered in it. -/
theorem executionsFrom_concat (start : Timeline) (earlier events : List Event) (event : Event) :
    start.executionsFrom earlier (events ++ [event]) = start.executionsFrom earlier events ++
      ((start.after (earlier ++ events)).answered? event).toList.map
        fun application => ⟨earlier ++ events, application⟩ := by
  induction events generalizing earlier with
  | nil => simp [executionsFrom]
  | cons first rest inductionHypothesis =>
      rw [List.cons_append, executionsFrom, inductionHypothesis, executionsFrom, List.append_assoc,
        List.append_assoc]
      rfl

/-- One more event adds to a run what is answered in it. -/
theorem executions_concat (start : Timeline) (events : List Event) (event : Event) :
    start.executions (events ++ [event]) = start.executions events ++
      ((start.after events).answered? event).toList.map fun application => ⟨events, application⟩ :=
  start.executionsFrom_concat [] events event

end Timeline

end SchemaDrift
