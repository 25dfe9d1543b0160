import SchemaDrift.Http.Request
import SchemaDrift.Monitor.Json
import SchemaDrift.Monitor.Timeline

namespace SchemaDrift.Http

/-- An answer. -/
structure Response where
  status : Nat
  body : Option Json

namespace Response

/-- The answer that all is well. -/
def ok (body : Json) : Response := ⟨200, some body⟩

/-- The status code and the stable code of a monitor's refusal. -/
def codeOf : MonitorError → Nat × String
  | .issueNotFound _ => (404, "ISSUE_NOT_FOUND")
  | .issueClosed _ _ => (409, "ISSUE_CLOSED")
  | .paused _ => (409, "MONITOR_PAUSED")
  | .plan (.validation .approvalRequired) => (409, "APPROVAL_REQUIRED")
  | .plan (.validation error) => (422, Text.upperString error.code)
  | .plan (.synthesis _) => (422, "SYNTHESIS_FAILED")
  | .store _ => (500, "STORAGE_ERROR")

/-- The answer that a monitor refuses. -/
def ofError (error : MonitorError) : Response :=
  let (status, code) := codeOf error
  ⟨status, some (.object [("error", .string error.message), ("code", .string code)])⟩

/-- The answer with what a monitor gives or refuses. -/
def ofResult {α : Type} (toJson : α → Json) : Except MonitorError α → Response
  | .ok value => ok (toJson value)
  | .error error => ofError error

def ofTicket : Except MonitorError ScanTicket → Response
  | .ok ticket =>
    ⟨202, some (.object [("cycle_id", .string ticket.cycleId),
      ("already_running", .bool ticket.alreadyRunning)])⟩
  | .error error => ofError error

end Response

/-- The service after what an operator asks for, and the answer. -/
def Call.perform (timeline : Timeline) : Call → Timeline × Response
  | .health => (timeline, .ok (.object [("status", .string "ok")]))
  | .status => (timeline, .ok timeline.service.monitor.statusJson)
  | .issues all =>
    (timeline, .ok (.array ((timeline.service.monitor.views all timeline.now).map (·.toJson))))
  | .scan =>
    let (timeline, ticket) := timeline.requestScan
    (timeline, .ofTicket ticket)
  | .executions =>
    let executions := timeline.service.store.loadExecutions.mapError MonitorError.store
    (timeline, .ofResult (fun executions => .array (executions.map (·.toJson))) executions)
  | .preview issue =>
    (timeline, .ofResult (·.toJson) (timeline.service.monitor.previewFix issue timeline.now))
  | .apply issue approval =>
    let (timeline, result) := timeline.applyFix issue approval
    (timeline, .ofResult (·.toJson) result)
  | .autoApply enabled =>
    (timeline.onMonitor (.setAutoApply enabled),
      .ok (.object [("auto_apply_enabled", .bool enabled)]))
  | .resume =>
    let timeline := timeline.resume
    (timeline, .ok timeline.service.monitor.statusJson)

/-- The service after a request, and the answer; an answer to a request for its head has no body. -/
def Request.perform (timeline : Timeline) (request : Request) : Timeline × Response :=
  match request.call with
  | .error refusal => (timeline, ⟨refusal.status, none⟩)
  | .ok call =>
    let (timeline, response) := call.perform timeline
    if request.method == "HEAD" then (timeline, { response with body := none })
    else (timeline, response)

end SchemaDrift.Http
