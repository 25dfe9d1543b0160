import SchemaDrift.Monitor.State

namespace SchemaDrift

/-- The JSON form of the state of a monitor. -/
def Monitor.statusJson (monitor : Monitor) : Json :=
  .object [("state", .string monitor.phase.name),
    ("last_outcome", .ofOption (·.toJson) monitor.outcome),
    ("applying", .bool (monitor.applying > 0)), ("paused", .bool monitor.paused),
    ("last_cycle_at", .ofOption (·.toJson) monitor.lastCycleAt),
    ("last_cycle_id", .ofText? monitor.lastCycleId), ("last_error", .ofText? monitor.lastError),
    ("issue_count", .ofNat monitor.openCount), ("auto_apply_enabled", .bool monitor.autoApply),
    ("consecutive_failures", .ofNat monitor.failures)]

def IssueView.toJson (view : IssueView) : Json :=
  .object (view.issue.jsonMembers ++ [("evidence_count", .ofNat view.issue.evidence.count),
    ("justification", .string view.issue.justification),
    ("suggested_fix_preview", .ofText? view.preview)])

end SchemaDrift
