import SchemaDrift.Issue.Basic
import SchemaDrift.Keyed

namespace SchemaDrift

namespace Issue

/-- The issue with what a later detection says about it. -/
def refresh (known : Issue) (fresh : Issue) (now : Moment) : Issue :=
  { known with
    lastSeenAt := now
    evidence := fresh.evidence
    expected := fresh.expected
    actual := fresh.actual
    expectedType := fresh.expectedType
    actualType := fresh.actualType
    expectedColumns := fresh.expectedColumns }

/-- The known issue after it was detected again: one that was resolved or applied opens again. -/
def detectAgain (known fresh : Issue) (now : Moment) : Issue :=
  let known :=
    if known.resolvedAt.isSome || known.status == .applied then known.reopen now else known
  known.refresh fresh now

/-- The issue after a cycle that did not detect it. -/
def resolve (now : Moment) (issue : Issue) : Issue :=
  if issue.resolvedAt.isNone then { issue with resolvedAt := some now } else issue

end Issue

/-- The known issues with one detected. -/
def mergeIssue (now : Moment) (known : Keyed Issue) (fresh : Issue) : Keyed Issue :=
  match known.get? fresh.id with
  | none => known.insert fresh.id fresh
  | some issue => known.insert fresh.id (issue.detectAgain fresh now)

/-- The known issues after a cycle: those detected are new, refreshed or open again, and the others
are resolved. -/
def reconcile (previous : Keyed Issue) (detected : List Issue) (now : Moment) : Keyed Issue :=
  let merged := detected.foldl (mergeIssue now) previous
  merged.mapValues fun issue =>
    if detected.any fun fresh => fresh.id == issue.id then issue else issue.resolve now

end SchemaDrift
