import Mathlib.Data.List.Induction
import SchemaDrift.Proofs.Monitor.Moves

namespace SchemaDrift

/-- What may be done to an issue that is known: it gets a mark, or it is opened again. -/
inductive Handling where
  | marked (mark : Mark)
  | reopened (now : Moment)

/-- The handling sees to the reason for a rejection: it gives one, or it takes it away. -/
def Handling.Clears : Handling → Prop
  | .marked (.rejected _) => True
  | .reopened _ => True
  | .marked _ => False

namespace Issue

/-- The status of an issue with the reason for its rejection. -/
def standing (issue : Issue) : IssueStatus × Option String := (issue.status, issue.rejectionReason)

/-- The reason for a rejection follows the status unless a rejection was overtaken: a rejected issue has
a reason, and it is just in that case that one which is not rejected has a reason, too. -/
structure Reasoned (issue : Issue) (overtaken : Prop) : Prop where
  given : issue.status = .rejected → issue.rejectionReason.isSome = true
  fails_iff : ¬ (issue.rejectionReason.isSome = true ↔ issue.status = .rejected) ↔ overtaken

variable {before after : Issue} {overtaken other : Prop}

theorem reasoned_of_rejected (rejected : after.status = .rejected)
    (given : after.rejectionReason.isSome = true) (current : ¬ overtaken) :
    after.Reasoned overtaken where
  given _ := given
  fails_iff := by simp [rejected, given, current]

theorem reasoned_of_cleared (left : after.status ≠ .rejected) (cleared : after.rejectionReason = none)
    (current : ¬ overtaken) : after.Reasoned overtaken where
  given rejected := absurd rejected left
  fails_iff := by simp [left, cleared, current]

namespace Reasoned

/-- Of an issue only the status and the reason matter. -/
theorem of_standing (reasoned : before.Reasoned overtaken) (same : after.standing = before.standing)
    (alike : other ↔ overtaken) : after.Reasoned other := by
  obtain ⟨status, reason⟩ := Prod.mk.inj same
  constructor
  · rw [status, reason]
    exact reasoned.given
  · rw [status, reason, alike]
    exact reasoned.fails_iff

/-- A rejection is overtaken where the status changes and the reason stays. -/
theorem leave (reasoned : before.Reasoned overtaken) (left : after.status ≠ .rejected)
    (reason : after.rejectionReason = before.rejectionReason)
    (outcome : other ↔ before.status = .rejected ∨ overtaken) : after.Reasoned other where
  given rejected := absurd rejected left
  fails_iff := by
    have given := reasoned.given
    rw [outcome, ← reasoned.fails_iff, reason]
    tauto

/-- An issue whose rejection was overtaken is not rejected. -/
theorem ne_rejected (reasoned : before.Reasoned overtaken) (past : overtaken) :
    before.status ≠ .rejected := by
  intro rejected
  exact reasoned.fails_iff.mpr past ⟨fun _ => rejected, reasoned.given⟩

end Reasoned

def handle (issue : Issue) : Handling → Issue
  | .marked mark => issue.mark mark
  | .reopened now => issue.reopen now

/-- The issue after it was handled several times. -/
def handleAll (issue : Issue) (handlings : List Handling) : Issue := handlings.foldl handle issue

/-- A rejected issue was handled without regard to its reason, and no handling since then saw to it. -/
def Overtaken (issue : Issue) : List Handling → Prop :=
  StandsSince (fun earlier handling => (issue.handleAll earlier).status = .rejected ∧ ¬ handling.Clears)
    fun _ handling => handling.Clears

/-- One more handling overtakes a rejection if it does not see to the reason, and the issue was rejected
or its rejection overtaken. -/
theorem overtaken_concat_iff (issue : Issue) (handlings : List Handling) (handling : Handling) :
    issue.Overtaken (handlings ++ [handling]) ↔
      ((issue.handleAll handlings).status = .rejected ∨ issue.Overtaken handlings) ∧
        ¬ handling.Clears := by
  unfold Overtaken
  rw [standsSince_concat_iff]
  tauto

/-- A handling that does not see to the reason for a rejection leaves it, and makes the issue another
than a rejected one. -/
theorem handle_of_not_clears (issue : Issue) {handling : Handling} (leaves : ¬ handling.Clears) :
    (issue.handle handling).status ≠ .rejected ∧
      (issue.handle handling).rejectionReason = issue.rejectionReason := by
  obtain (_ | reason | _ | _) | _ := handling
  · exact ⟨by simp [handle, mark, markApproved], rfl⟩
  · exact absurd trivial leaves
  · exact ⟨by simp [handle, mark, markApplied], rfl⟩
  · exact ⟨by simp [handle, mark, markFailed], rfl⟩
  · exact absurd trivial leaves

/-- A handling that sees to the reason for a rejection overtakes none. -/
theorem reasoned_handle (issue : Issue) {handling : Handling} (clears : handling.Clears)
    (current : ¬ overtaken) : (issue.handle handling).Reasoned overtaken := by
  obtain (_ | reason | _ | _) | now := handling
  · exact clears.elim
  · exact reasoned_of_rejected rfl rfl current
  · exact clears.elim
  · exact clears.elim
  · exact reasoned_of_cleared (by simp [handle, reopen]) rfl current

/-- Whatever is done to an issue that was not rejected, its reason follows its status unless a rejection
was overtaken. -/
theorem reasoned_handleAll {new : Issue} (left : new.status ≠ .rejected)
    (unreasoned : new.rejectionReason = none) (handlings : List Handling) :
    (new.handleAll handlings).Reasoned (new.Overtaken handlings) := by
  induction handlings using List.reverseRecOn with
  | nil => exact reasoned_of_cleared left unreasoned not_standsSince_nil
  | append_singleton handlings handling inductionHypothesis =>
      have step := overtaken_concat_iff new handlings handling
      have next : new.handleAll (handlings ++ [handling]) =
          (new.handleAll handlings).handle handling := List.foldl_concat ..
      rw [next]
      by_cases clears : handling.Clears
      · exact reasoned_handle _ clears fun past => (step.mp past).2 clears
      · obtain ⟨moved, reason⟩ := handle_of_not_clears (new.handleAll handlings) clears
        refine inductionHypothesis.leave moved reason ?_
        rw [step, and_iff_left clears]

end Issue

end SchemaDrift
