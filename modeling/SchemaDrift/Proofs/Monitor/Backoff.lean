import Mathlib.Algebra.Order.Ring.Nat
import SchemaDrift.Monitor.Backoff

namespace SchemaDrift

/-- The shorter of two spans has the smaller number of nanoseconds. -/
theorem Span.nanos_shorter (first second : Span) :
    (first.shorter second).nanos = min first.nanos second.nanos := by
  unfold shorter
  split
  · rename_i within
    rw [Nat.min_eq_left within]
  · rename_i beyond
    rw [Nat.min_eq_right (Nat.le_of_not_le beyond)]

namespace Backoff

/-- The nanoseconds of a wait that doubles with every failure however many there are, up to the
limit. -/
def doubled (backoff : Backoff) (failures : Nat) : Nat :=
  if failures = 0 then 0 else min (backoff.base.nanos * 2 ^ (failures - 1)) backoff.max.nanos

/-- Up to 32 failures the doubling is counted. -/
theorem two_pow_le_greatestFactor {failures : Nat} (few : failures ≤ 32) :
    2 ^ (failures - 1) ≤ greatestFactor :=
  calc 2 ^ (failures - 1) ≤ 2 ^ 31 := Nat.pow_le_pow_right (by decide) (by omega)
    _ ≤ greatestFactor := by decide

/-- From 33 failures on the doubling is beyond what is counted. -/
theorem greatestFactor_lt_two_pow {failures : Nat} (many : ¬ failures ≤ 32) :
    greatestFactor < 2 ^ (failures - 1) :=
  calc greatestFactor < 2 ^ 32 := by decide
    _ ≤ 2 ^ (failures - 1) := Nat.pow_le_pow_right (by decide) (by omega)

/-- The multiple of the first wait doubles with every failure until it is no longer counted. -/
theorem factor_eq (failures : Nat) :
    factor failures = min (2 ^ (failures - 1)) greatestFactor := by
  unfold factor
  split
  · rename_i few
    rw [Nat.min_eq_left (two_pow_le_greatestFactor few)]
    rfl
  · rename_i many
    rw [Nat.min_eq_right (Nat.le_of_lt (greatestFactor_lt_two_pow many))]

/-- No multiple is greater than the greatest that is counted. -/
theorem factor_le (failures : Nat) : factor failures ≤ greatestFactor := by
  rw [factor_eq]
  exact Nat.min_le_right _ _

/-- More failures ask for no smaller multiple of the first wait. -/
theorem factor_mono : Monotone factor := by
  intro failures later before
  rw [factor_eq, factor_eq]
  have powers : 2 ^ (failures - 1) ≤ 2 ^ (later - 1) :=
    Nat.pow_le_pow_right (by decide) (by omega)
  omega

variable {backoff : Backoff}

/-- The wait after failures is a multiple of the first wait, or the limit if that is shorter. A
multiple that is too long for a span is longer than any limit. -/
theorem nanos_delay (counted : backoff.max.nanos ≤ Span.longest.nanos) {failures : Nat}
    (failed : failures ≠ 0) : (backoff.delay failures).nanos =
      min (backoff.base.nanos * factor failures) backoff.max.nanos := by
  unfold delay
  rw [if_neg failed]
  dsimp only
  split
  · exact Span.nanos_shorter _ _
  · rename_i beyond
    omega

/-- Without a failure there is no wait. -/
theorem delay_zero (backoff : Backoff) : backoff.delay 0 = ⟨0⟩ := rfl

/-- The wait does not become shorter with more failures. -/
theorem delay_mono (counted : backoff.max.nanos ≤ Span.longest.nanos) :
    Monotone fun failures => (backoff.delay failures).nanos := by
  intro failures later before
  dsimp only
  by_cases failed : failures = 0
  · rw [failed, delay_zero]
    exact Nat.zero_le _
  · rw [nanos_delay counted failed, nanos_delay counted (by omega)]
    have product := Nat.mul_le_mul_left backoff.base.nanos (factor_mono before)
    omega

/-- A doubling that is no longer counted is missed, unless there is nothing to double or the limit
comes first. -/
theorem capped_iff {base limit power : Nat} (beyond : greatestFactor < power) :
    min (base * greatestFactor) limit = min (base * power) limit ↔
      base = 0 ∨ limit ≤ base * greatestFactor := by
  have product : base * greatestFactor ≤ base * power := Nat.mul_le_mul_left base beyond.le
  constructor
  · intro same
    by_cases zero : base = 0
    · exact .inl zero
    · have longer : base * greatestFactor < base * power :=
        Nat.mul_lt_mul_of_pos_left beyond (Nat.pos_of_ne_zero zero)
      right
      omega
  · rintro (zero | reached)
    · rw [zero, Nat.zero_mul, Nat.zero_mul]
    · omega

/-- The wait doubles with every failure as long as that is counted, when there is nothing to double,
and when the limit comes first. -/
theorem delay_eq_doubled_iff (counted : backoff.max.nanos ≤ Span.longest.nanos) (failures : Nat) :
    (backoff.delay failures).nanos = backoff.doubled failures ↔
      failures ≤ 32 ∨ backoff.base.nanos = 0 ∨
        backoff.max.nanos ≤ backoff.base.nanos * greatestFactor := by
  by_cases failed : failures = 0
  · rw [failed, delay_zero, doubled, if_pos rfl]
    simp
  · rw [nanos_delay counted failed, doubled, if_neg failed, factor_eq]
    by_cases few : failures ≤ 32
    · rw [Nat.min_eq_left (two_pow_le_greatestFactor few)]
      simp [few]
    · have beyond := greatestFactor_lt_two_pow few
      rw [Nat.min_eq_right beyond.le, capped_iff beyond]
      simp [few]

/-- The waits of a backoff: there is none without a failure, each further failure doubles the wait as
far as that is counted, and no wait is longer than the limit. -/
structure Doubles (backoff : Backoff) : Prop where
  none : backoff.delay 0 = ⟨0⟩
  wait {failures : Nat} : failures ≠ 0 → (backoff.delay failures).nanos =
    min (backoff.base.nanos * min (2 ^ (failures - 1)) greatestFactor) backoff.max.nanos
  doubled_iff (failures : Nat) : (backoff.delay failures).nanos = backoff.doubled failures ↔
    failures ≤ 32 ∨ backoff.base.nanos = 0 ∨
      backoff.max.nanos ≤ backoff.base.nanos * greatestFactor
  mono : Monotone fun failures => (backoff.delay failures).nanos
  limit {failures later : Nat} : failures ≠ 0 → failures ≤ later →
    backoff.max.nanos ≤ backoff.base.nanos * min (2 ^ (failures - 1)) greatestFactor →
    backoff.delay later = backoff.max

/-- The waits of a backoff double up to its limit. -/
theorem doubles (counted : backoff.max.nanos ≤ Span.longest.nanos) : backoff.Doubles where
  none := delay_zero backoff
  wait failed := by rw [nanos_delay counted failed, factor_eq]
  doubled_iff := delay_eq_doubled_iff counted
  mono := delay_mono counted
  limit {failures later} failed before reached := by
    rw [← factor_eq] at reached
    have product := Nat.mul_le_mul_left backoff.base.nanos (factor_mono before)
    have wait := nanos_delay counted (show later ≠ 0 by omega)
    rw [Nat.min_eq_right (reached.trans product)] at wait
    exact congrArg Span.mk wait

/-- A wait of five seconds doubles until it reaches a minute. -/
theorem doubles_fiveSeconds :
    let backoff : Backoff := ⟨.ofSeconds 5, .ofSeconds 60⟩
    backoff.max.nanos ≤ Span.longest.nanos ∧ backoff.Doubles ∧
      [0, 1, 2, 3, 4, 5, 200, 4294967295].map backoff.delay =
        [0, 5, 10, 20, 40, 60, 60, 60].map .ofSeconds := by
  intro backoff
  have counted : backoff.max.nanos ≤ Span.longest.nanos := by decide
  exact ⟨counted, doubles counted, by decide⟩

/-- A limit of 2 ^ 33 times the first wait would be reached with 34 failures if the wait went on to
double, but no number of failures reaches it. -/
theorem delay_ne_limit :
    let backoff : Backoff := ⟨.ofSeconds 1, .ofSeconds 8589934592⟩
    backoff.max.nanos ≤ Span.longest.nanos ∧
      backoff.delay 33 = .ofSeconds 4294967295 ∧
      backoff.doubled 33 = (Span.ofSeconds 4294967296).nanos ∧
      backoff.doubled 34 = backoff.max.nanos ∧ ∀ failures, backoff.delay failures ≠ backoff.max := by
  intro backoff
  have counted : backoff.max.nanos ≤ Span.longest.nanos := by decide
  refine ⟨counted, by decide, by decide, by decide, ?_⟩
  intro failures reached
  by_cases failed : failures = 0
  · rw [failed] at reached
    exact absurd reached (by decide)
  · have wait := nanos_delay counted failed
    have product := Nat.mul_le_mul_left backoff.base.nanos (factor_le failures)
    have short : backoff.base.nanos * greatestFactor < backoff.max.nanos := by decide
    rw [reached] at wait
    omega

end Backoff

end SchemaDrift
