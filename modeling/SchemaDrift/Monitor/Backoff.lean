import SchemaDrift.Settings.Basic
import SchemaDrift.Time.Span

namespace SchemaDrift

/-- The wait after the first failure, and the longest wait. -/
structure Backoff where
  base : Span
  max : Span
  deriving DecidableEq, Inhabited

namespace Backoff

/-- The waits that settings ask for. -/
def ofSettings (settings : MonitorSettings) : Backoff :=
  ⟨.ofSeconds settings.backoffBaseSecs, .ofSeconds settings.backoffMaxSecs⟩

/-- The greatest multiple of the first wait that is counted. -/
def greatestFactor : Nat := 4294967295

/-- The multiple of the first wait that a number of failures asks for: twice as much with every
failure after the first, as far as that is counted. -/
def factor (failures : Nat) : Nat :=
  if failures ≤ 32 then Nat.pow 2 (failures - 1) else greatestFactor

/-- The wait after a number of failures in a row; none without a failure. -/
def delay (backoff : Backoff) (failures : Nat) : Span :=
  if failures = 0 then ⟨0⟩
  else
    let product : Span := ⟨backoff.base.nanos * factor failures⟩
    if product.nanos ≤ Span.longest.nanos then product.shorter backoff.max else backoff.max

end Backoff

end SchemaDrift
