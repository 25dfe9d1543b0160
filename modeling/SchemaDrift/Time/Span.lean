import SchemaDrift.Text.Chars

namespace SchemaDrift

/-- A length of time in nanoseconds. -/
structure Span where
  nanos : Nat
  deriving DecidableEq, Inhabited

namespace Span

def ofSeconds (seconds : Nat) : Span := ⟨1000000000 * seconds⟩

def ofMillis (millis : Nat) : Span := ⟨1000000 * millis⟩

def toMillis (span : Span) : Nat := span.nanos / 1000000

def toSeconds (span : Span) : Nat := span.nanos / 1000000000

/-- The greatest span: a 64-bit count of seconds and the greatest fraction. -/
def longest : Span := ⟨18446744073709551615 * 1000000000 + 999999999⟩

def shorter (a b : Span) : Span := if a.nanos ≤ b.nanos then a else b

instance : Add Span := ⟨fun a b => ⟨a.nanos + b.nanos⟩⟩

def longer (a b : Span) : Span := if a.nanos ≤ b.nanos then b else a

/-- A span is shorter than another. -/
def isBefore (a b : Span) : Bool := a.nanos < b.nanos

/-- The digits of a fraction with `width` places, without the zeros at its end. -/
def fractionText (width fraction : Nat) : List Char :=
  let digits := Nat.toDigits 10 fraction
  let filled := List.replicate (width - digits.length) '0' ++ digits
  let kept := Text.dropWhileEnd (· == '0') filled
  if kept.isEmpty then [] else '.' :: kept

/-- The text of a span in a unit of `10 ^ width` nanoseconds. -/
def textIn (unit : String) (width nanos : Nat) : String :=
  let one := Nat.pow 10 width
  String.ofList (Nat.toDigits 10 (nanos / one) ++ fractionText width (nanos % one)) ++ unit

def text (span : Span) : String :=
  if span.nanos ≥ 1000000000 then textIn "s" 9 span.nanos
  else if span.nanos ≥ 1000000 then textIn "ms" 6 span.nanos
  else if span.nanos ≥ 1000 then textIn "µs" 3 span.nanos
  else toString span.nanos ++ "ns"

end Span

end SchemaDrift
