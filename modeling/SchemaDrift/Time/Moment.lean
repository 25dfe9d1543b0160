import SchemaDrift.Text.Chars

namespace SchemaDrift

/-- A point in time: the day counted from the first of January 1970, the second of the day, and the
fraction; a leap second has a fraction of a second or more. -/
structure Moment where
  day : Int
  second : Nat
  nanos : Nat
  deriving DecidableEq, Inhabited

namespace Moment

/-- The number of days from the first of January 1970 to a date of the Gregorian calendar. -/
def dayOfDate (year : Int) (month day : Nat) : Int :=
  let shifted : Int := if month ≤ 2 then year - 1 else year
  let era : Int := shifted.fdiv 400
  let yearOfEra : Int := shifted - era * 400
  let monthIndex : Int := if month > 2 then (month : Int) - 3 else (month : Int) + 9
  let dayOfYear : Int := (153 * monthIndex + 2) / 5 + (day : Int) - 1
  let dayOfEra : Int := yearOfEra * 365 + yearOfEra / 4 - yearOfEra / 100 + dayOfYear
  era * 146097 + dayOfEra - 719468

/-- The date of a day counted from the first of January 1970: year, month and day of the month. -/
def dateOfDay (day : Int) : Int × Nat × Nat :=
  let z := day + 719468
  let era := z.fdiv 146097
  let dayOfEra := z - era * 146097
  let yearOfEra := (dayOfEra - dayOfEra / 1460 + dayOfEra / 36524 - dayOfEra / 146096) / 365
  let dayOfYear := dayOfEra - (365 * yearOfEra + yearOfEra / 4 - yearOfEra / 100)
  let monthIndex := (5 * dayOfYear + 2) / 153
  let dayOfMonth := dayOfYear - (153 * monthIndex + 2) / 5 + 1
  let month := if monthIndex < 10 then monthIndex + 3 else monthIndex - 9
  let year := yearOfEra + era * 400 + (if month ≤ 2 then 1 else 0)
  (year, month.toNat, dayOfMonth.toNat)

/-- The year has a twenty-ninth of February. -/
def isLeapYear (year : Int) : Bool :=
  year % 4 == 0 && (year % 100 != 0 || year % 400 == 0)

def daysOfMonth (year : Int) (month : Nat) : Nat :=
  if month == 2 then (if isLeapYear year then 29 else 28)
  else if month == 4 || month == 6 || month == 9 || month == 11 then 30 else 31

/-- The decimal digits of a number, filled up with zeros to a width. -/
def padded (width n : Nat) : List Char :=
  let digits := Nat.toDigits 10 n
  List.replicate (width - digits.length) '0' ++ digits

/-- The fraction of a second in the fewest groups of three digits that hold it. -/
def fractionText (nanos : Nat) : List Char :=
  if nanos == 0 then []
  else if nanos % 1000000 == 0 then '.' :: padded 3 (nanos / 1000000)
  else if nanos % 1000 == 0 then '.' :: padded 6 (nanos / 1000)
  else '.' :: padded 9 nanos

/-- The year in four digits, or with a sign outside the years 0 to 9999. -/
def yearText (year : Int) : List Char :=
  if 0 ≤ year && year ≤ 9999 then padded 4 year.toNat
  else (if year < 0 then '-' else '+') :: padded (if year < 0 then 4 else 5) year.natAbs

/-- The written form of a moment. -/
def text (moment : Moment) : String :=
  let (year, month, day) := dateOfDay moment.day
  let leap := if moment.nanos ≥ 1000000000 then 1 else 0
  String.ofList (yearText year ++ '-' :: padded 2 month ++ '-' :: padded 2 day ++ 'T' ::
    padded 2 (moment.second / 3600) ++ ':' :: padded 2 (moment.second / 60 % 60) ++ ':' ::
    padded 2 (moment.second % 60 + leap) ++
    fractionText (moment.nanos % 1000000000) ++ ['Z'])

/-- The number of exactly `count` digits at the start of a text. -/
def readNumber (count : Nat) (cs : List Char) : Option (Nat × List Char) :=
  let digits := cs.take count
  if digits.length == count && digits.all Text.isAsciiDigit then
    some (Text.digitsValue digits, cs.drop count)
  else none

/-- What follows a character that must be written here. -/
def readMark (allowed : List Char) : List Char → Option (List Char)
  | c :: rest => if allowed.contains c then some rest else none
  | [] => none

/-- The nanoseconds of a fraction of at least one digit; digits past the ninth do not count. -/
def readFraction : List Char → Option (Nat × List Char)
  | '.' :: rest =>
    let digits := rest.takeWhile Text.isAsciiDigit
    if digits.isEmpty then none
    else
      let kept := digits.take 9
      some (Text.digitsValue kept * Nat.pow 10 (9 - kept.length), rest.dropWhile Text.isAsciiDigit)
  | rest => some (0, rest)

/-- The offset from UTC in seconds, which must end the text. -/
def readOffset : List Char → Option Int
  | [c] => if c == 'Z' || c == 'z' then some 0 else none
  | sign :: rest => do
    if sign != '+' && sign != '-' then none
    let (hours, rest) ← readNumber 2 rest
    let rest := match rest with
      | ':' :: rest => rest
      | rest => rest
    let (minutes, rest) ← readNumber 2 rest
    if !rest.isEmpty || minutes > 59 || hours > 23 then none
    let seconds : Int := hours * 3600 + minutes * 60
    some (if sign == '-' then -seconds else seconds)
  | [] => none

def ofText? (written : String) : Option Moment := do
  let (year, rest) ← readNumber 4 written.toList
  let rest ← readMark ['-'] rest
  let (month, rest) ← readNumber 2 rest
  let rest ← readMark ['-'] rest
  let (day, rest) ← readNumber 2 rest
  let rest ← readMark ['T', 't', ' '] rest
  let (hour, rest) ← readNumber 2 rest
  let rest ← readMark [':'] rest
  let (minute, rest) ← readNumber 2 rest
  let rest ← readMark [':'] rest
  let (second, rest) ← readNumber 2 rest
  let (nanos, rest) ← readFraction rest
  let offset ← readOffset rest
  if month < 1 || month > 12 || day < 1 || day > daysOfMonth year month then none
  if hour > 23 || minute > 59 || second > 60 then none
  let (second, nanos) := if second == 60 then (59, nanos + 1000000000) else (second, nanos)
  let total : Int := dayOfDate year month day * 86400 + hour * 3600 + minute * 60 + second - offset
  some ⟨total.fdiv 86400, (total.fmod 86400).toNat, nanos⟩

/-- Point zero of the count of days. -/
def epoch : Moment := ⟨0, 0, 0⟩

/-- The moment a number of milliseconds after point zero. -/
def ofMillis (millis : Nat) : Moment :=
  ⟨millis / 86400000, millis / 1000 % 86400, millis % 1000 * 1000000⟩

end Moment

end SchemaDrift
