/-
Calendar dates and the time of day.

A date is found by taking whole centuries, years and months off a count of days.  Years are
counted from March here, so that the day that a leap year has more than others is its last one:
then all periods of four hundred years are the same, and within one of them a century, four years
or a year that is not the last of its kind are too.
-/
import SessionAuth.Time

namespace SessionAuth

/-- A day of the calendar. -/
structure Date where
  year : Int
  month : Nat
  day : Nat
  deriving DecidableEq, Repr

namespace Date

/-- Takes periods of some days off a count, but not more of them than there are. -/
def periods (length count days : Nat) : Nat × Nat :=
  let taken := min (days / length) count
  (taken, days - taken * length)

/-- The days of the months from March to January; what is left of the year is February. -/
def monthLengths : List Nat := [31, 30, 31, 30, 31, 31, 30, 31, 30, 31, 31]

/-- The month that a day falls into and the day in it, both from zero. -/
def monthOf : List Nat → Nat → Nat × Nat
  | [], days => (0, days)
  | length :: more, days =>
    if days < length then (0, days)
    else
      let (month, day) := monthOf more (days - length)
      (month + 1, day)

/-- The days from the first of March in the year 0 to the beginning of 1970. -/
def daysTo1970 : Int := 719468

/-- The date of a day, counted from the beginning of 1970. -/
def ofDays (days : Int) : Date :=
  let shifted := days + daysTo1970
  let (century, rest) := periods 36524 3 (shifted % 146097).toNat
  let (leap, rest) := periods 1461 24 rest
  let (single, rest) := periods 365 3 rest
  let (month, day) := monthOf monthLengths rest
  let year := 400 * (shifted / 146097) + (100 * century + 4 * leap + single : Nat)
  if month < 10 then ⟨year, month + 3, day + 1⟩ else ⟨year + 1, month - 9, day + 1⟩

/-- A number with as many digits at least. -/
def padded (digits n : Nat) : String :=
  let shown := Nat.toDigits 10 n
  String.ofList (List.replicate (digits - shown.length) '0' ++ shown)

/-- The date as text; a year beyond four digits is given with its sign. -/
def text (d : Date) : String :=
  let year :=
    if 0 ≤ d.year ∧ d.year ≤ 9999 then padded 4 d.year.toNat
    else (if d.year < 0 then "-" else "+") ++ padded 4 d.year.natAbs
  year ++ "-" ++ padded 2 d.month ++ "-" ++ padded 2 d.day

end Date

namespace Instant

/-- The fraction of a second, in as many groups of three digits as it takes. -/
def fractionText (nanos : Nat) : String :=
  if nanos = 0 then ""
  else if nanos % 1000000 = 0 then "." ++ Date.padded 3 (nanos / 1000000)
  else if nanos % 1000 = 0 then "." ++ Date.padded 6 (nanos / 1000)
  else "." ++ Date.padded 9 nanos

/-- The instant as text: the date and the time of day. -/
def text (t : Instant) : String :=
  let second := (t.seconds % 86400).toNat
  let nanos := (t.nanos % (nanosPerSecond : Int)).toNat
  (Date.ofDays (t.seconds / 86400)).text ++ " " ++ Date.padded 2 (second / 3600) ++ ":" ++
    Date.padded 2 (second / 60 % 60) ++ ":" ++ Date.padded 2 (second % 60) ++
    fractionText nanos ++ " UTC"

end Instant

end SessionAuth
