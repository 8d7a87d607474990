/-
Instants and lifetimes.

An instant is a whole number of nanoseconds since the beginning of 1970, before it
when negative; a lifetime is a number of nanoseconds.  Tokens carry whole seconds, so
the passage between the two scales is all that matters: the second of an instant is
the one it falls into, and what remains of a lifetime is rounded up.
-/
import SessionAuth.Limit
import SessionAuth.Text.Record

namespace SessionAuth

/-- Nanoseconds in a millisecond and in a second. -/
def nanosPerMilli : Nat := 1000000
def nanosPerSecond : Nat := 1000000000

/-! ### Instants -/

/-- A point in time, in nanoseconds since the beginning of 1970. -/
structure Instant where
  nanos : Int
  deriving DecidableEq, Repr, Inhabited

namespace Instant

/-- The instant at which a second begins. -/
def ofSeconds (seconds : Int) : Instant := ⟨seconds * nanosPerSecond⟩

/-- The second that an instant falls into. -/
def seconds (t : Instant) : Int := t.nanos / (nanosPerSecond : Int)

/-- The first and last second that a calendar date can be given for. -/
def firstSecond : Int := -8334601228800
def lastSecond : Int := 8210266876799

/-- The instant at which a second begins, when it has a calendar date. -/
def ofSeconds? (seconds : Int) : Option Instant :=
  if firstSecond ≤ seconds ∧ seconds ≤ lastSecond then some (ofSeconds seconds) else none

/-- Whole milliseconds from one instant to a later one; none when it is not later. -/
def millisUntil (now later : Instant) : Nat := (later.nanos - now.nanos).toNat / nanosPerMilli

/-- Whole seconds until an instant, rounded up and never below one. -/
def secondsUntil (now later : Instant) : Nat := max 1 ((now.millisUntil later + 999) / 1000)

@[simp] theorem seconds_ofSeconds (s : Int) : (ofSeconds s).seconds = s := by
  simp [ofSeconds, seconds, nanosPerSecond]

/-- At least one second always remains. -/
theorem one_le_secondsUntil (now later : Instant) : 1 ≤ now.secondsUntil later :=
  Nat.le_max_left _ _

end Instant

/-! ### Lifetimes -/

/-- How long something lasts, in nanoseconds. -/
structure Lifetime where
  nanos : Nat
  deriving DecidableEq, Repr, Inhabited

namespace Lifetime

def ofSeconds (seconds : Nat) : Lifetime := ⟨seconds * nanosPerSecond⟩

def ofMillis (millis : Nat) : Lifetime := ⟨millis * nanosPerMilli⟩

/-- The whole seconds of a lifetime. -/
def seconds (d : Lifetime) : Nat := d.nanos / nanosPerSecond

/-- What is left beyond the whole seconds, in nanoseconds. -/
def subsecond (d : Lifetime) : Nat := d.nanos % nanosPerSecond

/-- The longest lifetime that can be counted in milliseconds by 63 bits. -/
def longest : Lifetime := ofMillis (limit63 - 1)

/-- Digits after the point: `digits` of them, without the zeros at the end. -/
def fractionDigits (digits n : Nat) : List Char :=
  let shown := Nat.toDigits 10 n
  let padded := List.replicate (digits - shown.length) '0' ++ shown
  (padded.reverse.dropWhile (· == '0')).reverse

/-- A number with a fraction, which is left out when it is zero. -/
def decimalText (whole digits fraction : Nat) : String :=
  match fractionDigits digits fraction with
  | [] => toString whole
  | ds => toString whole ++ "." ++ String.ofList ds

/-- The lifetime in the largest unit of which it holds at least one. -/
def text (d : Lifetime) : String :=
  if d.nanos ≥ nanosPerSecond then decimalText d.seconds 9 d.subsecond ++ "s"
  else if d.nanos ≥ nanosPerMilli then
    decimalText (d.nanos / nanosPerMilli) 6 (d.nanos % nanosPerMilli) ++ "ms"
  else if d.nanos ≥ 1000 then decimalText (d.nanos / 1000) 3 (d.nanos % 1000) ++ "µs"
  else toString d.nanos ++ "ns"

/-- The lifetime as seconds and nanoseconds. -/
def describe (d : Lifetime) : String :=
  Text.Record.complete "TimeDelta"
    [("secs", toString d.seconds), ("nanos", toString d.subsecond)]

end Lifetime

end SessionAuth
