import AccountServer.Filter.Order
import AccountServer.Time.Calendar

/-!
# Instants

An `Instant` is a number of whole seconds since 1970-01-01T00:00:00Z and a fraction in
nanoseconds. A leap second is the second 59 of a minute with a fraction of a whole second or more.

Instants compare by second and then by fraction. `micros` counts microseconds and drops what is
finer.
-/

namespace AccountServer

/-- A moment in universal time. -/
structure Instant where
  seconds : Int
  nanos : Nat
  nanos_lt : nanos < 2000000000 := by omega
  deriving DecidableEq

namespace Instant

instance : Inhabited Instant := ⟨{ seconds := 0, nanos := 0 }⟩

/-- By second, then by fraction. -/
instance : PartialCompare Instant :=
  ⟨fun a b => some ((compare a.seconds b.seconds).then (compare a.nanos b.nanos))⟩

/-- The first and the last year that have instants. -/
def minYear : Int := -262143

def maxYear : Int := 262142

/-- Whether a number of seconds lies in the years that have instants. -/
def secondsInRange (seconds : Int) : Bool :=
  Calendar.daysOfDate minYear 1 1 * 86400 ≤ seconds &&
    seconds < Calendar.daysOfDate (maxYear + 1) 1 1 * 86400

/-- Microseconds since 1970, rounded down. -/
def micros (t : Instant) : Int := t.seconds * 1000000 + (t.nanos / 1000 : Nat)

/-- The instant of a number of microseconds, if it is in range. -/
def ofMicros? (n : Int) : Option Instant :=
  let seconds := n.fdiv 1000000
  let rest := (n - seconds * 1000000).toNat
  if h : rest < 1000000 then
    if secondsInRange seconds then some ⟨seconds, rest * 1000, by omega⟩ else none
  else none

/-! ## Writing -/

/-- Decimal digits, with zeros in front up to a width. -/
def padded (width n : Nat) : List Char :=
  let ds := (toString n).toList
  List.replicate (width - ds.length) '0' ++ ds

/-- A year in four digits, with a sign outside 0–9999. -/
def yearChars (year : Int) : List Char :=
  if 0 ≤ year && year ≤ 9999 then padded 4 year.toNat
  else (if year < 0 then '-' else '+') :: padded 4 year.natAbs

/-- A fraction of a second with 0, 3, 6 or 9 digits, the fewest of these that lose nothing. -/
def fractionChars (nanos : Nat) : List Char :=
  if nanos = 0 then []
  else if nanos % 1000000 = 0 then '.' :: padded 3 (nanos / 1000000)
  else if nanos % 1000 = 0 then '.' :: padded 6 (nanos / 1000)
  else '.' :: padded 9 nanos

/-- The date, the letter `T`, the time with the given fraction, and `Z`. -/
def charsWith (fraction : Nat → List Char) (t : Instant) : List Char :=
  let days := t.seconds.fdiv 86400
  let ofDay := (t.seconds - days * 86400).toNat
  let (year, month, day) := Calendar.dateOfDays days
  let leap := 1000000000 ≤ t.nanos
  let second := ofDay % 60 + if leap then 1 else 0
  let nanos := if leap then t.nanos - 1000000000 else t.nanos
  yearChars year ++ '-' :: (padded 2 month ++ '-' :: (padded 2 day ++ 'T' ::
    (padded 2 (ofDay / 3600) ++ ':' :: (padded 2 (ofDay / 60 % 60) ++ ':' ::
      (padded 2 second ++ (fraction nanos ++ ['Z']))))))

/-- RFC 3339 in universal time; a leap second is written `:60`. -/
def toText (t : Instant) : String := String.ofList (t.charsWith fractionChars)

/-- RFC 3339 with six digits of the second. -/
def microsText (t : Instant) : String :=
  String.ofList (t.charsWith fun nanos => '.' :: padded 6 (nanos / 1000))

end Instant

end AccountServer
