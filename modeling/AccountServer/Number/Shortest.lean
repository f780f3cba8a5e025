import AccountServer.Number.Binary64

/-!
# The shortest decimal of a double

`Binary64.shortest` gives the decimal with the fewest digits that rounds back to a number, and of
those the nearest. It walks over grids of 1, 2, …, 17 digits and tries on each the two neighbours
of the number, all in exact arithmetic.

`Binary64.toText` writes it in positional notation, whatever its size: no exponent, and no point
for a whole number.
-/

namespace AccountServer

namespace Binary64

/-- The numbers that round to a given positive one, over a common denominator. The ends belong to
the interval when `closed`. -/
structure Rounding where
  low : Nat
  value : Nat
  high : Nat
  den : Nat
  closed : Bool

/-- The interval of reals that round to a finite positive number. Below a power of two the
neighbour is only half as far away. -/
def rounding (x : Binary64) : Rounding :=
  let (m, q) := x.parts
  let half := if m = hiddenBit && q != -1074 then 1 else 2
  let up := 1 <<< (q - 2).toNat
  { low := (4 * m - half) * up
    value := 4 * m * up
    high := (4 * m + 2) * up
    den := 1 <<< (2 - q).toNat
    closed := m % 2 == 0 }

/-- Whether `num / den` rounds to the number of the interval. -/
def Rounding.holds (r : Rounding) (num den : Nat) : Bool :=
  let low := r.low * den
  let high := r.high * den
  let point := num * r.den
  if r.closed then low ≤ point && point ≤ high else low < point && point < high

/-- The neighbours of the number on the grid of multiples of `10 ^ place` that round to it, the
nearer one if there are two. -/
def Rounding.onGrid (r : Rounding) (place : Int) : Option Nat :=
  let up := Nat.pow 10 place.toNat
  let down := Nat.pow 10 (-place).toNat
  let below := r.value * down / (r.den * up)
  let lower := r.holds (below * up) down
  let upper := r.holds ((below + 1) * up) down
  match lower, upper with
  | true, true =>
    if 2 * (r.value * down) ≤ (2 * below + 1) * (r.den * up) then some below else some (below + 1)
  | true, false => some below
  | false, true => some (below + 1)
  | false, false => none

/-- The power of ten just above the number: the least `k` with `value < 10 ^ k`, looked for from a
guess downwards. -/
def Rounding.decimalPlace (r : Rounding) : Nat → Int → Int
  | 0, k => k
  | fuel + 1, k =>
    if r.value * Nat.pow 10 (-(k - 1)).toNat < r.den * Nat.pow 10 (k - 1).toNat
    then r.decimalPlace fuel (k - 1)
    else k

/-- Tries grids of more and more digits. -/
def Rounding.search (r : Rounding) (top : Int) : Nat → Nat → Nat × Int
  | 0, digits => (r.value / r.den, top - digits)
  | fuel + 1, digits =>
    match r.onGrid (top - digits) with
    | some n => if n = 0 then r.search top fuel (digits + 1) else (n, top - digits)
    | none => r.search top fuel (digits + 1)

/-- The digits `n` and the exponent `e` of the shortest decimal `n · 10 ^ e` that rounds to the
magnitude of a finite number. Doubles have at most 17 digits, and 40 steps down from the guess
reach the size of every one. -/
def shortest (x : Binary64) : Nat × Int :=
  if x.isZero then (0, 0)
  else
    let r := x.rounding
    let bits : Int := (Nat.log2 r.value : Int) - Nat.log2 r.den
    r.search (r.decimalPlace 40 (bits * 30103 / 100000 + 20)) 18 1

/-- Positional notation of `digits · 10 ^ exponent`. -/
def positional (digits : Nat) (exponent : Int) : String :=
  if 0 ≤ exponent then toString (digits * Nat.pow 10 exponent.toNat)
  else
    let places := (-exponent).toNat
    let text := (toString digits).toList
    let padded := List.replicate (places + 1 - text.length) '0' ++ text
    let whole := padded.take (padded.length - places)
    String.ofList (whole ++ '.' :: padded.drop (padded.length - places))

/-- The number as the shortest positional decimal. -/
def toText (x : Binary64) : String :=
  let sign := if x.isNegative then "-" else ""
  if x.isNaN then "NaN"
  else if x.isInfinite then sign ++ "inf"
  else
    let (digits, exponent) := x.shortest
    sign ++ positional digits exponent

end Binary64

end AccountServer
