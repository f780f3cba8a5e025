import AccountServer.Filter.Order

/-!
# Double precision numbers

A `Binary64` is the 64 bits of an IEEE 754 double: a sign, an exponent of 11 bits and a fraction
of 52 bits. A finite one stands for `± m · 2 ^ q`, and everything below is exact arithmetic on `m`
and `q` followed by one rounding to the nearest double, ties to the even one (`ofRatio`).

`ofDecimal` rounds a decimal number once. `ofScaledDecimal` rounds the digits first and scales them
by a power of ten afterwards, as readers of JSON text do that value speed over the last bit.
-/

namespace AccountServer

/-- A double precision number, given by its bits. -/
structure Binary64 where
  bits : UInt64
  deriving DecidableEq, Repr

namespace Binary64

/-- The bit of the sign. -/
def signBit : Nat := 0x8000000000000000

/-- The bit above the fraction, which is part of the significand of all but the smallest numbers. -/
def hiddenBit : Nat := 0x10000000000000

/-- Whether the sign bit is set. -/
def isNegative (x : Binary64) : Bool := signBit ≤ x.bits.toNat

/-- The bits without the sign. -/
def magnitudeBits (x : Binary64) : Nat := x.bits.toNat % signBit

/-- The bits of infinity, above which the magnitudes are not numbers. -/
def infinityBits : Nat := 2047 * hiddenBit

def isNaN (x : Binary64) : Bool := infinityBits < x.magnitudeBits

def isInfinite (x : Binary64) : Bool := x.magnitudeBits == infinityBits

def isFinite (x : Binary64) : Bool := x.magnitudeBits < infinityBits

def isZero (x : Binary64) : Bool := x.magnitudeBits == 0

/-- The number with these magnitude bits and this sign. -/
def ofMagnitudeBits (negative : Bool) (magnitude : Nat) : Binary64 :=
  ⟨UInt64.ofNat (magnitude + if negative then signBit else 0)⟩

def infinity (negative : Bool) : Binary64 := ofMagnitudeBits negative infinityBits

def zero (negative : Bool) : Binary64 := ofMagnitudeBits negative 0

def nan : Binary64 := ofMagnitudeBits false (infinityBits + hiddenBit / 2)

/-- The significand `m` and the exponent `q` of a finite number `m · 2 ^ q`. -/
def parts (x : Binary64) : Nat × Int :=
  let exponent : Nat := x.magnitudeBits / hiddenBit
  let fraction : Nat := x.magnitudeBits % hiddenBit
  if exponent = 0 then (fraction, -1074) else (fraction + hiddenBit, (exponent : Int) - 1075)

/-! ## Order -/

/-- An integer that orders all numbers but the NaNs; both zeros have the key 0. -/
def orderKey (x : Binary64) : Int :=
  if x.isNegative then -(x.magnitudeBits : Int) else x.magnitudeBits

/-- A NaN compares with nothing, and the two zeros are equal. -/
instance : PartialCompare Binary64 :=
  ⟨fun x y => if x.isNaN || y.isNaN then none else some (compare x.orderKey y.orderKey)⟩

/-! ## Rounding -/

/-- The integer nearest to `num / den`, a tie going to the even neighbour. -/
def nearestEven (num den : Nat) : Nat :=
  let quotient := num / den
  let twice := 2 * (num % den)
  if twice < den then quotient
  else if den < twice then quotient + 1
  else quotient + quotient % 2

/-- The exponent of the last place of a number of the size of `num / den`: the largest one that
leaves at least 53 bits, but never below that of the smallest numbers. -/
def lastPlace (num den : Nat) : Int :=
  let guess : Int := (Nat.log2 num : Int) - (Nat.log2 den : Int) - 52
  let scaled := (num <<< (-guess).toNat) / (den <<< guess.toNat)
  max (-1074) (if scaled < hiddenBit then guess - 1 else guess)

/-- The double nearest to `num / den`, with a tie going to the even one; infinity when it is too
large. Counting on from the bits of the last place carries into the exponent by itself. -/
def ofRatio (negative : Bool) (num den : Nat) : Binary64 :=
  if num = 0 then zero negative
  else
    let q := lastPlace num den
    let m := nearestEven (num <<< (-q).toNat) (den <<< q.toNat)
    let bits := (q + 1074).toNat * hiddenBit + m
    if infinityBits ≤ bits then infinity negative else ofMagnitudeBits negative bits

/-- The double nearest to `± m · 2 ^ q`. -/
def ofParts (negative : Bool) (m : Nat) (q : Int) : Binary64 :=
  ofRatio negative (m <<< q.toNat) (1 <<< (-q).toNat)

def ofInt (n : Int) : Binary64 := ofRatio (n < 0) n.natAbs 1

/-- The double nearest to `± digits · 10 ^ exponent`. Exponents far outside the range are settled
by the number of digits alone. -/
def ofDecimal (negative : Bool) (digits : Nat) (exponent : Int) : Binary64 :=
  if digits = 0 then zero negative
  else
    let size := (Nat.log2 digits : Int) * 30103 / 100000 + exponent
    if size < -400 then zero negative
    else if 400 < size then infinity negative
    else ofRatio negative (digits * Nat.pow 10 exponent.toNat) (Nat.pow 10 (-exponent).toNat)

/-- The product of two finite numbers. -/
def times (x y : Binary64) : Binary64 :=
  let (m, q) := x.parts
  let (n, r) := y.parts
  ofParts (x.isNegative != y.isNegative) (m * n) (q + r)

/-- The quotient of two finite numbers, the second not being zero. -/
def dividedBy (x y : Binary64) : Binary64 :=
  let (m, q) := x.parts
  let (n, r) := y.parts
  ofRatio (x.isNegative != y.isNegative) (m <<< (q - r).toNat) (n <<< (r - q).toNat)

/-- `10 ^ n` rounded. -/
def tenTo (n : Nat) : Binary64 := ofDecimal false 1 n

/-- Scales by a power of ten, in steps of at most 308 places downwards. `none` when the number is
out of range. -/
def scale (x : Binary64) (exponent : Int) : Option Binary64 :=
  if x.isZero then some x
  else if 308 < exponent then none
  else if 0 ≤ exponent then
    let y := x.times (tenTo exponent.toNat)
    if y.isInfinite then none else some y
  else if -308 ≤ exponent then some (x.dividedBy (tenTo (-exponent).toNat))
  else (x.dividedBy (tenTo 308)).scale (exponent + 308)
termination_by exponent.natAbs
decreasing_by omega

/-- Rounds `digits` to a double and scales that by `10 ^ exponent`; `none` when out of range. -/
def ofScaledDecimal (negative : Bool) (digits : Nat) (exponent : Int) : Option Binary64 :=
  (scale (ofRatio false digits 1) exponent).map fun x => ofMagnitudeBits negative x.magnitudeBits

/-! ## To integers -/

/-- The nearest integer, a half going away from zero; 0 for what is not finite. -/
def round (x : Binary64) : Int :=
  if x.isFinite then
    let (m, q) := x.parts
    let whole : Nat :=
      if 0 ≤ q then m <<< q.toNat else (2 * m + 1 <<< (-q).toNat) >>> ((-q).toNat + 1)
    if x.isNegative then -(whole : Int) else whole
  else 0

/-- Rounds and then brings the result into the range from `low` to `high`. A NaN becomes 0. -/
def roundInto (low high : Int) (x : Binary64) : Int :=
  if x.isInfinite then (if x.isNegative then low else high)
  else max low (min high x.round)

end Binary64

end AccountServer
