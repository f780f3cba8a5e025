import AccountServer.Number.Binary64
import AccountServer.Text.Blank

/-!
# Numbers written in text

Outside of JSON a whole number may have a plus sign and leading zeros, and a number with a point
may lack the digits on one side of it. `nan`, `inf` and `infinity` are numbers too, in any case.
A number with a point is rounded once.
-/

namespace AccountServer.Numeral

/-- The sign in front, which is whether it is negative, and the rest. -/
def takeSign : List Char → Bool × List Char
  | '-' :: rest => (true, rest)
  | '+' :: rest => (false, rest)
  | cs => (false, cs)

/-- The value of a digit. -/
def digitValue? (base : Nat) (c : Char) : Option Nat :=
  let n := c.toNat
  let value :=
    if 0x30 ≤ n && n ≤ 0x39 then n - 0x30
    else if 0x41 ≤ n && n ≤ 0x5A then n - 0x41 + 10
    else if 0x61 ≤ n && n ≤ 0x7A then n - 0x61 + 10
    else base
  if value < base then some value else none

/-- The number that digits stand for; there has to be a digit. -/
def natural? (base : Nat) (cs : List Char) : Option Nat :=
  if cs.isEmpty then none
  else cs.foldl (fun n c => do return (← n) * base + (← digitValue? base c)) (some 0)

/-- A whole number between the bounds. A minus sign needs a bound below zero. -/
def integer? (base : Nat) (low high : Int) (cs : List Char) : Option Int := do
  let (negative, digits) := takeSign cs
  let n ← natural? base digits
  let value : Int := if negative then -(n : Int) else n
  if low ≤ value && value ≤ high && (low < 0 || !negative) then some value else none

/-- The exponent that ends a number, 0 if there is none. -/
def exponent? : List Char → Option Int
  | [] => some 0
  | e :: rest => do
    if e ≠ 'e' && e ≠ 'E' then none
    else
      let (negative, digits) := takeSign rest
      let n ← natural? 10 digits
      return if negative then -(n : Int) else n

/-- A number with or without a point. -/
def real? (cs : List Char) : Option Binary64 := do
  let (negative, cs) := takeSign cs
  match Text.lowerAscii (String.ofList cs) with
  | "nan" => return .nan
  | "inf" | "infinity" => return .infinity negative
  | _ =>
    let whole := cs.takeWhile Char.isDigit
    let rest := cs.drop whole.length
    let fraction := match rest with
      | '.' :: rest => rest.takeWhile Char.isDigit
      | _ => []
    let rest := match rest with
      | '.' :: rest => rest.drop fraction.length
      | _ => rest
    let digits ← natural? 10 (whole ++ fraction)
    return .ofDecimal negative digits ((← exponent? rest) - fraction.length)

end AccountServer.Numeral
