import AccountServer.Text.Blank
import AccountServer.Time.Instant

/-!
# Reading instants

A relaxed form of RFC 3339. Blanks may stand in front of every number and around the zone, numbers
may lack their leading zeros, and the date is parted from the time by `T`, `t` or a space. A year
with a sign may have any number of digits. The zone must be there: `Z`, `UTC` in any case, or an
offset, with or without colon, whose minus may be the sign U+2212.
-/

namespace AccountServer

namespace Instant

open Text

/-- A number of at least one and at most `width` digits, blanks in front of it left out. -/
def readNumber (width : Option Nat) (cs : List Char) : Option (Nat × List Char) :=
  let cs := trimStart cs
  let run := cs.takeWhile Char.isDigit
  let ds := match width with
    | some w => run.take w
    | none => run
  if ds.isEmpty then none
  else some (ds.foldl (fun n d => n * 10 + (d.toNat - 0x30)) 0, cs.drop ds.length)

/-- A year, of at most four digits unless it has a sign. -/
def readYear (cs : List Char) : Option (Int × List Char) :=
  match trimStart cs with
  | '-' :: rest => bare rest fun n => -(n : Int)
  | '+' :: rest => bare rest fun n => n
  | cs => (readNumber (some 4) cs).map fun (n, rest) => ((n : Int), rest)
where
  /-- Digits that follow the sign at once. -/
  bare (cs : List Char) (sign : Nat → Int) : Option (Int × List Char) :=
    let ds := cs.takeWhile Char.isDigit
    if ds.isEmpty then none
    else some (sign (ds.foldl (fun n d => n * 10 + (d.toNat - 0x30)) 0), cs.drop ds.length)

/-- Blanks and then the given character. -/
def expect (c : Char) (cs : List Char) : Option (List Char) :=
  match trimStart cs with
  | d :: rest => if d = c then some rest else none
  | [] => none

/-- A point and digits, of which nine count; no point is no fraction. -/
def readFraction (cs : List Char) : Option (Nat × List Char) :=
  match cs with
  | '.' :: rest =>
    let ds := rest.takeWhile Char.isDigit
    if ds.isEmpty then none
    else
      let kept := ds.take 9
      let value := kept.foldl (fun n d => n * 10 + (d.toNat - 0x30)) 0
      some (value * Nat.pow 10 (9 - kept.length), rest.drop ds.length)
  | _ => some (0, cs)

/-- The value of two digits at the beginning, both of which must be digits. -/
def twoDigits (cs : List Char) : Option (Nat × List Char) :=
  match cs with
  | a :: b :: rest =>
    if a.isDigit && b.isDigit then some ((a.toNat - 0x30) * 10 + (b.toNat - 0x30), rest) else none
  | _ => none

/-- The seconds by which the zone is ahead of universal time. -/
def readZone (cs : List Char) : Option (Int × List Char) :=
  match cs with
  | 'Z' :: rest | 'z' :: rest => some (0, rest)
  | sign :: rest =>
    if sign == '+' || sign == '-' || sign == '\u2212' then do
      let (hours, rest) ← twoDigits rest
      let (minutes, rest) ← twoDigits (rest.dropWhile fun c => c == ':' || isBlank c)
      if minutes < 60 && hours < 24 then
        let offset : Int := hours * 3600 + minutes * 60
        some (if sign == '+' then offset else -offset, rest)
      else none
    else if (cs.take 3).map Char.toLower = ['u', 't', 'c'] then some (0, cs.drop 3)
    else none
  | [] => none

/-- Reads a date, a time and a zone, with nothing but blanks behind them. -/
def parse? (text : String) : Option Instant := do
  let (year, cs) ← readYear text.toList
  let cs ← expect '-' cs
  let (month, cs) ← readNumber (some 2) cs
  let cs ← expect '-' cs
  let (day, cs) ← readNumber (some 2) cs
  let cs ←
    match cs with
    | c :: rest => if c == 'T' || c == 't' || c == ' ' then some rest else none
    | [] => none
  let (hour, cs) ← readNumber (some 2) cs
  let cs ← expect ':' cs
  let (minute, cs) ← readNumber (some 2) cs
  let cs ← expect ':' cs
  let (second, cs) ← readNumber (some 2) cs
  let (fraction, cs) ← readFraction cs
  let (offset, cs) ← readZone (trimStart cs)
  if !(trimStart cs).isEmpty then none
  if !(minYear ≤ year && year ≤ maxYear && Calendar.isDate year month day) then none
  if !(hour < 24 && minute < 60 && second ≤ 60) then none
  let leap := second = 60
  let ofDay : Int := hour * 3600 + minute * 60 + (if leap then 59 else second)
  let seconds := Calendar.daysOfDate year month day * 86400 + ofDay - offset
  let nanos := fraction + if leap then 1000000000 else 0
  if h : nanos < 2000000000 then
    if secondsInRange seconds then some ⟨seconds, nanos, h⟩ else none
  else none

end Instant

end AccountServer
