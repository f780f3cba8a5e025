/-!
# Blanks and control characters

`isBlank` is the Unicode property White_Space, `isControl` the general category Cc.
-/

namespace AccountServer.Text

/-- The property White_Space. -/
def isBlank (c : Char) : Bool :=
  let n := c.toNat
  (0x09 ≤ n && n ≤ 0x0D) || n == 0x20 || n == 0x85 || n == 0xA0 || n == 0x1680 ||
    (0x2000 ≤ n && n ≤ 0x200A) || n == 0x2028 || n == 0x2029 || n == 0x202F || n == 0x205F ||
    n == 0x3000

/-- The general category Cc. -/
def isControl (c : Char) : Bool :=
  let n := c.toNat
  n ≤ 0x1F || (0x7F ≤ n && n ≤ 0x9F)

/-- Cuts off the blanks at the beginning. -/
def trimStart (cs : List Char) : List Char := cs.dropWhile isBlank

/-- Cuts off the characters at the end that pass the test. -/
def trimEndWhile (p : Char → Bool) (cs : List Char) : List Char :=
  (cs.reverse.dropWhile p).reverse

/-- Cuts off the blanks at both ends. -/
def trim (cs : List Char) : List Char := trimEndWhile isBlank (trimStart cs)

/-- The lower case of ASCII letters; every other character stays. -/
def lowerAscii (s : String) : String := s.map Char.toLower

end AccountServer.Text
