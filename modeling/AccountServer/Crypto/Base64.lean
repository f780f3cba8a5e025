import AccountServer.Crypto.Bytes

/-!
# Base 64

Three bytes are written as four characters, and what is left over as two or three, without any
padding. An `Alphabet` says how the 64 digits are written. `decode?` takes exactly what `encode`
gives: the bits that a last character has over must be zero.
-/

namespace AccountServer.Crypto.Base64

/-- How the digits 62 and 63 are written. -/
structure Alphabet where
  plus : Char
  slash : Char

def Alphabet.standard : Alphabet := ⟨'+', '/'⟩

/-- The alphabet that needs no escaping in a URL. -/
def Alphabet.forUrl : Alphabet := ⟨'-', '_'⟩

/-- The character of a digit below 64. -/
def Alphabet.char (a : Alphabet) (d : Nat) : Char :=
  if d < 26 then Char.ofNat (0x41 + d)
  else if d < 52 then Char.ofNat (0x61 + d - 26)
  else if d < 62 then Char.ofNat (0x30 + d - 52)
  else if d = 62 then a.plus
  else a.slash

/-- The digit of a character. -/
def Alphabet.digit? (a : Alphabet) (c : Char) : Option Nat :=
  let n := c.toNat
  if 0x41 ≤ n && n ≤ 0x5A then some (n - 0x41)
  else if 0x61 ≤ n && n ≤ 0x7A then some (n - 0x61 + 26)
  else if 0x30 ≤ n && n ≤ 0x39 then some (n - 0x30 + 52)
  else if c = a.plus then some 62
  else if c = a.slash then some 63
  else none

/-- The digits of a sequence of bytes. -/
def digits : Bytes → List Nat
  | x :: y :: z :: rest =>
    x.toNat / 4 :: (x.toNat % 4 * 16 + y.toNat / 16) :: (y.toNat % 16 * 4 + z.toNat / 64) ::
      z.toNat % 64 :: digits rest
  | [x, y] => [x.toNat / 4, x.toNat % 4 * 16 + y.toNat / 16, y.toNat % 16 * 4]
  | [x] => [x.toNat / 4, x.toNat % 4 * 16]
  | [] => []

/-- The bytes of a sequence of digits. -/
def ofDigits? : List Nat → Option Bytes
  | a :: b :: c :: d :: rest =>
    (ofDigits? rest).map fun bytes =>
      UInt8.ofNat (a * 4 + b / 16) :: UInt8.ofNat (b % 16 * 16 + c / 4) ::
        UInt8.ofNat (c % 4 * 64 + d) :: bytes
  | [a, b, c] =>
    if c % 4 = 0 then some [UInt8.ofNat (a * 4 + b / 16), UInt8.ofNat (b % 16 * 16 + c / 4)]
    else none
  | [a, b] => if b % 16 = 0 then some [UInt8.ofNat (a * 4 + b / 16)] else none
  | [_] => none
  | [] => some []

/-- The text of a sequence of bytes. -/
def encode (a : Alphabet) (bytes : Bytes) : List Char := (digits bytes).map a.char

/-- The bytes of a text. -/
def decode? (a : Alphabet) (cs : List Char) : Option Bytes :=
  (cs.mapM a.digit?).bind ofDigits?

end AccountServer.Crypto.Base64
