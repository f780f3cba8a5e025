/-!
# UTF-8

`decodePieces` cuts bytes into characters and into pieces that are no characters. A piece is the
longest run of bytes that could have become a character, or one byte if there is no such run. The
strict reading `decode?` wants characters only; `decodeLossy` puts U+FFFD in place of each piece.
-/

namespace AccountServer.Text

/-- The bytes of a text. -/
def utf8 (cs : List Char) : List UInt8 := cs.flatMap String.utf8EncodeChar

/-- The character that stands for bytes that are none. -/
def replacement : Char := '\uFFFD'

/-- What a byte above 127 says when it comes first: the bits that it contributes and the bounds of
the bytes that have to follow. -/
def leading (b : UInt8) : Option (Nat × List (Nat × Nat)) :=
  let n := b.toNat
  let any := (0x80, 0xBF)
  if 0xC2 ≤ n && n ≤ 0xDF then some (n - 0xC0, [any])
  else if n = 0xE0 then some (n - 0xE0, [(0xA0, 0xBF), any])
  else if n = 0xED then some (n - 0xE0, [(0x80, 0x9F), any])
  else if 0xE1 ≤ n && n ≤ 0xEF then some (n - 0xE0, [any, any])
  else if n = 0xF0 then some (n - 0xF0, [(0x90, 0xBF), any, any])
  else if n = 0xF4 then some (n - 0xF0, [(0x80, 0x8F), any, any])
  else if 0xF1 ≤ n && n ≤ 0xF3 then some (n - 0xF0, [any, any, any])
  else none

/-- Reads the bytes that have to follow, onto the bits so far, and answers what stands behind
them. It stops in front of the first byte that is out of bounds. -/
def trailing (bits : Nat) : List (Nat × Nat) → List UInt8 → Option Nat × List UInt8
  | [], bytes => (some bits, bytes)
  | _ :: _, [] => (none, [])
  | (low, high) :: bounds, b :: rest =>
    if low ≤ b.toNat && b.toNat ≤ high then trailing (bits * 64 + b.toNat % 64) bounds rest
    else (none, b :: rest)

theorem length_trailing_le (bits : Nat) (bounds : List (Nat × Nat)) (bytes : List UInt8) :
    (trailing bits bounds bytes).2.length ≤ bytes.length := by
  induction bounds generalizing bits bytes with
  | nil => simp [trailing]
  | cons bound bounds ih =>
    cases bytes with
    | nil => simp [trailing]
    | cons b rest =>
      simp only [trailing]
      split
      · exact Nat.le_succ_of_le (ih _ rest)
      · exact Nat.le_refl _

/-- The characters, and `none` for each piece that is no character. -/
def decodePieces : List UInt8 → List (Option Char)
  | [] => []
  | b :: rest =>
    if b.toNat < 0x80 then some (Char.ofNat b.toNat) :: decodePieces rest
    else
      match leading b with
      | none => none :: decodePieces rest
      | some (bits, bounds) =>
        (trailing bits bounds rest).1.map Char.ofNat :: decodePieces (trailing bits bounds rest).2
  termination_by bytes => bytes.length
  decreasing_by
    all_goals simp only [List.length_cons]
    · exact Nat.lt_succ_self _
    · exact Nat.lt_succ_self _
    · exact Nat.lt_succ_of_le (length_trailing_le _ _ rest)

/-- The text, if all bytes belong to characters. -/
def decode? (bytes : List UInt8) : Option (List Char) := (decodePieces bytes).mapM id

/-- The text, with a replacement for each piece that is no character. -/
def decodeLossy (bytes : List UInt8) : List Char :=
  (decodePieces bytes).map (·.getD replacement)

end AccountServer.Text
