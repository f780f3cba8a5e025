import AccountServer.Crypto.Bytes

/-!
# BLAKE2b

The hash function of RFC 7693 without a key, and the hash of any length that Argon2 makes of it.
-/

namespace AccountServer.Crypto.Blake2b

def initial : List UInt64 :=
  [0x6a09e667f3bcc908, 0xbb67ae8584caa73b, 0x3c6ef372fe94f82b, 0xa54ff53a5f1d36f1,
   0x510e527fade682d1, 0x9b05688c2b3e6c1f, 0x1f83d9abfb41bd6b, 0x5be0cd19137e2179]

/-- The order in which each round takes the words of the message. -/
def schedule : List (List Nat) :=
  [[0, 1, 2, 3, 4, 5, 6, 7, 8, 9, 10, 11, 12, 13, 14, 15],
   [14, 10, 4, 8, 9, 15, 13, 6, 1, 12, 0, 2, 11, 7, 5, 3],
   [11, 8, 12, 0, 5, 2, 15, 13, 10, 14, 3, 6, 7, 1, 9, 4],
   [7, 9, 3, 1, 13, 12, 11, 14, 2, 6, 5, 10, 4, 0, 15, 8],
   [9, 0, 5, 7, 2, 4, 10, 15, 14, 1, 11, 12, 6, 8, 3, 13],
   [2, 12, 6, 10, 0, 11, 8, 3, 4, 13, 7, 5, 15, 14, 1, 9],
   [12, 5, 1, 15, 14, 13, 4, 10, 0, 7, 6, 3, 9, 2, 8, 11],
   [13, 11, 7, 14, 12, 1, 3, 9, 5, 0, 15, 4, 8, 6, 2, 10],
   [6, 15, 14, 9, 11, 3, 0, 8, 12, 2, 13, 7, 1, 4, 10, 5],
   [10, 2, 8, 4, 7, 6, 1, 5, 15, 11, 9, 14, 3, 12, 13, 0],
   [0, 1, 2, 3, 4, 5, 6, 7, 8, 9, 10, 11, 12, 13, 14, 15],
   [14, 10, 4, 8, 9, 15, 13, 6, 1, 12, 0, 2, 11, 7, 5, 3]]

/-- The places that the eight steps of a round mix: the columns, then the diagonals. -/
def quarters : List (Nat × Nat × Nat × Nat) :=
  [(0, 4, 8, 12), (1, 5, 9, 13), (2, 6, 10, 14), (3, 7, 11, 15),
   (0, 5, 10, 15), (1, 6, 11, 12), (2, 7, 8, 13), (3, 4, 9, 14)]

def rotateRight (x : UInt64) (n : UInt64) : UInt64 := (x >>> n) ||| (x <<< (64 - n))

/-- Mixes four words and two words of the message. -/
def mix (v : Array UInt64) (places : Nat × Nat × Nat × Nat) (x y : UInt64) : Array UInt64 :=
  let (i, j, k, l) := places
  let a := v.getD i 0 + v.getD j 0 + x
  let d := rotateRight (v.getD l 0 ^^^ a) 32
  let c := v.getD k 0 + d
  let b := rotateRight (v.getD j 0 ^^^ c) 24
  let a := a + b + y
  let d := rotateRight (d ^^^ a) 16
  let c := c + d
  let b := rotateRight (b ^^^ c) 63
  (((v.setIfInBounds i a).setIfInBounds j b).setIfInBounds k c).setIfInBounds l d

/-- One round: each step takes the next two words in the order of the round. -/
def round (message v : Array UInt64) (order : List Nat) : Array UInt64 :=
  let rec go (v : Array UInt64) : List (Nat × Nat × Nat × Nat) → List Nat → Array UInt64
    | places :: more, i :: j :: rest =>
      go (mix v places (message.getD i 0) (message.getD j 0)) more rest
    | _, _ => v
  go v quarters order

/-- Mixes a block into the chain. `count` is the number of bytes up to the end of the block. -/
def compress (chain : List UInt64) (block : Bytes) (count : Nat) (last : Bool) : List UInt64 :=
  let message := ((pieces 8 16 block).map fun w => UInt64.ofNat (ofLittleEndian w)).toArray
  let low := UInt64.ofNat count
  let high := UInt64.ofNat (count / UInt64.size)
  let masks : List UInt64 := [0, 0, 0, 0, low, high, if last then ~~~ 0 else 0, 0]
  let start := (chain ++ List.zipWith (· ^^^ ·) initial masks).toArray
  let v := schedule.foldl (round message) start
  (chain.zipIdx).map fun (h, i) => h ^^^ v.getD i 0 ^^^ v.getD (i + 8) 0

/-- Mixes in the blocks of a message; the last one is filled up with zeros. -/
def absorb (chain : List UInt64) (done : Nat) : Nat → Bytes → List UInt64
  | 0, message =>
    let block := message ++ List.replicate (128 - message.length) 0
    compress chain block (done + message.length) true
  | blocks + 1, message =>
    absorb (compress chain (message.take 128) (done + 128) false) (done + 128) blocks
      (message.drop 128)

/-- The hash of a message in `width` bytes, 64 at most. -/
def hash (width : Nat) (message : Bytes) : Bytes :=
  let parameters := UInt64.ofNat (0x01010000 + width)
  let chain := match initial with
    | h :: rest => (h ^^^ parameters) :: rest
    | [] => []
  let final := absorb chain 0 ((message.length - 1) / 128) message
  (final.flatMap fun w => littleEndian 8 w.toNat).take width

/-- The halves of `count` hashes, each the hash of the one before, and at the end a hash of
`width` bytes. -/
def chained (width : Nat) : Nat → Bytes → Bytes
  | 0, v => hash width v
  | count + 1, v =>
    let next := hash 64 v
    next.take 32 ++ chained width count next

/-- The hash of a message in any number of bytes. -/
def longHash (width : Nat) (message : Bytes) : Bytes :=
  let start := littleEndian 4 width ++ message
  if width ≤ 64 then hash width start
  else
    let count := (width + 31) / 32 - 2
    chained (width - 32 * count) count start

end AccountServer.Crypto.Blake2b
