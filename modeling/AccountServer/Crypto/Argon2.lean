import AccountServer.Crypto.Blake2b

/-!
# Argon2

The memory-hard hash of RFC 9106, in its three variants and both versions.

The memory is an array of blocks of 128 words, divided into lanes and each lane into four
segments. A block is kept as eight rows of sixteen words; its columns are what the rows become by
`transpose`. A pass goes through the segments, in each through the lanes, and makes every block
from the one before it and an earlier one that is picked by pseudo-random words.
-/

namespace AccountServer.Crypto.Argon2

/-! ## Blocks -/

/-- Sixteen words. -/
structure Row where
  w0 : UInt64
  w1 : UInt64
  w2 : UInt64
  w3 : UInt64
  w4 : UInt64
  w5 : UInt64
  w6 : UInt64
  w7 : UInt64
  w8 : UInt64
  w9 : UInt64
  w10 : UInt64
  w11 : UInt64
  w12 : UInt64
  w13 : UInt64
  w14 : UInt64
  w15 : UInt64

/-- Four words. -/
structure Quad where
  a : UInt64
  b : UInt64
  c : UInt64
  d : UInt64

@[inline] def rotateRight (x : UInt64) (n : UInt64) : UInt64 := (x >>> n) ||| (x <<< (64 - n))

/-- The sum of two words and twice the product of their lower halves. -/
@[inline] def blend (x y : UInt64) : UInt64 :=
  x + y + 2 * (x &&& 0xFFFFFFFF) * (y &&& 0xFFFFFFFF)

/-- Mixes four words. -/
@[inline] def mix (a b c d : UInt64) : Quad :=
  let a := blend a b
  let d := rotateRight (d ^^^ a) 32
  let c := blend c d
  let b := rotateRight (b ^^^ c) 24
  let a := blend a b
  let d := rotateRight (d ^^^ a) 16
  let c := blend c d
  let b := rotateRight (b ^^^ c) 63
  ⟨a, b, c, d⟩

/-- Mixes a row, taken as a square of four words by four: its columns, then its diagonals. -/
def Row.permute (r : Row) : Row :=
  let ⟨a0, b0, c0, d0⟩ := mix r.w0 r.w4 r.w8 r.w12
  let ⟨a1, b1, c1, d1⟩ := mix r.w1 r.w5 r.w9 r.w13
  let ⟨a2, b2, c2, d2⟩ := mix r.w2 r.w6 r.w10 r.w14
  let ⟨a3, b3, c3, d3⟩ := mix r.w3 r.w7 r.w11 r.w15
  let ⟨a0, b1, c2, d3⟩ := mix a0 b1 c2 d3
  let ⟨a1, b2, c3, d0⟩ := mix a1 b2 c3 d0
  let ⟨a2, b3, c0, d1⟩ := mix a2 b3 c0 d1
  let ⟨a3, b0, c1, d2⟩ := mix a3 b0 c1 d2
  ⟨a0, a1, a2, a3, b0, b1, b2, b3, c0, c1, c2, c3, d0, d1, d2, d3⟩

def Row.xor (r s : Row) : Row :=
  ⟨r.w0 ^^^ s.w0, r.w1 ^^^ s.w1, r.w2 ^^^ s.w2, r.w3 ^^^ s.w3, r.w4 ^^^ s.w4, r.w5 ^^^ s.w5,
   r.w6 ^^^ s.w6, r.w7 ^^^ s.w7, r.w8 ^^^ s.w8, r.w9 ^^^ s.w9, r.w10 ^^^ s.w10, r.w11 ^^^ s.w11,
   r.w12 ^^^ s.w12, r.w13 ^^^ s.w13, r.w14 ^^^ s.w14, r.w15 ^^^ s.w15⟩

/-- The row of the words at sixteen places. -/
def Row.ofWords (f : Nat → UInt64) : Row :=
  ⟨f 0, f 1, f 2, f 3, f 4, f 5, f 6, f 7, f 8, f 9, f 10, f 11, f 12, f 13, f 14, f 15⟩

def Row.words (r : Row) : List UInt64 :=
  [r.w0, r.w1, r.w2, r.w3, r.w4, r.w5, r.w6, r.w7, r.w8, r.w9, r.w10, r.w11, r.w12, r.w13, r.w14,
   r.w15]

/-- Eight rows. -/
structure Block where
  r0 : Row
  r1 : Row
  r2 : Row
  r3 : Row
  r4 : Row
  r5 : Row
  r6 : Row
  r7 : Row

namespace Block

def ofWords (f : Nat → UInt64) : Block :=
  ⟨.ofWords f, .ofWords fun i => f (i + 16), .ofWords fun i => f (i + 32),
   .ofWords fun i => f (i + 48), .ofWords fun i => f (i + 64), .ofWords fun i => f (i + 80),
   .ofWords fun i => f (i + 96), .ofWords fun i => f (i + 112)⟩

def zero : Block := ofWords fun _ => 0

instance : Inhabited Block := ⟨zero⟩

def words (b : Block) : List UInt64 :=
  b.r0.words ++ b.r1.words ++ b.r2.words ++ b.r3.words ++ b.r4.words ++ b.r5.words ++ b.r6.words ++
    b.r7.words

def ofBytes (bytes : Bytes) : Block :=
  let words := ((pieces 8 128 bytes).map fun w => UInt64.ofNat (ofLittleEndian w)).toArray
  ofWords fun i => words.getD i 0

def bytes (b : Block) : Bytes := b.words.flatMap fun w => littleEndian 8 w.toNat

def xor (b c : Block) : Block :=
  ⟨b.r0.xor c.r0, b.r1.xor c.r1, b.r2.xor c.r2, b.r3.xor c.r3, b.r4.xor c.r4, b.r5.xor c.r5,
   b.r6.xor c.r6, b.r7.xor c.r7⟩

/-- Does the same to all rows. -/
@[inline] def map (f : Row → Row) (b : Block) : Block :=
  ⟨f b.r0, f b.r1, f b.r2, f b.r3, f b.r4, f b.r5, f b.r6, f b.r7⟩

/-- Two neighbouring words of every row. -/
@[inline] def column (b : Block) (f g : Row → UInt64) : Row :=
  ⟨f b.r0, g b.r0, f b.r1, g b.r1, f b.r2, g b.r2, f b.r3, g b.r3, f b.r4, g b.r4, f b.r5, g b.r5,
   f b.r6, g b.r6, f b.r7, g b.r7⟩

/-- Makes the columns rows; a column is two words wide. -/
def transpose (b : Block) : Block :=
  ⟨b.column Row.w0 Row.w1, b.column Row.w2 Row.w3, b.column Row.w4 Row.w5, b.column Row.w6 Row.w7,
   b.column Row.w8 Row.w9, b.column Row.w10 Row.w11, b.column Row.w12 Row.w13,
   b.column Row.w14 Row.w15⟩

/-- Mixes two blocks into one: the rows, then the columns of their sum. -/
def combine (x y : Block) : Block :=
  let sum := x.xor y
  (((sum.map Row.permute).transpose.map Row.permute).transpose).xor sum

end Block

/-! ## Parameters -/

/-- How the earlier block is picked: by what the memory holds, by the position alone, or by the
position for the first half of the first pass. -/
inductive Variant where
  | dependent
  | independent
  | hybrid
  deriving DecidableEq, Repr

def Variant.code : Variant → Nat
  | .dependent => 0
  | .independent => 1
  | .hybrid => 2

/-- What a hash is computed from, besides password and salt. -/
structure Params where
  variant : Variant
  version : Nat
  /-- The size of the memory in blocks, which are of 1 KiB. -/
  memory : Nat
  passes : Nat
  lanes : Nat
  /-- The number of bytes of the hash. -/
  width : Nat
  /-- Data that goes into the hash. -/
  data : Bytes := []

namespace Params

/-- The blocks of a segment. -/
def segmentLength (p : Params) : Nat := p.memory / (4 * p.lanes)

/-- The blocks of a lane. -/
def laneLength (p : Params) : Nat := 4 * p.segmentLength

/-- The blocks that are used. -/
def blockCount (p : Params) : Nat := p.lanes * p.laneLength

end Params

/-- A sequence of bytes behind its length. -/
def measured (bytes : Bytes) : Bytes := littleEndian 4 bytes.length ++ bytes

/-- The hash that all blocks come from. -/
def seed (p : Params) (password salt : Bytes) : Bytes :=
  Blake2b.hash 64 (littleEndian 4 p.lanes ++ littleEndian 4 p.width ++ littleEndian 4 p.memory ++
    littleEndian 4 p.passes ++ littleEndian 4 p.version ++ littleEndian 4 p.variant.code ++
    measured password ++ measured salt ++ measured [] ++ measured p.data)

/-! ## Filling the memory -/

/-- Where a block is made. -/
structure Place where
  pass : Nat
  slice : Nat
  lane : Nat
  /-- The place within the segment. -/
  index : Nat

/-- Whether the place alone picks the earlier block. -/
def Place.isIndependent (p : Params) (at_ : Place) : Bool :=
  match p.variant with
  | .dependent => false
  | .independent => true
  | .hybrid => at_.pass == 0 && at_.slice < 2

/-- The pseudo-random words for 128 places of a segment. -/
def addresses (p : Params) (at_ : Place) : Array UInt64 :=
  let input : Array UInt64 :=
    #[.ofNat at_.pass, .ofNat at_.lane, .ofNat at_.slice, .ofNat p.blockCount, .ofNat p.passes,
      .ofNat p.variant.code, .ofNat (at_.index / 128 + 1)]
  let block := Block.ofWords fun i => input.getD i 0
  (Block.zero.combine (Block.zero.combine block)).words.toArray

/-- The number of blocks that may be picked from, in the lane of the new block or in another. -/
def areaSize (p : Params) (at_ : Place) (sameLane : Bool) : Nat :=
  let finished :=
    if at_.pass = 0 then at_.slice * p.segmentLength else p.laneLength - p.segmentLength
  if sameLane then finished + at_.index - 1
  else finished - if at_.index = 0 then 1 else 0

/-- The place in the memory of the block that a pseudo-random word picks. -/
def reference (p : Params) (at_ : Place) (random : UInt64) : Nat :=
  let low := random.toNat % UInt32.size
  let high := random.toNat / UInt32.size
  let lane := if at_.pass = 0 && at_.slice = 0 then at_.lane else high % p.lanes
  let area := areaSize p at_ (lane == at_.lane)
  let back := area * (low * low / UInt32.size) / UInt32.size
  let start := if at_.pass = 0 || at_.slice = 3 then 0 else (at_.slice + 1) * p.segmentLength
  lane * p.laneLength + (start + (area - 1 - back)) % p.laneLength

/-- Makes the blocks of a segment, `count` of them being left. `words` are the pseudo-random words
for the places around here, if the place alone picks. -/
def fillSegment (p : Params) (pass slice lane : Nat) :
    Nat → Array UInt64 → Array Block → Array Block
  | 0, _, memory => memory
  | count + 1, words, memory =>
    let index := p.segmentLength - (count + 1)
    let at_ : Place := ⟨pass, slice, lane, index⟩
    let independent := at_.isIndependent p
    let words :=
      if independent && (index % 128 == 0 || words.isEmpty) then addresses p at_ else words
    let column := slice * p.segmentLength + index
    let here := lane * p.laneLength + column
    let before := if column = 0 then here + p.laneLength - 1 else here - 1
    let previous := memory.getD before .zero
    let random := if independent then words.getD (index % 128) 0 else previous.r0.w0
    let fresh := previous.combine (memory.getD (reference p at_ random) .zero)
    let fresh :=
      if pass = 0 || p.version = 16 then fresh else fresh.xor (memory.getD here .zero)
    fillSegment p pass slice lane count words (memory.setIfInBounds here fresh)

/-- The blocks of a segment that are made by a pass; the first two of the memory are given. -/
def segmentWork (p : Params) (pass slice : Nat) : Nat :=
  if pass = 0 && slice = 0 then p.segmentLength - 2 else p.segmentLength

/-- Fills the whole memory pass by pass, slice by slice, lane by lane. -/
def fill (p : Params) (memory : Array Block) : Array Block :=
  (List.range p.passes).foldl (fun memory pass =>
    (List.range 4).foldl (fun memory slice =>
      (List.range p.lanes).foldl (fun memory lane =>
        fillSegment p pass slice lane (segmentWork p pass slice) #[] memory) memory) memory) memory

/-- The memory with the first two blocks of every lane. -/
def start (p : Params) (seed : Bytes) : Array Block :=
  let first (lane column : Nat) : Block :=
    .ofBytes (Blake2b.longHash 1024 (seed ++ littleEndian 4 column ++ littleEndian 4 lane))
  (List.range p.lanes).foldl (fun memory lane =>
    (memory.setIfInBounds (lane * p.laneLength) (first lane 0)).setIfInBounds
      (lane * p.laneLength + 1) (first lane 1)) (Array.replicate p.blockCount .zero)

/-- The hash of a password with a salt. -/
def hash (p : Params) (password salt : Bytes) : Bytes :=
  let memory := fill p (start p (seed p password salt))
  let last := (List.range p.lanes).foldl (fun acc lane =>
    acc.xor (memory.getD ((lane + 1) * p.laneLength - 1) .zero)) Block.zero
  Blake2b.longHash p.width last.bytes

end AccountServer.Crypto.Argon2
