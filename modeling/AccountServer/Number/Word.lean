/-!
# Ranges of words

The bounds of the whole numbers that fit into words of 32 and 64 bits.
-/

namespace AccountServer.Word

/-- The largest number of 32 bits. -/
def max32 : Nat := 0xffffffff

/-- The largest number of 64 bits. -/
def max64 : Nat := 0xffffffffffffffff

/-- The least number of 64 bits with a sign. -/
def minInt64 : Int := -0x8000000000000000

/-- The largest number of 64 bits with a sign. -/
def maxInt64 : Int := 0x7fffffffffffffff

end AccountServer.Word
