/-!
# Machine words

How far words of a number of bits count.
-/

namespace ContextQuery.Word

/-- The number of words of 32 bits. -/
def count32 : Nat :=
  0x100000000

/-- The number of words of 64 bits. -/
def count64 : Nat :=
  0x10000000000000000

/-- The number of words of 128 bits. -/
def count128 : Nat :=
  0x100000000000000000000000000000000

end ContextQuery.Word
