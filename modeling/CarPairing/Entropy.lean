import CarPairing.Bytes

/-!
The randomness that keys, nonces and identifiers are drawn from: an endless
byte stream and the place reached in it. Everything else is a function of the
stream, so a statement about every stream is a statement about every outcome.
-/

namespace CarPairing

structure Entropy where
  byteAt : Nat → UInt8
  position : Nat := 0

namespace Entropy

def draw (entropy : Entropy) (count : Nat) : Bytes × Entropy :=
  ((List.range count).map fun index => entropy.byteAt (entropy.position + index),
   { entropy with position := entropy.position + count })

theorem length_draw (entropy : Entropy) (count : Nat) :
    (entropy.draw count).1.length = count := by
  simp [draw]

end Entropy

end CarPairing
