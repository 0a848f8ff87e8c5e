import CarPairing.Entropy

/-!
A stream that can be had again, for runs that are to be repeated. It stands for
no randomness: whoever knows the seed knows every byte.
-/

namespace CarPairing.Entropy

/-- How far the counter behind the words moves from one word to the next. -/
def stride : UInt64 := 0x9E3779B97F4A7C15

/-- The word for a counter. Every bit of the counter bears on every bit of it. -/
def word (counter : UInt64) : UInt64 :=
  let once := (counter ^^^ (counter >>> 30)) * 0xBF58476D1CE4E5B9
  let twice := (once ^^^ (once >>> 27)) * 0x94D049BB133111EB
  twice ^^^ (twice >>> 31)

/-- A byte of the words of a seed, each taken from its lowest byte on. -/
def seededByte (seed : UInt64) (position : Nat) : UInt8 :=
  let counter := seed + stride * UInt64.ofNat (position / 8 + 1)
  (word counter >>> UInt64.ofNat (8 * (position % 8))).toUInt8

/-- The given bytes, and after them those of the seed. -/
def seeded (first : Array UInt8) (seed : UInt64) : Entropy :=
  { byteAt := fun position =>
      if h : position < first.size then first[position]
      else seededByte seed (position - first.size) }

end CarPairing.Entropy
