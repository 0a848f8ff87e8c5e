import CarPairing.Bytes

/-!
The Poly1305 one-time authenticator: a polynomial in `r` over the integers
modulo `2^130 - 5`, plus `s`.
-/

namespace CarPairing.Poly1305

def prime : Nat := Nat.pow 2 130 - 5

def clampMask : Nat := 0x0ffffffc0ffffffc0ffffffc0fffffff

def step (r accumulator : Nat) (piece : Bytes) : Nat :=
  (accumulator + Bytes.toNatLE (piece ++ [1])) * r % prime

/-- The 16-byte tag of a message under a 32-byte one-time key `r | s`. -/
def tag (key message : Bytes) : Bytes :=
  let r := Bytes.toNatLE (key.take 16) &&& clampMask
  let s := Bytes.toNatLE (key.drop 16)
  let pieces := message.pieces 16 ((message.length + 15) / 16)
  Bytes.ofNatLE 16 (pieces.foldl (step r) 0 + s)

theorem length_tag (key message : Bytes) : (tag key message).length = 16 :=
  Bytes.length_ofNatLE _ _

end CarPairing.Poly1305
