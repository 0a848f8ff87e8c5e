import CarPairing.Bytes

/-!
X25519: the Montgomery ladder on the x-coordinates of curve25519, over the
integers modulo `2^255 - 19`. Any 32 bytes are a private key and any 32 bytes
are a public key; a low-order result is not refused.
-/

namespace CarPairing.X25519

def prime : Nat := Nat.pow 2 255 - 19

/-- A projective x-coordinate `x / z`. -/
structure Point where
  x : Nat
  z : Nat

def square (value : Nat) : Nat := value * value % prime

def minus (left right : Nat) : Nat := (left + prime - right) % prime

def double (p : Point) : Point :=
  let sum := square (p.x + p.z)
  let difference := square (minus p.x p.z)
  let gap := minus sum difference
  ⟨sum * difference % prime, gap * (sum + 121665 * gap) % prime⟩

/-- The sum of two points whose difference has x-coordinate `base`. -/
def add (base : Nat) (p q : Point) : Point :=
  let cross := minus q.x q.z * (p.x + p.z) % prime
  let other := (q.x + q.z) * minus p.x p.z % prime
  ⟨square (cross + other), base * square (minus cross other) % prime⟩

/-- From `(P, P + B)` to `(kP, kP + B)` for the low `count` bits `k` of the
scalar, highest bit first, when started at the neutral element. -/
def ladder (base scalar : Nat) : Nat → Point × Point → Point × Point
  | 0, pair => pair
  | count + 1, (p, q) =>
      if scalar.testBit count then ladder base scalar count (add base p q, double q)
      else ladder base scalar count (double p, add base p q)

def power (value exponent : Nat) : Nat → Nat → Nat
  | 0, result => result
  | count + 1, result =>
      let squared := square result
      power value exponent count
        (if exponent.testBit count then squared * value % prime else squared)

/-- The inverse modulo the prime, by Fermat; zero for zero. -/
def inverse (value : Nat) : Nat :=
  power value (prime - 2) 255 1

/-- A private key as a scalar: bit 254 set, the bits above it and the three
lowest cleared. -/
def scalarOf (secret : Bytes) : Nat :=
  Nat.pow 2 254 + secret.toNatLE % Nat.pow 2 254 / 8 * 8

/-- A public key as an x-coordinate: the top bit is ignored. -/
def coordinateOf (shared : Bytes) : Nat :=
  shared.toNatLE % Nat.pow 2 255 % prime

/-- The secret that a private key and a peer's public key agree on. -/
def agree (secret peer : Bytes) : Bytes :=
  let base := coordinateOf peer
  let result := (ladder base (scalarOf secret) 255 (⟨1, 0⟩, ⟨base, 1⟩)).1
  Bytes.ofNatLE 32 (result.x * inverse result.z % prime)

/-- The public key of a private key: agreement with the base point 9. -/
def publicKey (secret : Bytes) : Bytes :=
  agree secret (Bytes.ofNatLE 32 9)

theorem length_agree (secret peer : Bytes) : (agree secret peer).length = 32 :=
  Bytes.length_ofNatLE _ _

theorem length_publicKey (secret : Bytes) : (publicKey secret).length = 32 :=
  length_agree _ _

end CarPairing.X25519
