import CarPairing.Bytes

/-!
The ChaCha20 keystream of a 32-byte key and a 12-byte nonce, one 64-byte block
for each value of a 32-bit counter.
-/

namespace CarPairing.ChaCha20

structure Block where
  x0 : UInt32
  x1 : UInt32
  x2 : UInt32
  x3 : UInt32
  x4 : UInt32
  x5 : UInt32
  x6 : UInt32
  x7 : UInt32
  x8 : UInt32
  x9 : UInt32
  x10 : UInt32
  x11 : UInt32
  x12 : UInt32
  x13 : UInt32
  x14 : UInt32
  x15 : UInt32

def rotate (word : UInt32) (count : UInt32) : UInt32 :=
  (word <<< count) ||| (word >>> (32 - count))

def quarter (a b c d : UInt32) : UInt32 × UInt32 × UInt32 × UInt32 :=
  let a := a + b
  let d := rotate (d ^^^ a) 16
  let c := c + d
  let b := rotate (b ^^^ c) 12
  let a := a + b
  let d := rotate (d ^^^ a) 8
  let c := c + d
  let b := rotate (b ^^^ c) 7
  (a, b, c, d)

/-- Four quarter rounds down the columns, four along the diagonals. -/
def doubleRound (s : Block) : Block :=
  let (x0, x4, x8, x12) := quarter s.x0 s.x4 s.x8 s.x12
  let (x1, x5, x9, x13) := quarter s.x1 s.x5 s.x9 s.x13
  let (x2, x6, x10, x14) := quarter s.x2 s.x6 s.x10 s.x14
  let (x3, x7, x11, x15) := quarter s.x3 s.x7 s.x11 s.x15
  let (x0, x5, x10, x15) := quarter x0 x5 x10 x15
  let (x1, x6, x11, x12) := quarter x1 x6 x11 x12
  let (x2, x7, x8, x13) := quarter x2 x7 x8 x13
  let (x3, x4, x9, x14) := quarter x3 x4 x9 x14
  ⟨x0, x1, x2, x3, x4, x5, x6, x7, x8, x9, x10, x11, x12, x13, x14, x15⟩

def doubleRounds : Nat → Block → Block
  | 0, s => s
  | count + 1, s => doubleRounds count (doubleRound s)

/-- Word `index` of a byte string, low byte first; zero past its end. -/
def word (bytes : Bytes) (index : Nat) : UInt32 :=
  UInt32.ofNat (Bytes.toNatLE ((bytes.drop (4 * index)).take 4))

def initial (key nonce : Bytes) (counter : UInt32) : Block :=
  ⟨0x61707865, 0x3320646e, 0x79622d32, 0x6b206574,
   word key 0, word key 1, word key 2, word key 3,
   word key 4, word key 5, word key 6, word key 7,
   counter, word nonce 0, word nonce 1, word nonce 2⟩

def serialize (s t : Block) : Bytes :=
  [s.x0 + t.x0, s.x1 + t.x1, s.x2 + t.x2, s.x3 + t.x3,
   s.x4 + t.x4, s.x5 + t.x5, s.x6 + t.x6, s.x7 + t.x7,
   s.x8 + t.x8, s.x9 + t.x9, s.x10 + t.x10, s.x11 + t.x11,
   s.x12 + t.x12, s.x13 + t.x13, s.x14 + t.x14, s.x15 + t.x15].flatMap
    fun word => Bytes.ofNatLE 4 word.toNat

def block (key nonce : Bytes) (counter : UInt32) : Bytes :=
  let start := initial key nonce counter
  serialize start (doubleRounds 10 start)

/-- The keystream of `count` blocks from `counter` on. -/
def keystream (key nonce : Bytes) : UInt32 → Nat → Bytes
  | _, 0 => []
  | counter, count + 1 => block key nonce counter ++ keystream key nonce (counter + 1) count

/-- Exclusive or with the keystream from block one on; its own inverse. -/
def crypt (key nonce message : Bytes) : Bytes :=
  message.xor (keystream key nonce 1 ((message.length + 63) / 64))

theorem length_block (key nonce : Bytes) (counter : UInt32) :
    (block key nonce counter).length = 64 := by
  simp [block, serialize, Bytes.length_ofNatLE]

theorem length_keystream (key nonce : Bytes) (counter : UInt32) (count : Nat) :
    (keystream key nonce counter count).length = 64 * count := by
  induction count generalizing counter with
  | zero => rfl
  | succ count ih => simp [keystream, length_block, ih]; omega

theorem length_crypt (key nonce message : Bytes) :
    (crypt key nonce message).length = message.length := by
  simp only [crypt, Bytes.xor, List.length_zipWith, length_keystream]
  omega

end CarPairing.ChaCha20
