/-!
Byte strings, the numbers they spell in either byte order, and their
hexadecimal text. Text is written in lower case and read in either case.
-/

namespace CarPairing

abbrev Bytes := List UInt8

namespace Bytes

/-- The number whose big-endian digits in base 256 are the bytes. -/
def toNatBE (bytes : Bytes) : Nat :=
  bytes.foldl (fun value byte => value * 256 + byte.toNat) 0

/-- The number whose little-endian digits in base 256 are the bytes. -/
def toNatLE : Bytes → Nat
  | [] => 0
  | byte :: rest => byte.toNat + 256 * toNatLE rest

/-- The last `width` base-256 digits of a number, highest first. -/
def ofNatBE : Nat → Nat → Bytes
  | 0, _ => []
  | width + 1, value => UInt8.ofNat (value / Nat.pow 256 width) :: ofNatBE width value

/-- The last `width` base-256 digits of a number, lowest first. -/
def ofNatLE : Nat → Nat → Bytes
  | 0, _ => []
  | width + 1, value => UInt8.ofNat value :: ofNatLE width (value / 256)

/-- Bytewise exclusive or, as long as the shorter operand. -/
def xor (left right : Bytes) : Bytes :=
  left.zipWith (· ^^^ ·) right

/-- The first `count` pieces of `width` bytes. -/
def pieces (width : Nat) : Nat → Bytes → List Bytes
  | 0, _ => []
  | count + 1, bytes => bytes.take width :: pieces width count (bytes.drop width)

theorem length_ofNatBE (width value : Nat) : (ofNatBE width value).length = width := by
  induction width with
  | zero => rfl
  | succ width ih => simp [ofNatBE, ih]

theorem length_ofNatLE (width value : Nat) : (ofNatLE width value).length = width := by
  induction width generalizing value with
  | zero => rfl
  | succ width ih => simp [ofNatLE, ih]

end Bytes

namespace Hex

def digit (value : Nat) : Char :=
  if value < 10 then Char.ofNat ('0'.toNat + value) else Char.ofNat ('a'.toNat + (value - 10))

def value? (digit : Char) : Option Nat :=
  if '0' ≤ digit ∧ digit ≤ '9' then some (digit.toNat - '0'.toNat)
  else if 'a' ≤ digit ∧ digit ≤ 'f' then some (digit.toNat - 'a'.toNat + 10)
  else if 'A' ≤ digit ∧ digit ≤ 'F' then some (digit.toNat - 'A'.toNat + 10)
  else none

def encodeChars : Bytes → List Char
  | [] => []
  | byte :: rest =>
      digit (byte.toNat / 16) :: digit (byte.toNat % 16) :: encodeChars rest

def decodeChars? : List Char → Option Bytes
  | [] => some []
  | [_] => none
  | high :: low :: rest => do
      let h ← value? high
      let l ← value? low
      let tail ← decodeChars? rest
      pure (UInt8.ofNat (16 * h + l) :: tail)

def encode (bytes : Bytes) : String :=
  String.ofList (encodeChars bytes)

def decode? (text : String) : Option Bytes :=
  decodeChars? text.toList

theorem length_encodeChars (bytes : Bytes) : (encodeChars bytes).length = 2 * bytes.length := by
  induction bytes with
  | nil => rfl
  | cons byte rest ih => simp [encodeChars, ih]; omega

theorem value_digit : ∀ value < 16, value? (digit value) = some value := by
  decide

theorem decode_encodeChars (bytes : Bytes) : decodeChars? (encodeChars bytes) = some bytes := by
  induction bytes with
  | nil => rfl
  | cons byte rest ih =>
      have high := value_digit (byte.toNat / 16) (by have := byte.toNat_lt; omega)
      have low := value_digit (byte.toNat % 16) (by omega)
      simp only [encodeChars, decodeChars?, high, low, ih, Option.bind_eq_bind, Option.bind_some]
      have whole : 16 * (byte.toNat / 16) + byte.toNat % 16 = byte.toNat := by omega
      rw [whole]
      simp

theorem decode_encode (bytes : Bytes) : decode? (encode bytes) = some bytes := by
  simp [decode?, encode, decode_encodeChars]

end Hex

end CarPairing
