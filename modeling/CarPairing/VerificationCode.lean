import CarPairing.Bytes

/-!
The codes that the user compares. Both ends derive one auth string; its first
32 bits become a short decimal code, or all of its bytes are shown in
hexadecimal when they travel over another channel.
-/

namespace CarPairing.VerificationCode

/-- The most digits a numeric code has. -/
def maxDigits : Nat := 9

/-- The last `width` decimal digits of a number. -/
def decimal : Nat → Nat → List Char
  | 0, _ => []
  | width + 1, value => decimal width (value / 10) ++ [Hex.digit (value % 10)]

/-- The code of an auth string: the big-endian value of its first four bytes
modulo a power of ten, filled with zeros. Absent below four bytes. -/
def numeric? (auth : Bytes) (digits : Nat) : Option String :=
  if auth.length < 4 then none
  else
    let width := min (max digits 1) maxDigits
    some (String.ofList (decimal width (Bytes.toNatBE (auth.take 4) % Nat.pow 10 width)))

/-- The text shown for out-of-band verification bytes. -/
def outOfBand (code : Bytes) : String :=
  Hex.encode code

def groupChars : List Char → List Char
  | a :: b :: c :: d :: rest => a :: b :: c :: ' ' :: groupChars (d :: rest)
  | short => short

/-- A space after every third character that is not the last. -/
def grouped (code : String) : String :=
  String.ofList (groupChars code.toList)

/-- Whether two byte strings are the same. -/
def same (left right : Bytes) : Bool :=
  left == right

end CarPairing.VerificationCode
