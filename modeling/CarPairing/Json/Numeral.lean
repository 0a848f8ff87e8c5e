/-!
JSON numerals: their grammar and the numbers they stand for. A numeral without
fraction and exponent whose value fits 64 bits, signed if negative, is an
integer; every other one is read as a double, which must not overflow.
-/

namespace CarPairing.Json

/-- The parts of a numeral as they are written. -/
structure Numeral where
  negative : Bool
  whole : List Char
  fraction : Option (List Char)
  /-- Sign (negative or not) and digits of the exponent. -/
  exponent : Option (Bool × List Char)
deriving DecidableEq

namespace Numeral

def isDigit (character : Char) : Bool :=
  '0' ≤ character && character ≤ '9'

/-- Characters that a numeral consists of, in whatever order. -/
def isPart (character : Char) : Bool :=
  isDigit character || character == '-' || character == '+' || character == '.' ||
    character == 'e' || character == 'E'

def exponentOf? : List Char → Option (Option (Bool × List Char))
  | [] => some none
  | mark :: rest =>
      if mark ≠ 'e' ∧ mark ≠ 'E' then none
      else
        let (negative, digits) :=
          match rest with
          | '-' :: digits => (true, digits)
          | '+' :: digits => (false, digits)
          | digits => (false, digits)
        if digits ≠ [] ∧ digits.all isDigit then some (some (negative, digits)) else none

def fractionOf? : List Char → Option (Option (List Char) × List Char)
  | '.' :: rest =>
      let digits := rest.takeWhile isDigit
      if digits = [] then none else some (some digits, rest.dropWhile isDigit)
  | rest => some (none, rest)

/-- A numeral and nothing else: no leading zero, a digit after point and mark. -/
def ofChars? (text : List Char) : Option Numeral := do
  let (negative, rest) :=
    match text with
    | '-' :: rest => (true, rest)
    | rest => (false, rest)
  let whole := rest.takeWhile isDigit
  if whole = [] then none
  if whole.head? = some '0' ∧ whole ≠ ['0'] then none
  let (fraction, rest) ← fractionOf? (rest.dropWhile isDigit)
  let exponent ← exponentOf? rest
  pure { negative, whole, fraction, exponent }

def toChars (numeral : Numeral) : List Char :=
  (if numeral.negative then ['-'] else []) ++ numeral.whole ++
    (match numeral.fraction with
      | none => []
      | some digits => '.' :: digits) ++
    (match numeral.exponent with
      | none => []
      | some (negative, digits) => 'e' :: (if negative then '-' :: digits else digits))

def natOf (digits : List Char) : Nat :=
  digits.foldl (fun value digit => value * 10 + (digit.toNat - '0'.toNat)) 0

/-- The size of an exponent. Of more than twenty digits it outweighs any number
of digits before it, so its first twenty will do. -/
def exponentSize (digits : List Char) : Nat :=
  natOf ((digits.dropWhile (· = '0')).take 20)

/-- Rounding to 53 significant bits, ties to even. -/
def roundToDouble (value : Nat) : Nat :=
  let excess := value.log2 + 1 - 53
  let unit := Nat.pow 2 excess
  let quotient := value / unit
  let rest := value % unit
  if 2 * rest > unit ∨ (2 * rest = unit ∧ quotient % 2 = 1) then (quotient + 1) * unit
  else quotient * unit

/-- The leading digits that a 64-bit significand holds, and how many follow. -/
def significand : Nat → List Char → Nat × Nat
  | value, [] => (value, 0)
  | value, digit :: rest =>
      let next := value * 10 + (digit.toNat - '0'.toNat)
      if next < 0x10000000000000000 then significand next rest else (value, rest.length + 1)

/-- Whether the double nearest to `mantissa * 10 ^ scale` is infinite, the
product being rounded from the two rounded factors. -/
def overflows (mantissa : Nat) (scale : Int) : Bool :=
  if mantissa = 0 ∨ scale < 0 then false
  else if scale > 308 then true
  else Nat.pow 2 1024 - Nat.pow 2 970 ≤ roundToDouble mantissa * roundToDouble (Nat.pow 10 scale.toNat)

/-- Whether the numeral, read as a double, is finite. -/
def finite (numeral : Numeral) : Bool :=
  let (whole, dropped) := significand 0 numeral.whole
  let (mantissa, taken) :=
    match numeral.fraction with
    | none => (whole, 0)
    | some digits =>
        if dropped ≠ 0 then (whole, 0)
        else
          let (value, left) := significand whole digits
          (value, digits.length - left)
  let scale : Int := (dropped : Int) - taken
  match numeral.exponent with
  | none => !overflows mantissa scale
  | some (true, digits) => !overflows mantissa (scale - exponentSize digits)
  | some (false, digits) => !overflows mantissa (scale + exponentSize digits)

/-- The value of a numeral that is an integer of 64 bits. Minus zero is none. A
whole part of more than twenty digits has no leading zero and is too large
whatever follows. -/
def integer? (numeral : Numeral) : Option Int :=
  if numeral.fraction.isSome ∨ numeral.exponent.isSome then none
  else
    let value := natOf (numeral.whole.take 21)
    if numeral.negative then
      if value ≠ 0 ∧ value ≤ 0x8000000000000000 then some (-(value : Int)) else none
    else if value < 0x10000000000000000 then some value
    else none

end Numeral

end CarPairing.Json
