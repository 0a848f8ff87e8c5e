import CarPairing.Entropy

/-!
UUIDs as 16 bytes in the big-endian field order of RFC 4122. The canonical
text is lower-case and hyphenated; a reader also takes upper case, the 32
digits alone, and the hyphenated form in braces or after `urn:uuid:` in any case.
-/

namespace CarPairing

structure Uuid where
  bytes : Bytes
  length_bytes : bytes.length = 16
deriving DecidableEq

namespace Uuid

/-- Number of bytes in a UUID. -/
def size : Nat := 16

def ofBytes? (bytes : Bytes) : Option Uuid :=
  if sized : bytes.length = 16 then some ⟨bytes, sized⟩ else none

def nil : Uuid := ⟨List.replicate 16 0, rfl⟩

/-- A random UUID: the bytes of a number drawn lowest first, version 4 in the
high half of byte 6, the RFC variant in the two high bits of byte 8. -/
def random (entropy : Entropy) : Uuid × Entropy :=
  let drawn := entropy.draw 16
  (⟨(drawn.1.reverse.modify 6 fun byte => byte &&& 0x0f ||| 0x40).modify 8
      fun byte => byte &&& 0x3f ||| 0x80,
    by simp [drawn, Entropy.length_draw]⟩, drawn.2)

/-- Hexadecimal digits in each hyphenated group. -/
def groups : List Nat := [8, 4, 4, 4, 12]

def hyphenate : List Nat → List Char → List Char
  | [], _ => []
  | [size], digits => digits.take size
  | size :: rest, digits => digits.take size ++ '-' :: hyphenate rest (digits.drop size)

/-- The digits of hyphenated groups of these sizes and nothing else. -/
def unhyphenate? : List Nat → List Char → Option (List Char)
  | [], text => if text = [] then some [] else none
  | [size], text => if text.length = size then some text else none
  | size :: rest, text =>
      match text.drop size with
      | '-' :: tail => (unhyphenate? rest tail).map (text.take size ++ ·)
      | _ => none

def toText (id : Uuid) : String :=
  String.ofList (hyphenate groups (Hex.encodeChars id.bytes))

def ofHyphenated? (text : List Char) : Option Uuid :=
  (unhyphenate? groups text).bind Hex.decodeChars? |>.bind ofBytes?

def ofChars? (text : List Char) : Option Uuid :=
  if text.length = 32 then (Hex.decodeChars? text).bind ofBytes?
  else if text.length = 36 then ofHyphenated? text
  else if text.length = 38 ∧ text.head? = some '\x7b' ∧ text.getLast? = some '\x7d' then
    ofHyphenated? (text.drop 1).dropLast
  else if (text.take 9).map Char.toLower = ['u', 'r', 'n', ':', 'u', 'u', 'i', 'd', ':'] then
    ofHyphenated? (text.drop 9)
  else none

def ofText? (text : String) : Option Uuid :=
  ofChars? text.toList

end Uuid

end CarPairing
