import CarPairing.Bytes

/-!
Bytes as text. What is no UTF-8 shows as the replacement sign, one for every
piece that starts like a character and breaks off.
-/

namespace CarPairing.Utf8

def encode (text : String) : Bytes :=
  text.toUTF8.toList

def decode? (bytes : Bytes) : Option String :=
  String.fromUTF8? (ByteArray.mk bytes.toArray)

theorem toList_loop (bytes : ByteArray) (index : Nat) (read : Bytes) :
    ByteArray.toList.loop bytes index read = read.reverse ++ bytes.data.toList.drop index := by
  fun_induction ByteArray.toList.loop bytes index read with
  | case1 index read inside ih =>
      have bound : index < bytes.data.toList.length := by simpa using inside
      have here : bytes.get! index = bytes.data.toList[index] := by
        cases bytes with
        | mk data =>
            have bound : index < data.size := inside
            simp [ByteArray.get!, bound]
      rw [ih, List.reverse_cons, List.append_assoc, List.drop_eq_getElem_cons bound, here]
      rfl
  | case2 index read outside =>
      have past : bytes.data.toList.length ≤ index := by simpa using Nat.le_of_not_lt outside
      rw [List.drop_of_length_le past, List.append_nil]

theorem decode_encode (text : String) : decode? (encode text) = some text := by
  have same : ByteArray.mk (encode text).toArray = text.toUTF8 := by
    rw [encode, ByteArray.toList, toList_loop]
    rfl
  have valid : text.toUTF8.IsValidUTF8 := text.isValidUTF8
  rw [decode?, same, String.fromUTF8?, dif_pos valid]
  rfl

/-- For a leading byte: how many bytes follow, and the range of the first of them. -/
def following? (lead : Nat) : Option (Nat × Nat × Nat) :=
  if lead < 0x80 then some (0, 0x80, 0xbf)
  else if lead < 0xc2 then none
  else if lead < 0xe0 then some (1, 0x80, 0xbf)
  else if lead = 0xe0 then some (2, 0xa0, 0xbf)
  else if lead = 0xed then some (2, 0x80, 0x9f)
  else if lead < 0xf0 then some (2, 0x80, 0xbf)
  else if lead = 0xf0 then some (3, 0x90, 0xbf)
  else if lead < 0xf4 then some (3, 0x80, 0xbf)
  else if lead = 0xf4 then some (3, 0x80, 0x8f)
  else none

/-- How many of `count` expected bytes are there. -/
def present : Nat → Nat → Nat → Bytes → Nat
  | 0, _, _, _ => 0
  | _ + 1, _, _, [] => 0
  | count + 1, low, high, byte :: rest =>
      if low ≤ byte.toNat ∧ byte.toNat ≤ high then 1 + present count 0x80 0xbf rest else 0

def replacement : Char := '\uFFFD'

/-- The characters of bytes, where `skip` of them belong to the character before. -/
def lossyChars : Nat → Bytes → List Char
  | _, [] => []
  | skip + 1, _ :: rest => lossyChars skip rest
  | 0, lead :: rest =>
      match following? lead.toNat with
      | none => replacement :: lossyChars 0 rest
      | some (count, low, high) =>
          let found := present count low high rest
          if found = count then
            ((decode? (lead :: rest.take count)).elim [replacement] String.toList) ++
              lossyChars count rest
          else replacement :: lossyChars found rest

def lossy (bytes : Bytes) : String :=
  match decode? bytes with
  | some text => text
  | none => String.ofList (lossyChars 0 bytes)

end CarPairing.Utf8
