import CarPairing.Uuid

/-!
The identity message: the 16 bytes of a device id, then the challenge secret
to the end. There is no length field; the split is fixed.
-/

namespace CarPairing

inductive IdentityError where
  | tooShort (length : Nat)
  | nil
deriving DecidableEq

def IdentityError.message : IdentityError → String
  | .tooShort length => s!"message too short for a device id: {length} bytes"
  | .nil => "device id is the nil UUID"

namespace Identity

def encode (id : Uuid) (secret : Bytes) : Bytes :=
  id.bytes ++ secret

def decode (message : Bytes) : Except IdentityError (Uuid × Bytes) :=
  match Uuid.ofBytes? (message.take Uuid.size) with
  | none => .error (.tooShort message.length)
  | some id => if id = Uuid.nil then .error .nil else .ok (id, message.drop Uuid.size)

end Identity

end CarPairing
