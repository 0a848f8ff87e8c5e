import CarPairing.Entropy
import CarPairing.Cipher.Hmac

/-!
Session keys, and what can go wrong with keys, nonces and sealed data.
-/

namespace CarPairing

inductive CryptoError where
  | encryptionFailed (detail : String)
  | decryptionFailed (detail : String)
  | invalidKeyLength (expected actual : Nat)
  | invalidNonceLength (expected actual : Nat)
  | keyDerivationFailed (detail : String)
  | nonceExhausted
deriving DecidableEq

def CryptoError.message : CryptoError → String
  | .encryptionFailed detail => s!"Encryption failed: {detail}"
  | .decryptionFailed detail => s!"Decryption failed: {detail}"
  | .invalidKeyLength expected actual =>
      s!"Invalid key length: expected {expected}, got {actual}"
  | .invalidNonceLength expected actual =>
      s!"Invalid nonce length: expected {expected}, got {actual}"
  | .keyDerivationFailed detail => s!"Key derivation failed: {detail}"
  | .nonceExhausted => "Nonce counter exhausted: session must be rekeyed"

/-- A symmetric session key. -/
structure Key where
  bytes : Bytes
  length_bytes : bytes.length = 32
deriving DecidableEq

namespace Key

/-- Number of bytes in a key. -/
def size : Nat := 32

def ofBytes (bytes : Bytes) : Except CryptoError Key :=
  if sized : bytes.length = 32 then .ok ⟨bytes, sized⟩
  else .error (.invalidKeyLength size bytes.length)

/-- The key derived from `material` under a salt, bound to `info`. -/
def derive (salt material info : Bytes) : Key :=
  ⟨hkdf salt material info, length_hkdf salt material info⟩

/-- A key is never shown. -/
def describe (_ : Key) : String := "Key([REDACTED])"

end Key

end CarPairing
