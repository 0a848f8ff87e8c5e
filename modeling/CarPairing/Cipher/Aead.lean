import CarPairing.Cipher.ChaCha20
import CarPairing.Cipher.Poly1305

/-!
ChaCha20-Poly1305 with no associated data: the ciphertext is as long as the
plaintext and a 16-byte tag follows it.
-/

namespace CarPairing.Aead

def nonceSize : Nat := 12

def tagSize : Nat := 16

/-- The tag covers the ciphertext filled up to a multiple of 16 bytes, then
the lengths of the associated data (none) and of the ciphertext. -/
def authenticate (key nonce ciphertext : Bytes) : Bytes :=
  Poly1305.tag ((ChaCha20.block key nonce 0).take 32)
    (ciphertext ++ List.replicate ((16 - ciphertext.length % 16) % 16) 0 ++
      Bytes.ofNatLE 8 0 ++ Bytes.ofNatLE 8 ciphertext.length)

def encrypt (key nonce plaintext : Bytes) : Bytes :=
  let ciphertext := ChaCha20.crypt key nonce plaintext
  ciphertext ++ authenticate key nonce ciphertext

/-- The plaintext, if the last 16 bytes are the tag of those before them. -/
def decrypt? (key nonce sealed : Bytes) : Option Bytes :=
  if sealed.length < tagSize then none
  else
    let ciphertext := sealed.take (sealed.length - tagSize)
    if authenticate key nonce ciphertext = sealed.drop (sealed.length - tagSize) then
      some (ChaCha20.crypt key nonce ciphertext)
    else none

theorem length_encrypt (key nonce plaintext : Bytes) :
    (encrypt key nonce plaintext).length = plaintext.length + tagSize := by
  simp [encrypt, authenticate, ChaCha20.length_crypt, Poly1305.length_tag, tagSize]

end CarPairing.Aead
