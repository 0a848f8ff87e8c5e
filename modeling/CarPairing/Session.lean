import CarPairing.Key
import CarPairing.Cipher.Aead
import CarPairing.Text.Quoted

/-!
Sealed traffic after a handshake. The message key is derived from the session
key; a nonce is a big-endian counter and eight bytes drawn once a session. On
the wire a payload is `nonce | ciphertext | tag`.
-/

namespace CarPairing

/-- A ciphertext, tag included, with the nonce it was made under. -/
structure Sealed where
  nonce : Bytes
  ciphertext : Bytes
deriving DecidableEq

namespace Sealed

def toWire (data : Sealed) : Bytes :=
  data.nonce ++ data.ciphertext

def ofWire (payload : Bytes) : Except CryptoError Sealed :=
  if payload.length < Aead.nonceSize + Aead.tagSize then
    .error (.decryptionFailed s!"payload too short: {payload.length} bytes")
  else
    .ok ⟨payload.take Aead.nonceSize, payload.drop Aead.nonceSize⟩

end Sealed

structure Session where
  key : Key
  nonceTail : Bytes
  counter : Nat := 0
deriving DecidableEq

namespace Session

def keySalt : Bytes := "carlink-ble-hkdf-salt-v1".toUTF8.toList
def keyInfo : Bytes := "carlink-ble-message-v1".toUTF8.toList

/-- The counter value that is never used: the session is spent there. -/
def counterLimit : Nat := 0xffffffff

def ofKey (key : Key) (entropy : Entropy) : Session × Entropy :=
  let drawn := entropy.draw 8
  ({ key := Key.derive keySalt key.bytes keyInfo, nonceTail := drawn.1 }, drawn.2)

def nonce (session : Session) : Bytes :=
  Bytes.ofNatBE 4 session.counter ++ session.nonceTail

def encrypt (session : Session) (plaintext : Bytes) : Except CryptoError Sealed × Session :=
  if session.counter = counterLimit then (.error .nonceExhausted, session)
  else
    (.ok ⟨session.nonce, Aead.encrypt session.key.bytes session.nonce plaintext⟩,
     { session with counter := session.counter + 1 })

def decrypt (session : Session) (ciphertext nonce : Bytes) : Except CryptoError Bytes :=
  if nonce.length ≠ Aead.nonceSize then
    .error (.invalidNonceLength Aead.nonceSize nonce.length)
  else
    match Aead.decrypt? session.key.bytes nonce ciphertext with
    | some plaintext => .ok plaintext
    | none => .error (.decryptionFailed "aead::Error")

def wrap (session : Session) (plaintext : Bytes) : Except CryptoError Bytes × Session :=
  match session.encrypt plaintext with
  | (.ok data, session) => (.ok data.toWire, session)
  | (.error error, session) => (.error error, session)

def unwrap (session : Session) (payload : Bytes) : Except CryptoError Bytes :=
  match Sealed.ofWire payload with
  | .ok data => session.decrypt data.ciphertext data.nonce
  | .error error => .error error

def describe (session : Session) : String :=
  Quoted.openRecord "CryptoSession" [("nonce_counter", toString session.counter)]

end Session

end CarPairing
