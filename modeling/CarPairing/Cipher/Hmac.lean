import CarPairing.Cipher.Sha256

/-!
HMAC-SHA256 and the extract-then-expand key derivation built on it. Every
derivation here asks for 32 bytes, which is the first block of the expansion.
-/

namespace CarPairing

namespace Hmac

def blockSize : Nat := 64

/-- A key as one block: hashed when longer than a block, then filled with zeros. -/
def blockKey (key : Bytes) : Bytes :=
  let short := if blockSize < key.length then sha256 key else key
  short ++ List.replicate (blockSize - short.length) 0

end Hmac

def hmac (key message : Bytes) : Bytes :=
  let block := Hmac.blockKey key
  sha256 (block.map (· ^^^ 0x5c) ++ sha256 (block.map (· ^^^ 0x36) ++ message))

namespace Hkdf

def extract (salt material : Bytes) : Bytes :=
  hmac salt material

def expand (secret info : Bytes) : Bytes :=
  hmac secret (info ++ [1])

end Hkdf

/-- 32 bytes derived from `material` under a salt, bound to `info`. -/
def hkdf (salt material info : Bytes) : Bytes :=
  Hkdf.expand (Hkdf.extract salt material) info

theorem length_hmac (key message : Bytes) : (hmac key message).length = 32 :=
  length_sha256 _

theorem length_hkdf (salt material info : Bytes) : (hkdf salt material info).length = 32 :=
  length_hmac _ _

end CarPairing
