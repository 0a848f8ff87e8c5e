import CarPairing.Store.Format

/-!
What a channel needs of storage, in memory and in a file. A file is written
whole at every change.
-/

namespace CarPairing

/-- Keys, secrets and the head unit's id, wherever they are kept. Any call may
fail, and says itself what it has changed by then. -/
class KeyStorage (σ : Type) where
  saveKey : σ → Int → String → Key → Except StoreError Unit × σ
  key? : σ → String → Option Key
  saveSecret : σ → Int → String → Bytes → Except StoreError Unit × σ
  /-- Fails if a secret is not going to be saved. -/
  checkSecret : σ → Bytes → Except StoreError Unit × σ
  /-- Whether the device was known, and everything about it gone. -/
  remove : σ → String → Except StoreError Bool × σ
  uniqueId : σ → Entropy → Except StoreError Uuid × σ × Entropy

/-- The time that is written for a clock, which may stand before 1970, or later than
a signed integer of 64 bits can tell. -/
def timestamp (now : Int) : Int :=
  if now < 0 then 0 else if now < 0x8000000000000000 then now else 0x7fffffffffffffff

structure MemoryStorage where
  store : KeyStore := {}
deriving DecidableEq

namespace MemoryStorage

/-- Takes over a store that was made, or keeps the old one. -/
def accept (storage : MemoryStorage) :
    Except StoreError KeyStore → Except StoreError Unit × MemoryStorage
  | .ok store => (.ok (), ⟨store⟩)
  | .error error => (.error error, storage)

instance : KeyStorage MemoryStorage where
  saveKey storage now id key := storage.accept (storage.store.saveKey id key.bytes (timestamp now))
  key? storage id := storage.store.key? id
  saveSecret storage now id secret :=
    storage.accept (storage.store.saveSecret id secret (timestamp now))
  checkSecret storage _ := (.ok (), storage)
  remove storage id :=
    let (known, store) := storage.store.remove id
    (.ok known, ⟨store⟩)
  uniqueId storage entropy :=
    let (id, store, entropy) := storage.store.takeId entropy
    (.ok id, ⟨store⟩, entropy)

end MemoryStorage

/-- A store, the file it is kept in, and the length that secrets must have. -/
structure FileStorage (δ : Type) where
  disk : δ
  path : String
  secretSize : Nat
  store : KeyStore

namespace FileStorage

variable {δ : Type} [Disk δ]

def «open» (disk : δ) (path : String) (secretSize : Nat) : Except StoreError (FileStorage δ) :=
  match KeyStore.load disk path with
  | .ok store => .ok { disk, path, secretSize, store }
  | .error error => .error error

/-- Takes over a store and writes it out. The store is kept even if that fails. -/
def write (storage : FileStorage δ) (store : KeyStore) : Except StoreError Unit × FileStorage δ :=
  let (written, disk) := store.save storage.disk storage.path
  (written, { storage with disk, store })

def accept (storage : FileStorage δ) :
    Except StoreError KeyStore → Except StoreError Unit × FileStorage δ
  | .ok store => storage.write store
  | .error error => (.error error, storage)

def checkSecret (storage : FileStorage δ) (secret : Bytes) : Except StoreError Unit :=
  if secret.length ≠ storage.secretSize then
    .error (.invalidInput
      s!"challenge secret must be {storage.secretSize} bytes, got {secret.length}")
  else .ok ()

/-- An id that was drawn, given out once it is written. -/
def giveOut (storage : FileStorage δ) (drawn : Uuid × KeyStore × Entropy) :
    Except StoreError Uuid × FileStorage δ × Entropy :=
  let (id, store, entropy) := drawn
  match storage.write store with
  | (.ok (), storage) => (.ok id, storage, entropy)
  | (.error error, storage) => (.error error, storage, entropy)

def rotateId (storage : FileStorage δ) (entropy : Entropy) :
    Except StoreError Uuid × FileStorage δ × Entropy :=
  storage.giveOut (storage.store.rotateId entropy)

instance : KeyStorage (FileStorage δ) where
  saveKey storage now id key := storage.accept (storage.store.saveKey id key.bytes (timestamp now))
  key? storage id := storage.store.key? id
  saveSecret storage now id secret :=
    match storage.checkSecret secret with
    | .error error => (.error error, storage)
    | .ok () => storage.accept (storage.store.saveSecret id secret (timestamp now))
  checkSecret storage secret := (storage.checkSecret secret, storage)
  remove storage id :=
    let (known, store) := storage.store.remove id
    if known then
      match storage.write store with
      | (.ok (), storage) => (.ok true, storage)
      | (.error error, storage) => (.error error, storage)
    else (.ok false, storage)
  uniqueId storage entropy :=
    match storage.store.uniqueId with
    | some id => (.ok id, storage, entropy)
    | none => storage.giveOut (storage.store.takeId entropy)

end FileStorage

end CarPairing
