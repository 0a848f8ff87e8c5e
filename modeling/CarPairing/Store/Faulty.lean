import CarPairing.Store.Storage

/-!
A storage of which chosen calls are refused. Calls are counted per kind; a
refused call changes nothing but its count.
-/

namespace CarPairing

structure FaultyStorage where
  id : Uuid := Uuid.nil
  /-- For a kind of call, the numbers of those that are refused, from 0. -/
  refused : String → List Nat := fun _ => []
  keys : List (String × Key) := []
  secrets : List (String × Bytes) := []
  counts : List (String × Nat) := []

namespace FaultyStorage

def call {α : Type} (kind : String) (act : FaultyStorage → α × FaultyStorage)
    (storage : FaultyStorage) : Except StoreError α × FaultyStorage :=
  let count := (Table.find? kind storage.counts).getD 0
  let storage := { storage with counts := Table.insert kind (count + 1) storage.counts }
  if count ∈ storage.refused kind then (.error (.invalidInput "rejected"), storage)
  else
    let (value, storage) := act storage
    (.ok value, storage)

instance : KeyStorage FaultyStorage where
  saveKey storage _ id key := storage.call "save_key" fun storage =>
    ((), { storage with keys := Table.insert id key storage.keys })
  key? storage id := Table.find? id storage.keys
  saveSecret storage _ id secret := storage.call "save_secret" fun storage =>
    ((), { storage with secrets := Table.insert id secret storage.secrets })
  checkSecret storage _ := storage.call "check" fun storage => ((), storage)
  remove storage id := storage.call "remove" fun storage =>
    ((Table.find? id storage.keys).isSome || (Table.find? id storage.secrets).isSome,
     { storage with keys := Table.erase id storage.keys, secrets := Table.erase id storage.secrets })
  uniqueId storage entropy :=
    let (outcome, storage) := storage.call "unique_id" fun storage => (storage.id, storage)
    (outcome, storage, entropy)

end FaultyStorage

end CarPairing
