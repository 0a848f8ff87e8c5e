import CarPairing.Proofs.Resumption.Stages
import CarPairing.Proofs.Store.Filing

/-!
What reconnections do to the key store: one entry gets a new key and a new time
of connection, and everything else in the store stays.
-/

namespace CarPairing

/-- Two stores that differ in the key of one device and its last connection at
most. -/
structure KeyStore.Rekeyed (id : String) (before after : KeyStore) : Prop where
  secret : after.secret? id = before.secret? id
  firstPaired : (after.device? id).map PairedDevice.firstPaired =
    (before.device? id).map PairedDevice.firstPaired
  uniqueId : after.uniqueId = before.uniqueId
  others : ∀ other, other ≠ id → after.device? other = before.device? other

/-- What a reconnection makes of a store: the device has another key and another
time of connection, and that is all. -/
structure KeyStore.Reconnected (id : String) (before after : KeyStore) : Prop where
  entry : ∃ device key time, before.device? id = some device ∧
    after.device? id =
      some { device with key := some (Hex.encode (Key.bytes key)), lastConnected := time }
  uniqueId : after.uniqueId = before.uniqueId
  others : ∀ other, other ≠ id → after.device? other = before.device? other

namespace KeyStore

theorem Rekeyed.refl (id : String) (store : KeyStore) : Rekeyed id store store :=
  ⟨rfl, rfl, rfl, fun _ _ => rfl⟩

theorem Rekeyed.trans {id : String} {before middle after : KeyStore}
    (first : Rekeyed id before middle) (second : Rekeyed id middle after) :
    Rekeyed id before after where
  secret := second.secret.trans first.secret
  firstPaired := second.firstPaired.trans first.firstPaired
  uniqueId := second.uniqueId.trans first.uniqueId
  others other different := (second.others other different).trans (first.others other different)

-- A device that has a key has an entry, which is the one that is changed.
theorem reconnected_withKey (store : KeyStore) (id : String) (previous key : Key)
    (now : Int) (known : store.key? id = some previous) :
    Reconnected id store (store.withKey id key now) := by
  cases found : store.device? id with
  | none => simp [key?, found] at known
  | some device =>
      refine ⟨⟨device, key, now, found, ?_⟩, rfl, ?_⟩
      · rw [withKey, device_put, if_pos rfl, entry, found]
        rfl
      · intro other different
        rw [withKey, device_put, if_neg different]

theorem Reconnected.rekeyed {id : String} {before after : KeyStore}
    (reconnected : Reconnected id before after) : Rekeyed id before after := by
  obtain ⟨⟨device, key, time, found, there⟩, uniqueId, others⟩ := reconnected
  refine ⟨?_, ?_, uniqueId, others⟩
  · simp only [secret?, there, found, Option.bind_eq_bind, Option.bind_some]
  · rw [there, found]
    rfl

theorem rekeyed_withKey (store : KeyStore) (id : String) (previous key : Key) (now : Int)
    (known : store.key? id = some previous) : Rekeyed id store (store.withKey id key now) :=
  (reconnected_withKey store id previous key now known).rekeyed

-- A key is given for a key, so whoever could reconnect still can.
theorem Reconnected.usable {id : String} {before after : KeyStore}
    (reconnected : Reconnected id before after) {other : String}
    (usable : (before.key? other).isSome = true) : (after.key? other).isSome = true := by
  by_cases same : other = id
  · subst same
    obtain ⟨device, key, time, -, there⟩ := reconnected.entry
    simp only [key?, there, Option.bind_eq_bind, Option.bind_some, Hex.decode_encode,
      Key.ofBytes_bytes]
    rfl
  · rw [key?, reconnected.others other same]
    exact usable

end KeyStore

/-- A storage that takes a new key for a device. -/
structure Replaces {σ : Type} [KeyStorage σ] (store : σ → KeyStore) (storage kept : σ) (now : Int)
    (id : String) (key : Key) : Prop where
  saved : KeyStorage.saveKey storage now id key = (.ok (), kept)
  stored : store kept = (store storage).withKey id key (timestamp now)
  reads : KeyStorage.key? kept id = some key

section Replaces

variable {σ : Type} [KeyStorage σ] {store : σ → KeyStore} {storage kept : σ} {now : Int}
variable {id : String} {previous key : Key} (replaces : Replaces store storage kept now id key)

include replaces

theorem Replaces.holds : (store kept).key? id = some key := by
  rw [replaces.stored]
  exact KeyStore.key_withKey _ _ _ _

theorem Replaces.rekeyed (known : (store storage).key? id = some previous) :
    KeyStore.Rekeyed id (store storage) (store kept) := by
  rw [replaces.stored]
  exact KeyStore.rekeyed_withKey _ _ _ _ _ known

end Replaces

theorem MemoryStorage.replaces (storage : MemoryStorage) (now : Int) {id : String} (key : Key)
    (named : id ≠ "") :
    Replaces MemoryStorage.store storage ⟨storage.store.withKey id key (timestamp now)⟩ now id
      key :=
  ⟨storage.saveKey_named now key named, rfl, KeyStore.key_withKey _ _ _ _⟩

theorem FileStorage.replaces {δ : Type} [Disk δ] (storage : FileStorage δ) (now : Int)
    {id : String} (key : Key) (named : id ≠ "")
    (wrote : (storage.write (storage.store.withKey id key (timestamp now))).1 = .ok ()) :
    Replaces FileStorage.store storage
      (storage.write (storage.store.withKey id key (timestamp now))).2 now id key := by
  refine ⟨?_, rfl, KeyStore.key_withKey _ _ _ _⟩
  change storage.accept (storage.store.saveKey id key.bytes (timestamp now)) = _
  rw [KeyStore.saveKey_exact storage.store key (timestamp now) named]
  exact Prod.ext wrote rfl

-- Nothing can be written for a device without a name.
theorem FileStorage.saveKey_unnamed {δ : Type} [Disk δ] (storage : FileStorage δ) (now : Int)
    (key : Key) :
    KeyStorage.saveKey storage now "" key =
      (.error (.invalidInput "empty device id"), storage) := rfl

namespace Resumption

open Channel

-- How the storage that is left is come by again: handed on, or opened afresh.
variable {σ : Type} [KeyStorage σ] (store : σ → KeyStore) (again : σ → Except StoreError σ)
variable (id : String)

/-- The storage takes the key of every round in turn, and is found again each time
as it was left. -/
def Lasts : List Round → σ → Key → Prop
  | [], _, _ => True
  | round :: rest, storage, previous => ∃ kept,
      Replaces store storage kept round.now id (round.nextKey previous) ∧
        again kept = .ok kept ∧ Lasts rest kept (round.nextKey previous)

/-- What is written to a file in the course of the rounds, first store first. -/
def rekeyings : List Round → KeyStore → Key → List KeyStore
  | [], _, _ => []
  | round :: rest, store, previous =>
      let next := store.withKey id (round.nextKey previous) (timestamp round.now)
      next :: rekeyings rest next (round.nextKey previous)

variable {store again id}

-- Where any rounds can follow, any rounds can follow one of them.
theorem lasts_after (round : Round) {storage : σ} {previous : Key}
    (lasts : ∀ rounds, Lasts store again id rounds storage previous) :
    ∃ kept, Replaces store storage kept round.now id (round.nextKey previous) ∧
      again kept = .ok kept ∧
        ∀ rounds, Lasts store again id rounds kept (round.nextKey previous) := by
  obtain ⟨kept, replaces, stays, -⟩ := lasts [round]
  refine ⟨kept, replaces, stays, fun rounds => ?_⟩
  obtain ⟨other, replaced, -, rest⟩ := lasts (round :: rounds)
  have same : kept = other := congrArg Prod.snd (replaces.saved.symm.trans replaced.saved)
  rw [same]
  exact rest

theorem memory_lasts (named : id ≠ "") (rounds : List Round) (storage : MemoryStorage)
    (previous : Key) : Lasts MemoryStorage.store .ok id rounds storage previous := by
  induction rounds generalizing storage previous with
  | nil => trivial
  | cons round rest ih =>
      exact ⟨_, storage.replaces round.now (round.nextKey previous) named, rfl, ih _ _⟩

-- Every round writes its key, so it leaves a file that shows the storage.
theorem file_lasts {δ : Type} [Disk δ] (named : id ≠ "") (rounds : List Round)
    (storage : FileStorage δ) (previous : Key) (lasting : Disk.Lasting δ storage.path)
    (sound : storage.store.Sound)
    (saves : storage.Saves (rekeyings id rounds storage.store previous)) :
    Lasts FileStorage.store (FileStorage.reopened storage.path storage.secretSize) id rounds storage
      previous := by
  induction rounds generalizing storage previous with
  | nil => trivial
  | cons round rest ih =>
      obtain ⟨wrote, later⟩ := saves
      let key := round.nextKey previous
      let after := storage.store.withKey id key (timestamp round.now)
      have replaces := storage.replaces round.now key named wrote
      have stays := FileStorage.reopened_of_saveKey lasting sound replaces.saved
      have next : after.Sound := sound.saveKey (FileStorage.fits_timestamp round.now)
        (KeyStore.saveKey_exact storage.store key (timestamp round.now) named)
      exact ⟨_, replaces, stays, ih (storage.write after).2 key lasting next later⟩

end Resumption

end CarPairing
