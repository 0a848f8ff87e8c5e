import CarPairing.Proofs.Files.Replacement
import CarPairing.Proofs.Identity
import CarPairing.Store.Storage

/-!
What a storage does to the key store in it. A storage in memory, and one in a
file that can be written, do the same to their stores, so what is said of a
pairing can be said of the store alone.
-/

namespace CarPairing

theorem Key.ofBytes_bytes (key : Key) : Key.ofBytes key.bytes = .ok key := by
  rw [Key.ofBytes, dif_pos key.length_bytes]

namespace KeyStore

def withKey (store : KeyStore) (id : String) (key : Key) (now : Int) : KeyStore :=
  store.put id
    { store.entry id now with key := some (Hex.encode key.bytes), lastConnected := now }

def withSecret (store : KeyStore) (id : String) (secret : Bytes) (now : Int) : KeyStore :=
  store.put id { store.entry id now with secret := some (Hex.encode secret) }

theorem saveKey_exact (store : KeyStore) {id : String} (key : Key) (now : Int) (named : id ≠ "") :
    store.saveKey id key.bytes now = .ok (store.withKey id key now) := by
  rw [saveKey, if_neg named, Key.ofBytes_bytes]
  rfl

theorem saveSecret_exact (store : KeyStore) {id : String} {secret : Bytes} (now : Int)
    (named : id ≠ "") (nonempty : secret ≠ []) :
    store.saveSecret id secret now = .ok (store.withSecret id secret now) := by
  rw [saveSecret, if_neg named, if_neg nonempty]
  rfl

theorem saveSecret_empty (store : KeyStore) {id : String} (now : Int) (named : id ≠ "") :
    store.saveSecret id [] now = .error (.invalidInput "empty challenge secret") := by
  rw [saveSecret, if_neg named, if_pos rfl]

theorem device_put (store : KeyStore) (id other : String) (device : PairedDevice) :
    (store.put id device).device? other = if other = id then some device else store.device? other :=
  Table.find_insert id other device store.devices

theorem entry_put (store : KeyStore) (id : String) (device : PairedDevice) (now : Int) :
    (store.put id device).entry id now = device := by
  rw [entry, device_put, if_pos rfl]
  rfl

theorem key_put (store : KeyStore) (id : String) (device : PairedDevice) (key : Key)
    (holds : device.key = some (Hex.encode key.bytes)) :
    (store.put id device).key? id = some key := by
  simp only [key?, device_put, if_true, Option.bind_eq_bind, Option.bind_some, holds,
    Hex.decode_encode, Key.ofBytes_bytes]
  rfl

theorem secret_put (store : KeyStore) (id : String) (device : PairedDevice) (secret : Bytes)
    (holds : device.secret = some (Hex.encode secret)) :
    (store.put id device).secret? id = some secret := by
  simp only [secret?, device_put, if_true, Option.bind_eq_bind, Option.bind_some, holds,
    Hex.decode_encode]

theorem key_withKey (store : KeyStore) (id : String) (key : Key) (now : Int) :
    (store.withKey id key now).key? id = some key :=
  key_put _ _ _ _ rfl

theorem load_text {δ : Type} [Disk δ] {disk : δ} {path text : String} {store : KeyStore}
    (present : Disk.present disk path = true) (read : Disk.read disk path = .ok (Utf8.encode text))
    (parsed : ofText? text = some store) : load disk path = .ok store := by
  simp only [load, present, Disk.readText, read, Utf8.decode_encode, parsed, if_true]

/-- The store after a pairing: first the key is written, then the secret. -/
def withPairing (store : KeyStore) (id : String) (key : Key) (secret : Bytes) (now : Int) :
    KeyStore :=
  (store.withKey id key now).withSecret id secret now

section Pairing

variable (store : KeyStore) (id : String) (key : Key) (secret : Bytes) (now : Int)

theorem key_withPairing : (store.withPairing id key secret now).key? id = some key := by
  apply key_put
  -- The secret is written into the entry that already has the key.
  rw [withKey, entry_put]

theorem secret_withPairing : (store.withPairing id key secret now).secret? id = some secret :=
  secret_put _ _ _ _ rfl

theorem device_withPairing (other : String) (different : other ≠ id) :
    (store.withPairing id key secret now).device? other = store.device? other := by
  rw [withPairing, withSecret, device_put, if_neg different, withKey, device_put,
    if_neg different]

theorem uniqueId_withPairing :
    (store.withPairing id key secret now).uniqueId = store.uniqueId := rfl

end Pairing

theorem takeId_kept (store : KeyStore) (entropy : Entropy) {id : Uuid}
    (had : store.uniqueId = some id) : store.takeId entropy = (id, store, entropy) := by
  simp only [takeId, had]

-- The id that is taken is the one that stays.
theorem uniqueId_takeId (store : KeyStore) (entropy : Entropy) :
    (store.takeId entropy).2.1.uniqueId = some (store.takeId entropy).1 := by
  cases had : store.uniqueId with
  | some id => rw [takeId_kept store entropy had, had]
  | none =>
      simp only [takeId, had]
      rfl

theorem devices_takeId (store : KeyStore) (entropy : Entropy) :
    (store.takeId entropy).2.1.devices = store.devices := by
  cases had : store.uniqueId with
  | some id => rw [takeId_kept store entropy had]
  | none =>
      simp only [takeId, had]
      rfl

theorem device_takeId (store : KeyStore) (entropy : Entropy) (id : String) :
    (store.takeId entropy).2.1.device? id = store.device? id :=
  congrArg (Table.find? id) (store.devices_takeId entropy)

end KeyStore

/-- What is written to a file in the course of a pairing, first store first. -/
def KeyStore.pairingWrites (store : KeyStore) (entropy : Entropy) (id : String) (key : Key)
    (secret : Bytes) (now : Int) : List KeyStore :=
  let taken := (store.takeId entropy).2.1
  (if store.uniqueId = none then [taken] else []) ++
    [taken.withKey id key now, taken.withPairing id key secret now]

/-- A storage goes along with a pairing: it gives the id of the head unit, passes
the secret and takes key and secret, and its store becomes what it should. -/
structure Keeps {σ : Type} [KeyStorage σ] (store : σ → KeyStore) (storage kept : σ)
    (entropy : Entropy) (now : Int) (id : String) (key : Key) (secret : Bytes) : Prop where
  given : (KeyStorage.uniqueId storage entropy).1 = .ok ((store storage).takeId entropy).1
  taken : ∃ passed written,
    KeyStorage.checkSecret (KeyStorage.uniqueId storage entropy).2.1 secret = (.ok (), passed) ∧
      KeyStorage.saveKey passed now id key = (.ok (), written) ∧
      KeyStorage.saveSecret written now id secret = (.ok (), kept)
  stored : store kept =
    ((store storage).takeId entropy).2.1.withPairing id key secret (timestamp now)
  reads : KeyStorage.key? kept id = (store kept).key? id

theorem MemoryStorage.saveKey_named (storage : MemoryStorage) (now : Int) {id : String} (key : Key)
    (named : id ≠ "") :
    KeyStorage.saveKey storage now id key =
      (.ok (), ⟨storage.store.withKey id key (timestamp now)⟩) := by
  change storage.accept (storage.store.saveKey id key.bytes (timestamp now)) = _
  rw [KeyStore.saveKey_exact storage.store key (timestamp now) named]
  rfl

theorem MemoryStorage.keeps (storage : MemoryStorage) (entropy : Entropy) (now : Int) {id : String}
    (key : Key) {secret : Bytes} (named : id ≠ "") (nonempty : secret ≠ []) :
    ∃ kept, Keeps MemoryStorage.store storage kept entropy now id key secret := by
  let taken := (storage.store.takeId entropy).2.1
  let keyed := taken.withKey id key (timestamp now)
  have keys : KeyStorage.saveKey (⟨taken⟩ : MemoryStorage) now id key = (.ok (), ⟨keyed⟩) :=
    saveKey_named ⟨taken⟩ now key named
  have keeps : KeyStorage.saveSecret (⟨keyed⟩ : MemoryStorage) now id secret =
      (.ok (), ⟨taken.withPairing id key secret (timestamp now)⟩) := by
    change accept _ (keyed.saveSecret id secret (timestamp now)) = _
    rw [KeyStore.saveSecret_exact keyed (timestamp now) named nonempty]
    rfl
  exact ⟨_, rfl, ⟨_, _, rfl, keys, keeps⟩, rfl, rfl⟩

namespace FileStorage

variable {δ : Type}

theorem checkSecret_sized {storage : FileStorage δ} {secret : Bytes}
    (sized : secret.length = storage.secretSize) : storage.checkSecret secret = .ok () := by
  simp only [checkSecret, sized, ne_eq, not_true_eq_false, if_false]

variable [Disk δ]

/-- These stores can be written to the file, one after the other. -/
def Saves (storage : FileStorage δ) : List KeyStore → Prop
  | [] => True
  | store :: rest => (storage.write store).1 = .ok () ∧ Saves (storage.write store).2 rest

theorem write_exact (storage : FileStorage δ) (store : KeyStore)
    (writable : Disk.Writable storage.path storage.disk) :
    storage.write store = (.ok (), { storage with
      disk := (Disk.replace storage.disk storage.path (Utf8.encode store.toText)).2, store }) := by
  have replaced : Disk.replace storage.disk storage.path (Utf8.encode store.toText) =
      (.ok (), (Disk.replace storage.disk storage.path (Utf8.encode store.toText)).2) :=
    Prod.ext (writable.replaced _) rfl
  rw [write, KeyStore.save, replaced]

theorem saves_of_writable (storage : FileStorage δ)
    (writable : Disk.Writable storage.path storage.disk) (stores : List KeyStore) :
    storage.Saves stores := by
  induction stores generalizing storage with
  | nil => trivial
  | cons store rest ih =>
      rw [Saves, write_exact storage store writable]
      exact ⟨rfl, ih _ (writable.later _)⟩

-- The id is there, or drawn and written.
theorem uniqueId_saved (storage : FileStorage δ) (entropy : Entropy) (rest : List KeyStore)
    (saves : storage.Saves ((if storage.store.uniqueId = none then
      [(storage.store.takeId entropy).2.1] else []) ++ rest)) :
    ∃ passed, KeyStorage.uniqueId storage entropy =
        (.ok (storage.store.takeId entropy).1, passed, (storage.store.takeId entropy).2.2) ∧
      passed.store = (storage.store.takeId entropy).2.1 ∧
      passed.secretSize = storage.secretSize ∧ passed.Saves rest := by
  cases had : storage.store.uniqueId with
  | some id =>
      rw [KeyStore.takeId_kept storage.store entropy had]
      simp only [had, reduceCtorEq, if_false, List.nil_append] at saves
      refine ⟨storage, ?_, rfl, rfl, saves⟩
      simp only [KeyStorage.uniqueId, had]
  | none =>
      simp only [had, if_true, List.cons_append, List.nil_append] at saves
      obtain ⟨wrote, later⟩ := saves
      refine ⟨(storage.write (storage.store.takeId entropy).2.1).2, ?_, rfl, rfl, later⟩
      have written : storage.write (storage.store.takeId entropy).2.1 =
          (.ok (), (storage.write (storage.store.takeId entropy).2.1).2) := Prod.ext wrote rfl
      simp only [KeyStorage.uniqueId, had, giveOut]
      rw [written]

theorem keeps (storage : FileStorage δ) (entropy : Entropy) (now : Int) {id : String} (key : Key)
    {secret : Bytes} (named : id ≠ "") (nonempty : secret ≠ [])
    (sized : secret.length = storage.secretSize)
    (saves : storage.Saves
      (storage.store.pairingWrites entropy id key secret (timestamp now))) :
    ∃ kept, Keeps FileStorage.store storage kept entropy now id key secret := by
  let taken := (storage.store.takeId entropy).2.1
  obtain ⟨passed, given, store, size, keyed, kept, -⟩ :=
    uniqueId_saved storage entropy _ saves
  let written := (passed.write (taken.withKey id key (timestamp now))).2
  have passes : passed.checkSecret secret = .ok () := checkSecret_sized (sized.trans size.symm)
  have checks : KeyStorage.checkSecret (KeyStorage.uniqueId storage entropy).2.1 secret =
      (.ok (), passed) := by
    rw [given]
    exact congrArg (·, passed) passes
  have keys : KeyStorage.saveKey passed now id key = (.ok (), written) := by
    change passed.accept (passed.store.saveKey id key.bytes (timestamp now)) = _
    rw [store, KeyStore.saveKey_exact taken key (timestamp now) named]
    exact Prod.ext keyed rfl
  have again : written.checkSecret secret = .ok () := checkSecret_sized (sized.trans size.symm)
  have keeps : KeyStorage.saveSecret written now id secret =
      (.ok (), (written.write (taken.withPairing id key secret (timestamp now))).2) := by
    simp only [KeyStorage.saveSecret, again]
    change written.accept ((taken.withKey id key (timestamp now)).saveSecret id secret
      (timestamp now)) = _
    rw [KeyStore.saveSecret_exact _ (timestamp now) named nonempty]
    exact Prod.ext kept rfl
  exact ⟨_, congrArg Prod.fst given, ⟨passed, written, checks, keys, keeps⟩, rfl, rfl⟩

end FileStorage

namespace Tree

-- In the root directory a file can be written, unless a directory has its name.
theorem replace_root (tree : Tree) (contents : Bytes)
    (free : tree.node? ["k"] ≠ some .directory) :
    ∃ after, Disk.replace tree "/k" contents = (.ok (), after) ∧
      after.node? ["k"] = some (.file ownerOnlyMode contents) := by
  have located (tree : Tree) : tree.locate "/k" = .ok ["k"] := rfl
  have named : (["k"] : Place) ≠ [] := List.cons_ne_nil _ _
  obtain ⟨mode, written, wrote, there⟩ : ∃ mode written, tree.write "/k" contents = .ok written ∧
      written.node? ["k"] = some (.file mode contents) := by
    have name : endsInSeparator "/k" = false := rfl
    cases found : tree.node? ["k"] with
    | none =>
        exact ⟨newFileMode, tree.put ["k"] (.file newFileMode contents),
          by simp [write, name, located, found], node_put _ _ _ named⟩
    | some node =>
        cases node with
        | directory => exact absurd found free
        | file mode old =>
            exact ⟨mode, tree.put ["k"] (.file mode contents),
              by simp [write, name, located, found], node_put _ _ _ named⟩
  refine ⟨written.put ["k"] (.file ownerOnlyMode contents), ?_, node_put _ _ _ named⟩
  have parent : Path.parent? "/k" = some "/" := rfl
  have made : tree.makeDirectories "/" = (.ok (), tree) := rfl
  have owned : written.setMode "/k" ownerOnlyMode =
      .ok (written.put ["k"] (.file ownerOnlyMode contents)) := by
    simp only [setMode, located, there]
  change tree.replace "/k" contents = _
  simp only [replace, parent, Option.elim_some, made, wrote, owned]

theorem writable_root (tree : Tree) (free : tree.node? ["k"] ≠ some .directory) :
    Disk.Writable "/k" tree := by
  intro writes
  induction writes generalizing tree with
  | nil => trivial
  | cons contents rest ih =>
      obtain ⟨after, replaced, there⟩ := replace_root tree contents free
      rw [Disk.Takes, replaced]
      refine ⟨rfl, ih after ?_⟩
      rw [there]
      exact nofun

theorem saves_root (storage : FileStorage Tree) (named : storage.path = "/k")
    (free : storage.disk.node? ["k"] ≠ some .directory) (stores : List KeyStore) :
    storage.Saves stores := by
  apply FileStorage.saves_of_writable
  rw [named]
  exact writable_root storage.disk free

end Tree

end CarPairing
