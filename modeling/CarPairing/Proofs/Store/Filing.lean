import CarPairing.Proofs.Store.Persistence

/-!
A key store that is kept in a file from one process to the next. As long as the
file can be written, a storage that was opened on it stays in step with it, so the
next process finds the store that the last one had. Whatever the file was before, it
shows the storage once something has been saved.
-/

namespace CarPairing

variable {δ : Type} [Disk δ]

/-- A fresh open shows this store, and the file can be written. -/
structure Filed (path : String) (store : KeyStore) (disk : δ) : Prop where
  loads : KeyStore.load disk path = .ok store
  writable : Disk.Writable path disk

section Opening

variable {path : String} {disk : δ}

theorem Filed.opens {store : KeyStore} (filed : Filed path store disk) (secretSize : Nat) :
    FileStorage.open disk path secretSize = .ok { disk, path, secretSize, store } := by
  rw [FileStorage.open, filed.loads]

end Opening

namespace FileStorage

/-- The storage is in step with its file, and the file can be written. -/
structure Steady (path : String) (desk : Desk δ) : Prop where
  inStep : InStep path desk
  writable : Disk.Writable path desk.storage.disk

theorem Steady.filed {path : String} {desk : Desk δ} (steady : Steady path desk) :
    Filed path desk.storage.store desk.storage.disk := by
  obtain ⟨⟨rfl, agrees, -⟩, writable⟩ := steady
  exact ⟨load_of_agrees agrees, writable⟩

/-- What is found on the disk that a storage leaves behind, opened as before. -/
def reopened (path : String) (secretSize : Nat) (left : FileStorage δ) :
    Except StoreError (FileStorage δ) :=
  FileStorage.open left.disk path secretSize

-- After a run that has ended with something saved, the file shows the storage.
theorem reopened_of_saved {calls : List Call} {call : Call} (start : Desk δ) {after : Desk δ}
    (lasting : Disk.Lasting δ start.storage.path) (sound : start.storage.store.Sound)
    (saved : perform call (performAll calls start) = (.ok .saved, after)) :
    reopened start.storage.path start.storage.secretSize after.storage = .ok after.storage := by
  obtain ⟨path, size⟩ := performAll_place calls start
  have place : (perform call (performAll calls start)).2.storage.path = _ :=
    perform_place.1.trans path
  have length : (perform call (performAll calls start)).2.storage.secretSize = _ :=
    perform_place.2.trans size
  have agrees := agrees_of_saved lasting path (performAll_sound sound) (congrArg Prod.fst saved)
  rw [saved] at place length agrees
  rw [← place, ← length]
  exact agrees

theorem reopened_of_saveKey {storage kept : FileStorage δ} {now : Int} {id : String} {key : Key}
    (lasting : Disk.Lasting δ storage.path) (sound : storage.store.Sound)
    (saved : KeyStorage.saveKey storage now id key = (.ok (), kept)) :
    reopened storage.path storage.secretSize kept = .ok kept := by
  let entropy : Entropy := ⟨fun _ => 0, 0⟩
  have call : perform (.saveKey now id key) (performAll [] { storage, entropy }) =
      (.ok .saved, { storage := kept, entropy }) := by
    change perform _ { storage, entropy } = _
    simp only [perform, saved]
    rfl
  exact reopened_of_saved { storage, entropy } lasting sound call

section Pairing

variable {storage kept : FileStorage δ} {entropy : Entropy} {now : Int} {id : String} {key : Key}
variable {secret : Bytes} (keeps : Keeps FileStorage.store storage kept entropy now id key secret)

include keeps

-- A pairing asks for the id and writes the key, and then the secret.
theorem saved_of_keeps :
    ∃ after, perform (.saveSecret now id secret)
        (performAll [.uniqueId, .saveKey now id key] { storage, entropy }) =
          (.ok .saved, { storage := kept, entropy := after }) := by
  obtain ⟨passed, written, checks, keys, secrets⟩ := keeps.taken
  obtain rfl : (KeyStorage.uniqueId storage entropy).2.1 = passed := congrArg Prod.snd checks
  have reached : (performAll [.uniqueId, .saveKey now id key] { storage, entropy }).storage =
      written := by
    change (KeyStorage.saveKey (KeyStorage.uniqueId storage entropy).2.1 now id key).2 = written
    rw [keys]
  simp only [perform, reached, secrets]
  exact ⟨_, rfl⟩

theorem reopened_of_keeps (lasting : Disk.Lasting δ storage.path) (sound : storage.store.Sound) :
    reopened storage.path storage.secretSize kept = .ok kept := by
  obtain ⟨after, saved⟩ := saved_of_keeps keeps
  exact reopened_of_saved { storage, entropy } lasting sound saved

end Pairing

theorem remove_unknown {storage : FileStorage δ} {id : String}
    (unknown : storage.store.device? id = none) :
    KeyStorage.remove storage id = (.ok false, storage) := by
  have missing : (storage.store.remove id).1 = false := by
    rw [KeyStore.remove, unknown]
    rfl
  simp only [KeyStorage.remove, missing, Bool.false_eq_true, if_false]

section Runs

variable {path : String} (lasting : Disk.Lasting δ path)

include lasting

-- Nothing is refused, so no store is lost.
theorem steady_perform (call : Call) {desk : Desk δ} (steady : Steady path desk) :
    Steady path (perform call desk).2 := by
  obtain ⟨inStep, writable⟩ := steady
  obtain rfl := inStep.place
  constructor
  · apply inStep_perform lasting inStep
    rintro ⟨store, error, -, refused, -⟩
    rw [write_exact _ store writable] at refused
    cases refused
  · have course := perform_course call desk
    generalize perform call desk = performed at course ⊢
    cases course with
    | refuses _ _ => exact writable
    | answers _ _ _ => exact writable
    | writes store _ _ _ =>
        rw [write_exact _ store writable]
        exact writable.later _

variable {storage kept : FileStorage δ} (place : storage.path = path)
variable (filed : Filed path storage.store storage.disk)

include place filed

end Runs

end FileStorage

end CarPairing
