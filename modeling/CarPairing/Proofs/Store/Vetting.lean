import CarPairing.Proofs.Store.Reopening

/-!
The check of a secret against its saving. A storage in memory checks nothing and
one in a file the length, while the store in either refuses the empty secret by
itself; so the check tells of every secret that is refused but of that one.
-/

namespace CarPairing

/-- The call was refused for what it was given. -/
def Invalid (outcome : Except StoreError Unit) : Prop :=
  ∃ detail, outcome = .error (.invalidInput detail)

section Storage

variable {σ : Type} [KeyStorage σ]

/-- The check of the secret fails. -/
def Warns (storage : σ) (secret : Bytes) : Prop :=
  ∃ error, (KeyStorage.checkSecret storage secret).1 = .error error

/-- The check fails exactly if the saving of the secret is refused as invalid. -/
def Foretells (storage : σ) (now : Int) (id : String) (secret : Bytes) : Prop :=
  Warns storage secret ↔ Invalid (KeyStorage.saveSecret storage now id secret).1

variable (σ) in
/-- What is refused for a device with a name: the empty secret, and what fails the check. -/
def Vets : Prop :=
  ∀ (storage : σ) (now : Int) {id : String} (secret : Bytes), id ≠ "" →
    (Invalid (KeyStorage.saveSecret storage now id secret).1 ↔ secret = [] ∨ Warns storage secret)

theorem Vets.foretells_iff (vets : Vets σ) (storage : σ) (now : Int) {id : String}
    (named : id ≠ "") (secret : Bytes) :
    Foretells storage now id secret ↔ (secret = [] → Warns storage []) := by
  rw [Foretells, vets storage now secret named]
  constructor
  · rintro foretells rfl
    exact foretells.mpr (.inl rfl)
  · intro warned
    constructor
    · exact .inr
    · rintro (rfl | warns)
      · exact warned rfl
      · exact warns

/-- A part of a storage that no call changes. -/
structure Fixed {ν : Type} (part : σ → ν) : Prop where
  saveKey : ∀ (storage : σ) (now : Int) (id : String) (key : Key),
    part (KeyStorage.saveKey storage now id key).2 = part storage
  saveSecret : ∀ (storage : σ) (now : Int) (id : String) (secret : Bytes),
    part (KeyStorage.saveSecret storage now id secret).2 = part storage
  checkSecret : ∀ (storage : σ) (secret : Bytes),
    part (KeyStorage.checkSecret storage secret).2 = part storage
  remove : ∀ (storage : σ) (id : String), part (KeyStorage.remove storage id).2 = part storage
  uniqueId : ∀ (storage : σ) (entropy : Entropy),
    part (KeyStorage.uniqueId storage entropy).2.1 = part storage

end Storage

namespace MemoryStorage

theorem not_warns (storage : MemoryStorage) (secret : Bytes) : ¬Warns storage secret := by
  rintro ⟨error, failed⟩
  cases failed

theorem vets : Vets MemoryStorage := by
  intro storage now id secret named
  change Invalid (storage.accept (storage.store.saveSecret id secret (timestamp now))).1 ↔ _
  by_cases empty : secret = []
  · subst empty
    rw [KeyStore.saveSecret_empty _ _ named]
    exact iff_of_true ⟨_, rfl⟩ (.inl rfl)
  · rw [KeyStore.saveSecret_exact _ _ named empty]
    refine iff_of_false ?_ fun refused => refused.elim empty (storage.not_warns secret)
    rintro ⟨detail, refused⟩
    cases refused

theorem foretells_iff (storage : MemoryStorage) (now : Int) {id : String} (named : id ≠ "")
    (secret : Bytes) : Foretells storage now id secret ↔ secret ≠ [] := by
  rw [vets.foretells_iff storage now named secret]
  constructor
  · intro warned empty
    exact storage.not_warns [] (warned empty)
  · intro filled empty
    exact absurd empty filled

end MemoryStorage

namespace FileStorage

variable {δ : Type} [Disk δ]

theorem warns_iff (storage : FileStorage δ) (secret : Bytes) :
    Warns storage secret ↔ secret.length ≠ storage.secretSize := by
  change (∃ error, storage.checkSecret secret = .error error) ↔ _
  unfold checkSecret
  split
  next other => exact iff_of_true ⟨_, rfl⟩ other
  next same =>
    refine iff_of_false ?_ same
    rintro ⟨error, failed⟩
    cases failed

-- The disk may refuse a store, but not for the secret in it.
theorem write_not_invalid (storage : FileStorage δ) (store : KeyStore) :
    ¬Invalid (storage.write store).1 := by
  rintro ⟨detail, refused⟩
  rcases write_outcome storage store with written | ⟨cause, failed⟩
  · rw [written] at refused
    cases refused
  · rw [failed] at refused
    cases refused

theorem vets : Vets (FileStorage δ) := by
  intro storage now id secret named
  by_cases sized : secret.length = storage.secretSize
  · have saves : KeyStorage.saveSecret storage now id secret =
        storage.accept (storage.store.saveSecret id secret (timestamp now)) := by
      simp only [KeyStorage.saveSecret, checkSecret_sized sized]
    have quiet : ¬Warns storage secret := fun warns => (storage.warns_iff secret).mp warns sized
    rw [saves]
    by_cases empty : secret = []
    · subst empty
      rw [KeyStore.saveSecret_empty _ _ named]
      exact iff_of_true ⟨_, rfl⟩ (.inl rfl)
    · rw [KeyStore.saveSecret_exact _ _ named empty]
      exact iff_of_false (storage.write_not_invalid _) fun refused => refused.elim empty quiet
  · have refuses : (KeyStorage.saveSecret storage now id secret).1 = storage.checkSecret secret := by
      simp only [KeyStorage.saveSecret, checkSecret, if_pos sized]
    refine iff_of_true ?_ (.inr ((storage.warns_iff secret).mpr sized))
    rw [refuses, checkSecret, if_pos sized]
    exact ⟨_, rfl⟩

theorem warns_empty_iff (storage : FileStorage δ) :
    Warns storage [] ↔ storage.secretSize ≠ 0 := by
  rw [storage.warns_iff [], List.length_nil]
  exact ne_comm

theorem foretells_iff (storage : FileStorage δ) (now : Int) {id : String} (named : id ≠ "")
    (secret : Bytes) :
    Foretells storage now id secret ↔ secret ≠ [] ∨ storage.secretSize ≠ 0 := by
  rw [vets.foretells_iff storage now named secret, storage.warns_empty_iff]
  by_cases empty : secret = [] <;> simp [empty]

theorem perform_secretSize (call : Call) (desk : Desk δ) :
    (perform call desk).2.storage.secretSize = desk.storage.secretSize :=
  perform_place.2

-- Only a call that draws an id looks at the random bytes of the desk.
theorem fixed_secretSize : Fixed (FileStorage.secretSize : FileStorage δ → Nat) where
  saveKey storage now id key :=
    perform_secretSize (.saveKey now id key) ⟨storage, { byteAt := fun _ => 0 }⟩
  saveSecret storage now id secret :=
    perform_secretSize (.saveSecret now id secret) ⟨storage, { byteAt := fun _ => 0 }⟩
  checkSecret _ _ := rfl
  remove storage id := perform_secretSize (.remove id) ⟨storage, { byteAt := fun _ => 0 }⟩
  uniqueId storage entropy := perform_secretSize .uniqueId ⟨storage, entropy⟩

end FileStorage

end CarPairing
