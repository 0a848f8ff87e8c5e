import CarPairing.Proofs.Store.Keeping
import CarPairing.Store.Faulty

/-!
Storages that keep each device by itself. What they keep of it is seen through
a view, which shows the key and may show more; calls may be refused in any
pattern, and a refused one has changed nothing.
-/

namespace CarPairing

variable {σ ν : Type}

/-- Nothing has changed for any device, seen through the view. -/
def Same (view : σ → String → ν) (before after : σ) : Prop :=
  ∀ id, view after id = view before id

/-- Nothing has changed for any device but this one. -/
def SameBut (view : σ → String → ν) (id : String) (before after : σ) : Prop :=
  ∀ other, other ≠ id → view after other = view before other

theorem Same.refl (view : σ → String → ν) (storage : σ) : Same view storage storage :=
  fun _ => rfl

theorem Same.trans {view : σ → String → ν} {before middle after : σ}
    (first : Same view before middle) (second : Same view middle after) :
    Same view before after :=
  fun id => (second id).trans (first id)

theorem Same.but {view : σ → String → ν} {before after : σ} (same : Same view before after)
    (id : String) : SameBut view id before after :=
  fun other _ => same other

theorem SameBut.trans {view : σ → String → ν} {id : String} {before middle after : σ}
    (first : SameBut view id before middle) (second : SameBut view id middle after) :
    SameBut view id before after :=
  fun other different => (second other different).trans (first other different)

/-- A key that is written is there, a device that is removed has none, and the
other devices stay as they are; what is refused has changed nothing, and neither
has a check or the giving of the id. Nothing is asked of a secret that is kept,
or of a removal that is refused. -/
structure PerDevice [KeyStorage σ] (view : σ → String → ν) : Prop where
  shows : ∀ {one other : σ} {id : String}, view one id = view other id →
    KeyStorage.key? one id = KeyStorage.key? other id
  checked : ∀ (storage : σ) (secret : Bytes),
    Same view storage (KeyStorage.checkSecret storage secret).2
  named : ∀ (storage : σ) (entropy : Entropy),
    Same view storage (KeyStorage.uniqueId storage entropy).2.1
  keyed : ∀ {storage after : σ} {now : Int} {id : String} {key : Key},
    KeyStorage.saveKey storage now id key = (.ok (), after) →
      KeyStorage.key? after id = some key ∧ SameBut view id storage after
  unkeyed : ∀ {storage after : σ} {now : Int} {id : String} {key : Key} {error : StoreError},
    KeyStorage.saveKey storage now id key = (.error error, after) → Same view storage after
  unkept : ∀ {storage after : σ} {now : Int} {id : String} {secret : Bytes} {error : StoreError},
    KeyStorage.saveSecret storage now id secret = (.error error, after) → Same view storage after
  forgot : ∀ {storage after : σ} {id : String} {known : Bool},
    KeyStorage.remove storage id = (.ok known, after) →
      KeyStorage.key? after id = none ∧ SameBut view id storage after

theorem Same.keys [KeyStorage σ] {view : σ → String → ν} {before after : σ}
    (same : Same view before after) (mapped : PerDevice view) (id : String) :
    KeyStorage.key? after id = KeyStorage.key? before id :=
  mapped.shows (same id)

namespace MemoryStorage

/-- All that is stored of a device. -/
def view (storage : MemoryStorage) (id : String) : Option PairedDevice :=
  storage.store.device? id

theorem saveKey_named_of_ok {store after : KeyStore} {id : String} {key : Key} {now : Int}
    (saved : store.saveKey id key.bytes now = .ok after) : after = store.withKey id key now := by
  by_cases named : id = ""
  · rw [KeyStore.saveKey, if_pos named] at saved
    cases saved
  · rw [KeyStore.saveKey_exact store key now named] at saved
    cases saved
    rfl

theorem perDevice : PerDevice view where
  shows {one other id} same := by
    change one.store.key? id = other.store.key? id
    change one.store.device? id = other.store.device? id at same
    rw [KeyStore.key?, KeyStore.key?, same]
  checked storage _ := .refl view storage
  named storage entropy := KeyStore.device_takeId storage.store entropy
  keyed {storage after now id key} saved := by
    change storage.accept (storage.store.saveKey id key.bytes (timestamp now)) = _ at saved
    cases made : storage.store.saveKey id key.bytes (timestamp now) with
    | error error =>
        rw [made] at saved
        cases saved
    | ok store =>
        obtain rfl := saveKey_named_of_ok made
        rw [made] at saved
        cases saved
        refine ⟨KeyStore.key_withKey _ id key _, fun other different => ?_⟩
        exact (KeyStore.device_put _ id other _).trans (if_neg different)
  unkeyed {storage after now id key error} refused := by
    change storage.accept (storage.store.saveKey id key.bytes (timestamp now)) = _ at refused
    cases made : storage.store.saveKey id key.bytes (timestamp now) with
    | error error =>
        rw [made] at refused
        cases refused
        exact .refl view storage
    | ok store =>
        rw [made] at refused
        cases refused
  unkept {storage after now id secret error} refused := by
    change storage.accept (storage.store.saveSecret id secret (timestamp now)) = _ at refused
    cases made : storage.store.saveSecret id secret (timestamp now) with
    | error error =>
        rw [made] at refused
        cases refused
        exact .refl view storage
    | ok store =>
        rw [made] at refused
        cases refused
  forgot {storage after id known} removed := by
    cases removed
    have erased (other : String) := Table.find_erase id other storage.store.devices
    constructor
    · change KeyStore.key? (storage.store.remove id).2 id = none
      simp only [KeyStore.key?, KeyStore.remove, KeyStore.device?, erased, if_true]
      rfl
    · intro other different
      exact (erased other).trans (if_neg different)

end MemoryStorage

namespace FaultyStorage

/-- The key and the secret of a device. -/
def view (storage : FaultyStorage) (id : String) : Option Key × Option Bytes :=
  (Table.find? id storage.keys, Table.find? id storage.secrets)

/-- The storage with a call counted. -/
def counted (storage : FaultyStorage) (kind : String) : FaultyStorage :=
  let count := (Table.find? kind storage.counts).getD 0
  { storage with counts := Table.insert kind (count + 1) storage.counts }

theorem counted_same (storage : FaultyStorage) (kind : String) :
    Same view storage (storage.counted kind) :=
  fun _ => rfl

-- A call is refused, or it is made.
theorem call_cases {α : Type} (kind : String) (act : FaultyStorage → α × FaultyStorage)
    (storage : FaultyStorage) :
    (∃ error, storage.call kind act = (.error error, storage.counted kind)) ∨
      storage.call kind act =
        (.ok (act (storage.counted kind)).1, (act (storage.counted kind)).2) := by
  unfold call
  dsimp only
  split
  · exact .inl ⟨_, rfl⟩
  · exact .inr rfl

theorem call_error {α : Type} {kind : String} {act : FaultyStorage → α × FaultyStorage}
    {storage after : FaultyStorage} {error : StoreError}
    (refused : storage.call kind act = (.error error, after)) : Same view storage after := by
  rcases call_cases kind act storage with ⟨error, turned⟩ | made
  · rw [turned] at refused
    cases refused
    exact counted_same storage kind
  · rw [made] at refused
    cases refused

theorem call_ok {α : Type} {kind : String} {act : FaultyStorage → α × FaultyStorage}
    {storage after : FaultyStorage} {value : α}
    (done : storage.call kind act = (.ok value, after)) :
    act (storage.counted kind) = (value, after) := by
  rcases call_cases kind act storage with ⟨error, turned⟩ | made
  · rw [turned] at done
    cases done
  · rw [made] at done
    cases done
    rfl

-- A call that only counts leaves every device as it is, refused or not.
theorem call_same {α : Type} (kind : String) (value : FaultyStorage → α) (storage : FaultyStorage) :
    Same view storage (storage.call kind fun storage => (value storage, storage)).2 := by
  rcases call_cases kind (fun storage => (value storage, storage)) storage with
    ⟨error, turned⟩ | made
  · rw [turned]
    exact counted_same storage kind
  · rw [made]
    exact counted_same storage kind

theorem perDevice : PerDevice view where
  shows same := congrArg Prod.fst same
  checked storage _ := call_same "check" (fun _ => ()) storage
  named storage _ := call_same "unique_id" FaultyStorage.id storage
  keyed {storage after now id key} saved := by
    cases call_ok saved
    have inserted (other : String) := Table.find_insert id other key storage.keys
    refine ⟨(inserted id).trans (if_pos rfl), fun other different => ?_⟩
    exact congrArg (·, Table.find? other storage.secrets)
      ((inserted other).trans (if_neg different))
  unkeyed refused := call_error refused
  unkept refused := call_error refused
  forgot {storage after id known} removed := by
    cases call_ok removed
    have keys (other : String) := Table.find_erase id other storage.keys
    have secrets (other : String) := Table.find_erase id other storage.secrets
    refine ⟨(keys id).trans (if_pos rfl), fun other different => ?_⟩
    exact Prod.ext ((keys other).trans (if_neg different))
      ((secrets other).trans (if_neg different))

end FaultyStorage

end CarPairing
