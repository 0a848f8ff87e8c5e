import CarPairing.Proofs.Channel.Records
import CarPairing.Proofs.Pairing.Stages
import CarPairing.Proofs.Store.Filing

/-!
An honest pairing always comes to its end. However deliveries and acceptances
are interleaved, a run that has not made eight moves can go on, and after eight
both ends are established with the same code, key and ids. What the head unit
has stored is told of the storage that the next one finds: where it is kept in a
file, of a fresh open of that file.
-/

namespace CarPairing

namespace Pairing

open Agreement Channel

variable {σ : Type} (pairing : Pairing)

def start (storage : σ) : Exchange σ :=
  { car := pairing.carAtStart storage, phone := pairing.phoneAtStart }

-- How the storage that is left is come by again: handed on, or opened afresh.
variable [KeyStorage σ] (store : σ → KeyStore) (again : σ → Except StoreError σ) (storage : σ)

/-- The two ends are associated and agree on everything, and so does the storage
that is found afterwards. -/
structure Done (exchange : Exchange σ) (found : σ) : Prop where
  carEstablished : exchange.car.lifecycle = .established
  phoneEstablished : exchange.phone.established = true
  code : ∃ code, codes exchange.car.trace.reverse = [code] ∧
    exchange.phone.verification.map Verification.display = some code
  key : ∃ key, exchange.phone.key = some key ∧
    KeyStorage.key? found pairing.device.toText = some key
  secret : (store found).secret? pairing.device.toText = some pairing.secret
  carId : ∃ id, exchange.phone.carId = some id ∧ (store found).uniqueId = some id ∧
    ∀ old, (store storage).uniqueId = some old → id = old
  deviceId : exchange.car.flavor.deviceId = some pairing.device
  others : ∀ id, id ≠ pairing.device.toText →
    (store found).device? id = (store storage).device? id
  unchanged : found = exchange.car.storage
  told : notices exchange.car.trace.reverse =
    [.deviceId pairing.device.toText, .established]
  delivered : exchange.toCar = [] ∧ exchange.toPhone = []

/-- Every run goes on until it is done, which is after eight moves. -/
def Completes : Prop :=
  ∀ moves exchange, (pairing.start storage).run? moves = some exchange →
    moves.length ≤ 8 ∧
      (moves.length < 8 → ∃ move next, exchange.step? move = some next) ∧
      (moves.length = 8 → ∃ found, again exchange.car.storage = .ok found ∧
        pairing.Done store storage exchange found)

variable {store again storage} {code : String} {kept : σ}

theorem done_associated
    (shows : (pairing.runner .responder).code? pairing.secrets = some code)
    (keeps : Keeps store storage kept pairing.idEntropy pairing.now pairing.device.toText
      pairing.secrets.next pairing.secret) :
    pairing.Done store storage (pairing.exchange storage code
      ((store storage).takeId pairing.idEntropy).1 kept .associated) kept where
  carEstablished := rfl
  phoneEstablished := rfl
  code := ⟨code, rfl, pairing.phone_shows shows⟩
  key := by
    refine ⟨pairing.secrets.next, rfl, ?_⟩
    rw [keeps.reads, keeps.stored]
    exact KeyStore.key_withPairing _ _ _ _ _
  secret := by
    rw [keeps.stored]
    exact KeyStore.secret_withPairing _ _ _ _ _
  carId := by
    refine ⟨_, rfl, ?_, ?_⟩
    · rw [keeps.stored, KeyStore.uniqueId_withPairing]
      exact KeyStore.uniqueId_takeId _ _
    · intro old had
      rw [KeyStore.takeId_kept _ _ had]
  deviceId := rfl
  others id different := by
    rw [keeps.stored, KeyStore.device_withPairing _ _ _ _ _ _ different]
    exact KeyStore.device_takeId _ _ _
  unchanged := rfl
  told := rfl
  delivered := ⟨rfl, rfl⟩

-- A pairing completes with every storage that goes along with it and is found
-- again as it was left.
theorem completes_of_keeps (named : pairing.device ≠ Uuid.nil)
    (listens : pairing.subscription ≠ .nothing)
    (keeps : Keeps store storage kept pairing.idEntropy pairing.now pairing.device.toText
      pairing.secrets.next pairing.secret) (stays : again kept = .ok kept) :
    pairing.Completes store again storage := by
  obtain ⟨code, shows⟩ := code_exists (pairing.runner .responder) pairing.secrets
  have course : pairing.Course storage code ((store storage).takeId pairing.idEntropy).1 kept :=
    ⟨named, listens, shows, keeps.given, keeps.taken⟩
  intro moves exchange ran
  rw [Exchange.run_moves] at ran
  obtain ⟨bound, goes, whole⟩ := (pairing.staged course).completes .fresh rfl moves exchange ran
  refine ⟨bound, goes, ?_⟩
  intro all
  rw [whole all]
  exact ⟨kept, stays, pairing.done_associated shows keeps⟩

/-- For every pairing with a device that can be named and a secret that can be
kept: over a storage in memory with any content, and over one in a file with any
content if what the pairing writes can be written. The file is opened afresh
afterwards, on the disk that the pairing has left. -/
theorem association_completes (named : pairing.device ≠ Uuid.nil)
    (listens : pairing.subscription ≠ .nothing) (nonempty : pairing.secret ≠ []) :
    (∀ storage : MemoryStorage, pairing.Completes MemoryStorage.store .ok storage) ∧
      ∀ (δ : Type) [Disk δ] (storage : FileStorage δ),
        Disk.Lasting δ storage.path → storage.store.Sound →
        pairing.secret.length = storage.secretSize →
        storage.Saves (storage.store.pairingWrites pairing.idEntropy pairing.device.toText
          pairing.secrets.next pairing.secret (timestamp pairing.now)) →
        pairing.Completes FileStorage.store
          (FileStorage.reopened storage.path storage.secretSize) storage := by
  have device := pairing.device.toText_ne_empty
  constructor
  · intro storage
    obtain ⟨kept, keeps⟩ :=
      storage.keeps pairing.idEntropy pairing.now pairing.secrets.next device nonempty
    exact pairing.completes_of_keeps named listens keeps rfl
  · intro δ _ storage lasting sound sized saves
    obtain ⟨kept, keeps⟩ := storage.keeps pairing.idEntropy pairing.now pairing.secrets.next device
      nonempty sized saves
    have stays := FileStorage.reopened_of_keeps keeps lasting sound
    exact pairing.completes_of_keeps named listens keeps stays

/-- A head unit with nothing stored and a phone, over memory and over a file that is
not there yet. -/
theorem association_completes_fresh :
    let pairing : Pairing :=
      { outOfBand := false, digits := 6, carReconnecting := false, phoneReconnecting := true
        carEntropy := { byteAt := fun _ => 1 }, phoneEntropy := { byteAt := fun _ => 2 }, now := 0
        subscription := .lifecycle, device := ⟨List.replicate 16 3, rfl⟩, secret := [4] }
    let file : FileStorage Tree := { disk := {}, path := "/k", secretSize := 1, store := {} }
    pairing.Completes MemoryStorage.store .ok {} ∧
      pairing.Completes FileStorage.store (FileStorage.reopened "/k" 1) file := by
  intro pairing file
  have named : pairing.device ≠ Uuid.nil := by decide
  have listens : pairing.subscription ≠ .nothing := by decide
  have nonempty : pairing.secret ≠ [] := by decide
  have saves := Tree.saves_root file rfl (by decide)
  obtain ⟨memory, files⟩ := association_completes pairing named listens nonempty
  exact ⟨memory {}, files Tree file (Tree.lasting "/k") KeyStore.sound_empty rfl (saves _)⟩

end Pairing

end CarPairing
