import CarPairing.Proofs.Resumption.Rekeying

/-!
Reconnections follow one another for ever. Each one leaves the phone and the
storage of the head unit with the same new key, which is all that the next one
needs, and nothing else in the store is changed. The head unit goes into each round
with the storage that it finds: where it is kept in a file, with that of a fresh
open of the file.
-/

namespace CarPairing.Resumption

open Agreement Channel

variable {σ : Type} [KeyStorage σ] (store : σ → KeyStore) (again : σ → Except StoreError σ)
variable (id : String) (first : KeyStore)

/-- Both ends are established with one new key, which is in the storage that is found
afterwards. -/
structure Renewed (line : Line σ) (found : σ) (key : Key) : Prop where
  carEstablished : line.car.lifecycle = .established
  phoneEstablished : line.phone.established = true
  phoneKey : line.phone.key = some key
  carKey : KeyStorage.key? found id = some key
  unchanged : found = line.car.storage
  told : notices line.car.trace.reverse =
    if line.car.subscription = .nothing then [] else [.established]
  rekeyed : KeyStore.Rekeyed id first (store found)
  delivered : line.toCar = [] ∧ line.toPhone = []

/-- A fresh channel of the head unit and a fresh phone with the key it has. -/
def Round.start (round : Round) (storage : σ) (previous : Key) : Line σ :=
  { car := round.carAtStart id storage, phone := round.phoneAtStart previous }

/-- The rounds go through one after the other, the phone going into each with
the key that it had at the end of the one before, the head unit with the storage
that it finds then. Every run of a round goes on until it is done, which is after
six moves. -/
def Chained : List Round → σ → Key → Prop
  | [], _, _ => True
  | round :: rest, storage, previous =>
      ∀ moves line, (round.start id storage previous).run? moves = some line →
        moves.length ≤ 6 ∧
          (moves.length < 6 → ∃ move next, line.step? move = some next) ∧
          (moves.length = 6 → ∃ found key, again line.car.storage = .ok found ∧
            Renewed store id first line found key ∧ Chained rest found key)

namespace Round

variable {store again id first} (round : Round) {previous : Key} {storage kept : σ}

/-- The head unit once it has written the key, or tried to. -/
def carWriting (id : String) (previous : Key) (outcome : Except StoreError Unit)
    (storage kept : σ) : Reconnect.Car σ :=
  Reconnect.afterWriting (round.carAgreed previous id storage) previous round.secrets outcome kept

def carLast (id : String) (previous : Key) (outcome : Except StoreError Unit) (storage kept : σ) :
    Reconnect.Car σ :=
  Reconnect.afterEnding (round.carAgreed previous id storage) previous round.secrets outcome kept

-- The phone is sent the proof of the head unit before anything is written.
theorem course_last {outcome : Except StoreError Unit}
    (known : KeyStorage.key? storage id = some previous)
    (saved : KeyStorage.saveKey storage round.now id (round.nextKey previous) = (outcome, kept)) :
    round.Course previous id storage (round.carLast id previous outcome storage kept) where
  known := known
  ends := (receive_clear (round.carAgreed previous id storage) _ nofun).trans
    (Reconnect.proof_exact (round.carAgreed previous id storage) previous round.secrets rfl rfl rfl
      rfl rfl saved)
  answers := by
    have written : Grown (fun _ => True) (round.carAgreed previous id storage)
        (round.carWriting id previous outcome storage kept) :=
      ⟨[_, _, _, _], rfl, fun _ _ => trivial⟩
    have quiet : Grown (fun event => ∀ operation message, event ≠ .sent operation message)
        (round.carWriting id previous outcome storage kept)
        (round.carLast id previous outcome storage kept) := by
      cases outcome with
      | ok => exact concluded_grown _ nofun
      | error error => exact fail_grown _ _ nofun nofun
    rw [frames_quiet written quiet, news_of_trace _ _ [_, _, _, _] rfl]
    rfl

omit [KeyStorage σ] in
theorem carLast_ok (id : String) (previous : Key) (storage kept : σ) :
    round.carLast id previous (.ok ()) storage kept =
      { round.carWriting id previous (.ok ()) storage kept with
        lifecycle := .established
        trace := (round.carWriting id previous (.ok ()) storage kept).told .established ++
          (round.carWriting id previous (.ok ()) storage kept).trace } :=
  concluded_told (round.carWriting id previous (.ok ()) storage kept) rfl

omit [KeyStorage σ] in
theorem carLast_storage : (round.carLast id previous (.ok ()) storage kept).storage = kept := by
  rw [carLast_ok]
  rfl

theorem renewed_resumed
    (replaces : Replaces store storage kept round.now id (round.nextKey previous))
    (rekeyed : KeyStore.Rekeyed id first (store kept)) :
    Renewed store id first
      (round.line previous id storage (round.carLast id previous (.ok ()) storage kept) .resumed)
      kept (round.nextKey previous) := by
  rw [carLast_ok]
  refine ⟨rfl, rfl, rfl, replaces.reads, rfl, ?_, rekeyed, rfl, rfl⟩
  change notices
      ((round.carWriting id previous (.ok ()) storage kept).told .established ++ _).reverse =
    if round.subscription = .nothing then [] else [.established]
  have heard : (round.carWriting id previous (.ok ()) storage kept).subscription =
      round.subscription := rfl
  rw [told, heard]
  cases round.subscription with
  | nothing => rfl
  | lifecycle => rfl
  | everything => rfl

end Round

variable {store again id first}

-- The storage and the phone end a round with the key that the next one is about.
theorem chained_of_lasts (rounds : List Round) (storage : σ) (previous : Key)
    (known : KeyStorage.key? storage id = some previous)
    (holds : (store storage).key? id = some previous)
    (rekeyed : KeyStore.Rekeyed id first (store storage))
    (lasts : Lasts store again id rounds storage previous) :
    Chained store again id first rounds storage previous := by
  induction rounds generalizing storage previous with
  | nil => trivial
  | cons round rest ih =>
      obtain ⟨kept, replaces, stays, later⟩ := lasts
      have course := round.course_last known replaces.saved
      have changed := rekeyed.trans (replaces.rekeyed holds)
      have chained := ih kept (round.nextKey previous) replaces.reads replaces.holds changed later
      intro moves line ran
      obtain ⟨bound, goes, whole⟩ := (round.staged course).completes .fresh rfl moves line ran
      refine ⟨bound, goes, fun all => ⟨kept, round.nextKey previous, ?_, ?_, chained⟩⟩
      · rw [whole all]
        change again (round.carLast id previous (.ok ()) storage kept).storage = _
        rw [round.carLast_storage, stays]
      · rw [whole all]
        exact round.renewed_resumed replaces changed

/-- For every device that can be named and whose key is stored, and for any
number of rounds: over a storage in memory with any content, and over one in a
file with any content if what the rounds write can be written. The file is opened
afresh after each round, on the disk that the round has left. -/
theorem reconnections_chain (named : id ≠ "") (key : Key) (rounds : List Round) :
    (∀ storage : MemoryStorage, KeyStorage.key? storage id = some key →
      Chained MemoryStorage.store .ok id storage.store rounds storage key) ∧
      ∀ (δ : Type) [Disk δ] (storage : FileStorage δ),
        Disk.Lasting δ storage.path → storage.store.Sound →
        KeyStorage.key? storage id = some key →
        storage.Saves (rekeyings id rounds storage.store key) →
        Chained FileStorage.store (FileStorage.reopened storage.path storage.secretSize) id
          storage.store rounds storage key := by
  constructor
  · intro storage known
    exact chained_of_lasts rounds storage key known known (.refl id _)
      (memory_lasts named rounds storage key)
  · intro δ _ storage lasting sound known saves
    exact chained_of_lasts rounds storage key known known (.refl id _)
      (file_lasts named rounds storage key lasting sound saves)

/-! ## A phone that is known -/

def fives : Key := ⟨List.replicate 32 5, rfl⟩

/-- A round with the same random bytes over and over, and with ends of different modes. -/
def Round.plain : Round where
  carMode := { reconnecting := false, outOfBand := false, digits := 6 }
  phoneMode := { reconnecting := false, outOfBand := true, digits := 4 }
  carEntropy := { byteAt := fun _ => 1 }
  phoneEntropy := { byteAt := fun _ => 2 }
  now := 5
  subscription := .lifecycle

/-- One device is stored, with its key. -/
def storeOf (id : String) : KeyStore :=
  ({} : KeyStore).withKey id fives 0

theorem key_storeOf (id : String) : (storeOf id).key? id = some fives :=
  KeyStore.key_withKey {} id fives 0

theorem sound_storeOf (named : id ≠ "") : (storeOf id).Sound :=
  KeyStore.sound_empty.saveKey ⟨by decide, by decide⟩ (KeyStore.saveKey_exact {} fives 0 named)

/-- A file that has the phone. -/
def filedPhone : FileStorage Tree :=
  let store := storeOf "phone"
  { disk := { nodes := [("/k", .file Tree.ownerOnlyMode (Utf8.encode store.toText))] }
    path := "/k", secretSize := 1, store }

theorem reconnections_chain_known :
    let rounds := [Round.plain, Round.plain]
    Chained MemoryStorage.store .ok "phone" (storeOf "phone") rounds ⟨storeOf "phone"⟩ fives ∧
      Chained FileStorage.store (FileStorage.reopened "/k" 1) "phone" (storeOf "phone") rounds
        filedPhone fives := by
  intro rounds
  have named : "phone" ≠ "" := by decide
  have known := key_storeOf "phone"
  have saves := Tree.saves_root filedPhone rfl nofun
  obtain ⟨memory, files⟩ := reconnections_chain named fives rounds
  exact ⟨memory ⟨storeOf "phone"⟩ known,
    files Tree filedPhone (Tree.lasting "/k") (sound_storeOf named) known (saves _)⟩

-- A storage that refuses the key of a device, wherever the refusal comes from,
-- leaves the phone established alone.
theorem not_chained_of_refused {round : Round} {previous : Key} {storage kept : σ}
    {error : StoreError} (known : KeyStorage.key? storage id = some previous)
    (refused : KeyStorage.saveKey storage round.now id (round.nextKey previous) =
      (.error error, kept)) : ¬Chained store again id first [round] storage previous := by
  intro chained
  have course := round.course_last known refused
  obtain ⟨-, -, whole⟩ := chained _ _ (round.run_exists course)
  obtain ⟨found, key, -, renewed, -⟩ := whole rfl
  have established : ((round.carWriting id previous (.error error) storage kept).fail
      (.storage error)).lifecycle = .established := renewed.carEstablished
  obtain ⟨trace, failed⟩ := fail_active (.storage error)
    (round.carWriting id previous (.error error) storage kept) rfl
  rw [failed] at established
  cases established

/-- A file may have a key for a device without a name, and nothing is written for
such a device. -/
theorem unnamed_not_chained :
    let text := "\x7b\"devices\": \x7b\"\": \x7b\"device_id\": \"\", \"encryption_key\": " ++
      "\"0505050505050505050505050505050505050505050505050505050505050505\", " ++
      "\"first_paired\": 0, \"last_connected\": 0\x7d\x7d\x7d"
    let disk : Tree := { nodes := [("/k", .file Tree.ownerOnlyMode (Utf8.encode text))] }
    let storage : FileStorage Tree :=
      { disk, path := "/k", secretSize := 32, store := storeOf "" }
    FileStorage.open disk "/k" 32 = .ok storage ∧ KeyStorage.key? storage "" = some fives ∧
      (∀ stores, storage.Saves stores) ∧
        ¬Chained FileStorage.store (FileStorage.reopened "/k" 32) "" (storeOf "") [Round.plain]
          storage fives := by
  intro text disk storage
  have parsed : KeyStore.ofText? text = some (storeOf "") := by decide +kernel
  have loaded : KeyStore.load disk "/k" = .ok (storeOf "") := KeyStore.load_text rfl rfl parsed
  have known : KeyStorage.key? storage "" = some fives := key_storeOf ""
  refine ⟨?_, known, Tree.saves_root storage rfl nofun, ?_⟩
  · rw [FileStorage.open, loaded]
  · exact not_chained_of_refused known (storage.saveKey_unnamed Round.plain.now _)

end CarPairing.Resumption
