import CarPairing.Proofs.Files.Replacement
import CarPairing.Proofs.Store.Format
import CarPairing.Proofs.Store.Keeping

/-!
A storage in a file beside the file it is kept in. A call changes the store
first and writes it then; where the writing is refused the change stays, and the
calls that find nothing to change do not write again. So the two part company,
exactly where a store is lost: refused, with a change in it or the file spoiled.
-/

namespace CarPairing

namespace FileStorage

variable {δ : Type}

/-- The calls that may change what is stored. -/
inductive Call where
  | saveKey (now : Int) (id : String) (key : Key)
  | saveSecret (now : Int) (id : String) (secret : Bytes)
  | remove (id : String)
  | uniqueId
  | rotateId

inductive Reply where
  | saved
  | removed (known : Bool)
  | id (id : Uuid)

/-- A storage with the random bytes that it draws on. -/
structure Desk (δ : Type) where
  storage : FileStorage δ
  entropy : Entropy

/-- The store that a call sets out to write, if there is anything to write. -/
def intended? (call : Call) (desk : Desk δ) : Option KeyStore :=
  let store := desk.storage.store
  match call with
  | .saveKey now id key => (store.saveKey id key.bytes (timestamp now)).toOption
  | .saveSecret now id secret =>
      match desk.storage.checkSecret secret with
      | .error _ => none
      | .ok () => (store.saveSecret id secret (timestamp now)).toOption
  | .remove id => if (store.remove id).1 then some (store.remove id).2 else none
  | .uniqueId => if store.uniqueId = none then some (store.takeId desk.entropy).2.1 else none
  | .rotateId => some (store.rotateId desk.entropy).2.1

theorem fits_timestamp (now : Int) : Json.Numeral.Fits (timestamp now) := by
  unfold Json.Numeral.Fits timestamp
  repeat' split
  all_goals omega

theorem intended_sound {call : Call} {desk : Desk δ} {store : KeyStore}
    (sound : desk.storage.store.Sound) (intended : intended? call desk = some store) :
    store.Sound := by
  cases call with
  | saveKey now id key =>
      cases made : desk.storage.store.saveKey id key.bytes (timestamp now) with
      | error error => simp [intended?, made, Except.toOption] at intended
      | ok after =>
          simp only [intended?, made, Except.toOption, Option.some.injEq] at intended
          exact intended ▸ sound.saveKey (fits_timestamp now) made
  | saveSecret now id secret =>
      cases checked : desk.storage.checkSecret secret with
      | error error => simp [intended?, checked] at intended
      | ok =>
          cases made : desk.storage.store.saveSecret id secret (timestamp now) with
          | error error => simp [intended?, checked, made, Except.toOption] at intended
          | ok after =>
              simp only [intended?, checked, made, Except.toOption, Option.some.injEq] at intended
              exact intended ▸ sound.saveSecret (fits_timestamp now) made
  | remove id =>
      simp only [intended?, Option.ite_none_right_eq_some, Option.some.injEq] at intended
      exact intended.2 ▸ sound.remove id
  | uniqueId =>
      simp only [intended?, Option.ite_none_right_eq_some, Option.some.injEq] at intended
      exact intended.2 ▸ sound.takeId desk.entropy
  | rotateId =>
      simp only [intended?, Option.some.injEq] at intended
      exact intended ▸ sound.rotateId desk.entropy

variable [Disk δ]

def perform (call : Call) (desk : Desk δ) : Except StoreError Reply × Desk δ :=
  match call with
  | .saveKey now id key =>
      let (outcome, storage) := KeyStorage.saveKey desk.storage now id key
      (outcome.map fun _ => .saved, { desk with storage })
  | .saveSecret now id secret =>
      let (outcome, storage) := KeyStorage.saveSecret desk.storage now id secret
      (outcome.map fun _ => .saved, { desk with storage })
  | .remove id =>
      let (outcome, storage) := KeyStorage.remove desk.storage id
      (outcome.map .removed, { desk with storage })
  | .uniqueId =>
      let (outcome, storage, entropy) := KeyStorage.uniqueId desk.storage desk.entropy
      (outcome.map .id, { storage, entropy })
  | .rotateId =>
      let (outcome, storage, entropy) := desk.storage.rotateId desk.entropy
      (outcome.map .id, { storage, entropy })

def performAll (calls : List Call) (desk : Desk δ) : Desk δ :=
  calls.foldl (fun desk call => (perform call desk).2) desk

/-- What a call comes to: it is refused or answered with nothing to write, or a
store is written, and the call answered if that goes well. -/
inductive Course (call : Call) (desk : Desk δ) : Except StoreError Reply × Desk δ → Prop where
  | refuses (idle : intended? call desk = none) (error : StoreError) :
      Course call desk (.error error, desk)
  | answers (idle : intended? call desk = none) (reply : Reply) (unsaved : reply ≠ .saved) :
      Course call desk (.ok reply, desk)
  | writes (store : KeyStore) (intended : intended? call desk = some store) (reply : Reply)
      (entropy : Entropy) :
      Course call desk ((desk.storage.write store).1.map fun _ => reply,
        { storage := (desk.storage.write store).2, entropy })

theorem perform_course (call : Call) (desk : Desk δ) : Course call desk (perform call desk) := by
  cases call with
  | saveKey now id key =>
      cases made : desk.storage.store.saveKey id key.bytes (timestamp now) with
      | error error =>
          simp only [perform, KeyStorage.saveKey, made, accept]
          exact .refuses (by simp only [intended?, made]; rfl) error
      | ok store =>
          simp only [perform, KeyStorage.saveKey, made, accept]
          exact .writes store (by simp only [intended?, made]; rfl) .saved desk.entropy
  | saveSecret now id secret =>
      cases checked : desk.storage.checkSecret secret with
      | error error =>
          simp only [perform, KeyStorage.saveSecret, checked]
          exact .refuses (by simp only [intended?, checked]) error
      | ok =>
          cases made : desk.storage.store.saveSecret id secret (timestamp now) with
          | error error =>
              simp only [perform, KeyStorage.saveSecret, checked, made, accept]
              exact .refuses (by simp only [intended?, checked, made]; rfl) error
          | ok store =>
              simp only [perform, KeyStorage.saveSecret, checked, made, accept]
              exact .writes store (by simp only [intended?, checked, made]; rfl) .saved desk.entropy
  | remove id =>
      by_cases known : (desk.storage.store.remove id).1 = true
      · have intended : intended? (.remove id) desk = some (desk.storage.store.remove id).2 := by
          simp [intended?, known]
        have course := Course.writes _ intended (.removed true) desk.entropy
        simp only [perform, KeyStorage.remove, known, if_true]
        cases written : desk.storage.write (desk.storage.store.remove id).2 with
        | mk outcome storage =>
            rw [written] at course
            cases outcome <;> exact course
      · simp only [perform, KeyStorage.remove, known]
        exact .answers (by simp [intended?, known]) (.removed false) nofun
  | uniqueId =>
      cases had : desk.storage.store.uniqueId with
      | some id =>
          simp only [perform, KeyStorage.uniqueId, had]
          exact .answers (by simp [intended?, had]) (.id id) nofun
      | none =>
          have intended : intended? .uniqueId desk =
              some (desk.storage.store.takeId desk.entropy).2.1 := by
            simp [intended?, had]
          have course := Course.writes _ intended (.id (desk.storage.store.takeId desk.entropy).1)
            (desk.storage.store.takeId desk.entropy).2.2
          simp only [perform, KeyStorage.uniqueId, had, giveOut]
          cases written : desk.storage.write (desk.storage.store.takeId desk.entropy).2.1 with
          | mk outcome storage =>
              rw [written] at course
              cases outcome <;> exact course
  | rotateId =>
      have intended : intended? .rotateId desk =
          some (desk.storage.store.rotateId desk.entropy).2.1 := rfl
      have course := Course.writes _ intended (.id (desk.storage.store.rotateId desk.entropy).1)
        (desk.storage.store.rotateId desk.entropy).2.2
      simp only [perform, rotateId, giveOut]
      cases written : desk.storage.write (desk.storage.store.rotateId desk.entropy).2.1 with
      | mk outcome storage =>
          rw [written] at course
          cases outcome <;> exact course

section Call

variable {call : Call} {desk : Desk δ}

theorem perform_place :
    (perform call desk).2.storage.path = desk.storage.path ∧
      (perform call desk).2.storage.secretSize = desk.storage.secretSize := by
  have course := perform_course call desk
  generalize perform call desk = performed at course ⊢
  cases course <;> exact ⟨rfl, rfl⟩

theorem perform_sound (sound : desk.storage.store.Sound) :
    (perform call desk).2.storage.store.Sound := by
  have course := perform_course call desk
  generalize perform call desk = performed at course ⊢
  cases course with
  | refuses _ _ => exact sound
  | answers _ _ _ => exact sound
  | writes store intended _ _ => exact intended_sound sound intended

end Call

theorem performAll_place (calls : List Call) (start : Desk δ) :
    (performAll calls start).storage.path = start.storage.path ∧
      (performAll calls start).storage.secretSize = start.storage.secretSize := by
  induction calls generalizing start with
  | nil => exact ⟨rfl, rfl⟩
  | cons call rest ih =>
      obtain ⟨path, size⟩ := ih (perform call start).2
      exact ⟨path.trans perform_place.1, size.trans perform_place.2⟩

theorem performAll_sound {calls : List Call} {start : Desk δ} (sound : start.storage.store.Sound) :
    (performAll calls start).storage.store.Sound := by
  induction calls generalizing start with
  | nil => exact sound
  | cons call rest ih => exact ih (perform_sound sound)

/-- A fresh open of the file gives the storage as it is: the same id, devices,
keys and secrets. -/
def Agrees (storage : FileStorage δ) : Prop :=
  FileStorage.open storage.disk storage.path storage.secretSize = .ok storage

theorem agrees_of_load {storage : FileStorage δ}
    (loaded : KeyStore.load storage.disk storage.path = .ok storage.store) : Agrees storage := by
  rw [Agrees, FileStorage.open, loaded]

theorem load_of_agrees {storage : FileStorage δ} (agrees : Agrees storage) :
    KeyStore.load storage.disk storage.path = .ok storage.store := by
  rw [Agrees, FileStorage.open] at agrees
  cases loaded : KeyStore.load storage.disk storage.path with
  | error error =>
      rw [loaded] at agrees
      cases agrees
  | ok store =>
      rw [loaded] at agrees
      simp only [Except.ok.injEq] at agrees
      rw [← agrees]

/-- The file was replaced: it has the store as it is now. -/
def Recorded (storage : FileStorage δ) : Prop :=
  Disk.Holds storage.path (Utf8.encode storage.store.toText) storage.disk

/-- What the caller of a call may count on. A call that fails has replaced the
file or has changed nothing, and one that is answered leaves a file that says
the same as the storage. -/
structure Faithful (call : Call) (before : Desk δ) : Prop where
  failure : ∀ error, (perform call before).1 = .error error →
    Recorded (perform call before).2.storage ∨
      Disk.Kept before.storage.path before.storage.disk (perform call before).2.storage.disk ∧
        (perform call before).2.storage.store = before.storage.store
  answer : ∀ reply, (perform call before).1 = .ok reply → Agrees (perform call before).2.storage

/-- The call sets out to write a store, which is refused and does not reach the
file; and that store is another one, or the file has suffered. -/
inductive Lost (call : Call) (before : Desk δ) : Prop where
  | intro (store : KeyStore) (error : StoreError) (intended : intended? call before = some store)
      (refused : (before.storage.write store).1 = .error error)
      (missing : ¬Recorded (before.storage.write store).2)
      (changed : ¬(Disk.Kept before.storage.path before.storage.disk
          (before.storage.write store).2.disk ∧ store = before.storage.store))

theorem lost_unfaithful {call : Call} {before : Desk δ} (lost : Lost call before) :
    ¬Faithful call before := by
  intro faithful
  obtain ⟨store, error, intended, refused, missing, changed⟩ := lost
  have failure := faithful.failure
  have course := perform_course call before
  generalize perform call before = performed at course failure
  cases course with
  | refuses idle _ =>
      rw [idle] at intended
      cases intended
  | answers idle _ _ =>
      rw [idle] at intended
      cases intended
  | writes other same reply entropy =>
      rw [same] at intended
      obtain rfl := Option.some.inj intended
      rcases failure error (by rw [refused]; rfl) with recorded | unchanged
      · exact missing recorded
      · exact changed unchanged

theorem load_kept {path : String} {before after : δ} (kept : Disk.Kept path before after) :
    KeyStore.load after path = KeyStore.load before path := by
  simp only [KeyStore.load, Disk.readText, kept.present, kept.read]

theorem agrees_of_recorded {storage : FileStorage δ} (sound : storage.store.Sound)
    (recorded : Recorded storage) : Agrees storage :=
  agrees_of_load (KeyStore.load_text recorded.present recorded.read
    (storage.store.ofText_toText sound))

/-- The storage is kept in this file, and the file says what the storage says. -/
structure InStep (path : String) (desk : Desk δ) : Prop where
  place : desk.storage.path = path
  agrees : Agrees desk.storage
  sound : desk.storage.store.Sound

theorem inStep_of_open {disk : δ} {path : String} {secretSize : Nat} {start : Desk δ}
    (opened : FileStorage.open disk path secretSize = .ok start.storage) : InStep path start := by
  have unfolded := opened
  rw [FileStorage.open] at unfolded
  cases loaded : KeyStore.load disk path with
  | error error =>
      rw [loaded] at unfolded
      cases unfolded
  | ok store =>
      rw [loaded] at unfolded
      have same := Except.ok.inj unfolded
      refine ⟨by rw [← same], ?_, ?_⟩
      · rw [← same] at opened ⊢
        exact opened
      · rw [← same]
        exact KeyStore.sound_of_load loaded

section Runs

variable {path : String} (lasting : Disk.Lasting δ path)

include lasting

theorem recorded_of_write {storage : FileStorage δ} {store : KeyStore} (place : storage.path = path)
    (written : (storage.write store).1 = .ok ()) : Recorded (storage.write store).2 := by
  subst place
  cases replaced : Disk.replace storage.disk storage.path (Utf8.encode store.toText) with
  | mk outcome after =>
      cases outcome with
      | error error => simp [write, KeyStore.save, replaced] at written
      | ok =>
          simp only [write, KeyStore.save, replaced]
          exact lasting _ _ _ replaced

/-- What a call says it has saved is in the file, whatever the file said before. -/
theorem agrees_of_saved {call : Call} {before : Desk δ} (place : before.storage.path = path)
    (sound : before.storage.store.Sound) (saved : (perform call before).1 = .ok .saved) :
    Agrees (perform call before).2.storage := by
  have course := perform_course call before
  generalize perform call before = performed at course saved ⊢
  cases course with
  | refuses _ _ => cases saved
  | answers _ reply unsaved => exact absurd (Except.ok.inj saved) unsaved
  | writes store intended _ _ =>
      have written : (before.storage.write store).1 = .ok () := by
        cases outcome : (before.storage.write store).1 with
        | ok => rfl
        | error error =>
            rw [outcome] at saved
            cases saved
      exact agrees_of_recorded (intended_sound sound intended)
        (recorded_of_write lasting place written)

/-- A store whose writing is not lost is what the file says. -/
theorem agrees_write {call : Call} {before : Desk δ} {store : KeyStore}
    (inStep : InStep path before) (sound : store.Sound) (intended : intended? call before = some store)
    (safe : ¬Lost call before) : Agrees (before.storage.write store).2 := by
  obtain rfl := inStep.place
  by_cases recorded : Recorded (before.storage.write store).2
  · exact agrees_of_recorded sound recorded
  · cases written : (before.storage.write store).1 with
    | ok =>
        exact absurd (recorded_of_write lasting rfl written) recorded
    | error error =>
        have unchanged : Disk.Kept before.storage.path before.storage.disk
            (before.storage.write store).2.disk ∧ store = before.storage.store := by
          apply Classical.byContradiction
          intro changed
          exact safe (.intro store error intended written recorded changed)
        obtain ⟨kept, same⟩ := unchanged
        apply agrees_of_load
        change KeyStore.load (before.storage.write store).2.disk before.storage.path = .ok store
        rw [load_kept kept, same]
        exact load_of_agrees inStep.agrees

theorem inStep_perform {call : Call} {before : Desk δ} (inStep : InStep path before)
    (safe : ¬Lost call before) : InStep path (perform call before).2 := by
  have course := perform_course call before
  generalize perform call before = performed at course ⊢
  cases course with
  | refuses _ _ => exact inStep
  | answers _ _ _ => exact inStep
  | writes store intended reply entropy =>
      have sound := intended_sound inStep.sound intended
      exact ⟨inStep.place, agrees_write lasting inStep sound intended safe, sound⟩

theorem faithful_of_inStep {call : Call} {before : Desk δ} (inStep : InStep path before)
    (safe : ¬Lost call before) : Faithful call before where
  failure error failed := by
    have course := perform_course call before
    generalize perform call before = performed at course failed ⊢
    cases course with
    | refuses _ _ => exact Or.inr ⟨Disk.Kept.refl _ _, rfl⟩
    | answers _ _ _ => cases failed
    | writes store intended reply entropy =>
        apply Classical.byContradiction
        intro neither
        obtain ⟨missing, changed⟩ := not_or.mp neither
        obtain ⟨cause, refused⟩ : ∃ cause, (before.storage.write store).1 = .error cause := by
          cases written : (before.storage.write store).1 with
          | ok =>
              rw [written] at failed
              cases failed
          | error cause => exact ⟨cause, rfl⟩
        exact safe (.intro store cause intended refused missing changed)
  answer _ _ := (inStep_perform lasting inStep safe).agrees

theorem inStep_performAll {calls : List Call} {start : Desk δ} (inStep : InStep path start)
    (safe : ∀ earlier call later, calls = earlier ++ call :: later →
      ¬Lost call (performAll earlier start)) : InStep path (performAll calls start) := by
  induction calls generalizing start with
  | nil => exact inStep
  | cons call rest ih =>
      apply ih (inStep_perform lasting inStep (safe [] call rest rfl))
      intro earlier next later split
      exact safe (call :: earlier) next later (by rw [split]; rfl)

/-- Over every run on a storage that was opened: all its calls keep what their
callers may count on, if and only if none of them loses a store. -/
theorem faithful_iff_not_lost (disk : δ) (secretSize : Nat) (start : Desk δ)
    (opened : FileStorage.open disk path secretSize = .ok start.storage) (calls : List Call) :
    (∀ earlier call later, calls = earlier ++ call :: later →
        Faithful call (performAll earlier start)) ↔
      ∀ earlier call later, calls = earlier ++ call :: later →
        ¬Lost call (performAll earlier start) := by
  constructor
  · intro faithful earlier call later split lost
    exact lost_unfaithful lost (faithful earlier call later split)
  · intro safe earlier call later split
    subst split
    have reached : InStep path (performAll earlier start) := by
      apply inStep_performAll lasting (inStep_of_open opened)
      intro sooner next between split
      exact safe sooner next (between ++ call :: later) (by simp [split])
    exact faithful_of_inStep lasting reached (safe earlier call later rfl)

end Runs

/-- A device is stored in the file, and the first two writings are refused. -/
def stubborn : Desk (RefusingDisk Tree) where
  storage :=
    let store := { devices := [("d", { id := "d", firstPaired := 1, lastConnected := 1 })] }
    { disk :=
        { disk := Tree.place {} "/k" (.file Tree.ownerOnlyMode (Utf8.encode store.toText)),
          refused := [0, 1] },
      path := "/k", secretSize := 32, store }
  entropy := ⟨fun _ => 0, 0⟩

theorem sound_stubborn : stubborn.storage.store.Sound where
  distinct := by decide
  dated := by
    intro entry member
    obtain rfl := List.mem_singleton.mp member
    have one : Json.Numeral.Fits 1 := by simp [Json.Numeral.Fits]
    exact ⟨one, one⟩

theorem load_stubborn :
    KeyStore.load stubborn.storage.disk "/k" = .ok stubborn.storage.store :=
  KeyStore.load_text rfl rfl (KeyStore.ofText_toText _ sound_stubborn)

theorem open_stubborn :
    FileStorage.open stubborn.storage.disk "/k" 32 = .ok stubborn.storage :=
  agrees_of_load load_stubborn

theorem faithful_iff_not_lost_stubborn :
    Disk.Lasting (RefusingDisk Tree) "/k" ∧
    FileStorage.open stubborn.storage.disk "/k" 32 = .ok stubborn.storage ∧
    ((∀ earlier call later, [Call.uniqueId, .remove "d"] = earlier ++ call :: later →
        Faithful call (performAll earlier stubborn)) ↔
      ∀ earlier call later, [Call.uniqueId, .remove "d"] = earlier ++ call :: later →
        ¬Lost call (performAll earlier stubborn)) := by
  have lasting := RefusingDisk.lasting (Tree.lasting "/k")
  exact ⟨lasting, open_stubborn,
    faithful_iff_not_lost lasting stubborn.storage.disk 32 stubborn open_stubborn _⟩

/-- Taking an id fails and forgetting the device fails, and the file is as it
was. The storage has the id and no device all the same, answers so, and writes
no more; a fresh open has the device and no id. -/
theorem refused_changes_stay :
    let after := performAll [.uniqueId, .remove "d"] stubborn
    let id := (Uuid.random stubborn.entropy).1
    (perform .uniqueId stubborn).1 = .error (.io (.other "refused")) ∧
    (perform (.remove "d") (perform .uniqueId stubborn).2).1 = .error (.io (.other "refused")) ∧
    Disk.Kept "/k" stubborn.storage.disk after.storage.disk ∧
    after.storage.store = { uniqueId := some id, devices := [] } ∧
    (perform .uniqueId after).1 = .ok (.id id) ∧
    (perform (.remove "d") after).1 = .ok (.removed false) ∧
    FileStorage.open after.storage.disk "/k" 32 =
      .ok { after.storage with store := stubborn.storage.store } ∧
    ¬Faithful .uniqueId after := by
  intro after id
  have kept : Disk.Kept "/k" stubborn.storage.disk after.storage.disk := ⟨rfl, rfl⟩
  have loaded : KeyStore.load after.storage.disk "/k" = .ok stubborn.storage.store :=
    (load_kept kept).trans load_stubborn
  refine ⟨rfl, rfl, kept, rfl, rfl, rfl, ?_, ?_⟩
  · rw [FileStorage.open, loaded]
    rfl
  · intro faithful
    have agrees : Agrees after.storage := faithful.answer (.id id) rfl
    have same : stubborn.storage.store = after.storage.store :=
      Except.ok.inj (loaded.symm.trans (load_of_agrees agrees))
    exact absurd (congrArg (fun store => store.devices.length) same) (by decide)

end FileStorage

end CarPairing
