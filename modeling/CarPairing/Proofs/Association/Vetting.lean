import CarPairing.Proofs.Association.Exposure
import CarPairing.Proofs.Association.Rollback
import CarPairing.Proofs.Store.Vetting

/-!
Keys that are written in vain. The association asks about the secret before it
writes the key, so that a key is written for a secret that is going to be refused
only where the check does not tell: for an identity without a secret, with a
storage that asks for no length.
-/

namespace CarPairing

variable {φ ρ σ ν α : Type} [KeyStorage σ] {part : σ → ν}

namespace Channel

/-- The step leaves this part of the storage as it is. -/
def Fixes (part : σ → ν) (step : Step φ ρ σ α) : Prop :=
  ∀ channel, part (step.run channel).2.storage = part channel.storage

omit [KeyStorage σ] in
theorem fixes_inherited [Runner ρ] (part : σ → ν) :
    Inherited fun {α} (step : Step φ ρ σ α) => Fixes part step where
  bind one two channel := by
    have first := one channel
    rw [Step.run_bind]
    cases ran : (_ : Step φ ρ σ _).run channel with
    | mk outcome middle =>
        rw [ran] at first
        cases outcome with
        | error error => exact first
        | ok value => exact (two value middle).trans first
  pure _ _ := rfl
  throw _ _ _ := rfl
  read _ next channel := next channel channel
  update tame channel := congrArg part (tame.storage channel)
  ask _ _ := rfl

theorem fixes_calls (fixed : Fixed part) :
    InheritedCalls fun {α} (step : Step φ ρ σ α) => Fixes part step where
  saveKey id key channel := fixed.saveKey channel.storage channel.now id key
  storedKey _ _ := rfl
  saveSecret id secret channel := fixed.saveSecret channel.storage channel.now id secret
  checkSecret secret channel := fixed.checkSecret channel.storage secret
  forget id channel := fixed.remove channel.storage id

theorem fixes_uniqueId (fixed : Fixed part) :
    Fixes part (uniqueId : Step φ ρ σ (Except StoreError Uuid)) :=
  fun channel => fixed.uniqueId channel.storage channel.entropy

omit [KeyStorage σ] in
theorem Fixes.settle [Flavor φ] {step : Step φ ρ σ Unit} (fixes : Fixes part step)
    (channel : Channel φ ρ σ) : part (channel.settle step).storage = part channel.storage := by
  have same := fixes channel
  apply settle_cases (motive := fun after => part after.storage = part channel.storage)
  · intro error after ran
    rw [ran] at same
    rw [fail_storage]
    exact same
  · intro after ran
    rw [ran] at same
    exact same

end Channel

namespace Association

open Channel

section Fixed

variable [Runner ρ] (fixed : Fixed part)
include fixed

theorem handshake_fixed (payload : Bytes) (channel : Channel Association ρ σ) :
    part (channel.handshake payload).storage = part channel.storage := by
  by_cases active : channel.lifecycle = .active
  · rw [handshake_active channel payload active]
    have fixes : Fixes part (Flavor.process payload : Step ρ σ Unit) :=
      process_inherits (fixes_inherited part) (fixes_calls fixed) payload
    exact fixes.settle (channel.record (.frame payload))
  · rw [handshake_inactive channel payload active]

theorem perform_fixed (call : Call) (channel : Channel Association ρ σ) :
    part (perform call channel).storage = part channel.storage := by
  by_cases active : channel.lifecycle = .active
  · cases call with
    | frame payload => exact handshake_fixed fixed payload channel
    | receive message operation =>
        rw [perform]
        cases receive_cases channel message operation with
        | ignored failed same => rw [same]
        | told notice living traffic same => rw [same, notify_storage]
        | taken payload living handshakes opened same =>
            rw [same]
            exact handshake_fixed fixed payload channel
    | send message =>
        rw [perform, send_refused message channel (not_established_of_active active)]
    | subscribe subscription => rfl
    | accept =>
        rw [perform, accept, if_pos active]
        have fixes : Fixes part (acceptCode : Step ρ σ Unit) :=
          acceptCode_inherits (fixes_inherited part) (fixes_uniqueId fixed)
        exact fixes.settle channel
    | listen on => rfl
  · obtain ⟨⟨session, trace, subscription, listening, same⟩, -⟩ :=
      perform_inert call channel active
    rw [same]

theorem performAll_fixed (calls : List Call) (channel : Channel Association ρ σ) :
    part (performAll calls channel).storage = part channel.storage := by
  induction calls generalizing channel with
  | nil => rfl
  | cons call rest ih => exact (ih (perform call channel)).trans (perform_fixed fixed call channel)

end Fixed

/-- A key is written for an identity whose secret the storage is going to refuse. -/
inductive KeyBeforeRefusal [Runner ρ] (channel : Channel Association ρ σ) (call : Call) : Prop where
  | intro (payload : Bytes) (device : Uuid) (secret : Bytes) (key : Key)
      (outcome : Except StoreError Unit) (delivers : Delivers channel payload call)
      (decoded : Identity.decode payload = .ok (device, secret))
      (refuses : Invalid
        (KeyStorage.saveSecret channel.storage channel.now device.toText secret).1)
      (wrote : .stored (.saveKey device.toText key) outcome ∈ news channel (perform call channel))

/-- An identity without a secret, taken while an accepted key is held. -/
inductive EmptySecretTaken (channel : Channel Association ρ σ) (call : Call) : Prop where
  | intro (payload : Bytes) (device : Uuid) (key : Key) (delivers : Delivers channel payload call)
      (active : channel.lifecycle = .active) (finished : channel.state = .finished)
      (held : channel.flavor.pending = some key)
      (decoded : Identity.decode payload = .ok (device, []))

variable [Runner ρ]

-- What is written for a message has passed the check, and only the empty secret
-- is refused in spite of that.
theorem keyBeforeRefusal_iff (vets : Vets σ) (channel : Channel Association ρ σ) (call : Call) :
    KeyBeforeRefusal channel call ↔ EmptySecretTaken channel call ∧ ¬Warns channel.storage [] := by
  constructor
  · rintro ⟨payload, device, secret, key, outcome, delivers, decoded, refuses, wrote⟩
    obtain ⟨other, again, identifies⟩ := (perform_grown call channel).mem_news wrote trivial
    obtain rfl := delivers.unique again
    obtain ⟨held, named, told, events, after, ended, active, finished, pending, read, enrolled,
      made⟩ := identifies
    cases decoded.symm.trans read
    have quiet : ¬Warns channel.storage secret := by
      rintro ⟨error, failed⟩
      rcases made with member | ⟨notice, -⟩
      · rw [enrolled.passes member trivial] at failed
        cases failed
      · cases notice
    rcases (vets _ _ secret (Uuid.toText_ne_empty device)).mp refuses with rfl | warns
    · exact ⟨⟨payload, device, held, delivers, active, finished, pending, decoded⟩, quiet⟩
    · exact absurd warns quiet
  · rintro ⟨⟨payload, device, key, delivers, active, finished, held, decoded⟩, quiet⟩
    have passes : (KeyStorage.checkSecret channel.storage []).1 = .ok () := by
      cases checked : (KeyStorage.checkSecret channel.storage []).1 with
      | error error => exact absurd ⟨error, checked⟩ quiet
      | ok => rfl
    obtain ⟨outcome, wrote⟩ :=
      (identity_made channel payload key device [] active finished held decoded).1 passes
    rw [← delivers.taken active] at wrote
    have refuses := (vets channel.storage channel.now [] (Uuid.toText_ne_empty device)).mpr (.inl rfl)
    exact ⟨payload, device, [], key, outcome, delivers, decoded, refuses, wrote⟩

/-- Over the calls no key is written for a secret that is going to be refused. -/
def NoKeyBeforeRefusal (calls : List Call) (start : Channel Association ρ σ) : Prop :=
  ∀ before call after, calls = before ++ call :: after →
    ¬KeyBeforeRefusal (performAll before start) call

/-- Whatever identity the calls bring while an accepted key is held has a secret. -/
def NoEmptySecretTaken (calls : List Call) (start : Channel Association ρ σ) : Prop :=
  ∀ before call after, calls = before ++ call :: after →
    ¬EmptySecretTaken (performAll before start) call

theorem noKeyBeforeRefusal_iff (vets : Vets σ) (calls : List Call) (start : Channel Association ρ σ)
    (steady : ∀ before, Warns (performAll before start).storage [] ↔ Warns start.storage []) :
    NoKeyBeforeRefusal calls start ↔ NoEmptySecretTaken calls start ∨ Warns start.storage [] := by
  constructor
  · intro unsaved
    by_cases warns : Warns start.storage []
    · exact .inr warns
    · refine .inl fun before call after split taken => ?_
      have quiet : ¬Warns (performAll before start).storage [] := mt (steady before).mp warns
      exact unsaved before call after split ((keyBeforeRefusal_iff vets _ call).mpr ⟨taken, quiet⟩)
  · intro safe before call after split saved
    obtain ⟨taken, quiet⟩ := (keyBeforeRefusal_iff vets _ call).mp saved
    rcases safe with untaken | warns
    · exact untaken before call after split taken
    · exact quiet ((steady before).mpr warns)

theorem noKeyBeforeRefusal_memory (calls : List Call)
    (start : Channel Association ρ MemoryStorage) :
    NoKeyBeforeRefusal calls start ↔ NoEmptySecretTaken calls start := by
  have steady (before : List Call) :
      Warns (performAll before start).storage [] ↔ Warns start.storage [] :=
    iff_of_false (MemoryStorage.not_warns _ _) (MemoryStorage.not_warns _ _)
  rw [noKeyBeforeRefusal_iff MemoryStorage.vets calls start steady]
  exact or_iff_left (MemoryStorage.not_warns _ _)

theorem noKeyBeforeRefusal_file {δ : Type} [Disk δ] (calls : List Call)
    (start : Channel Association ρ (FileStorage δ)) :
    NoKeyBeforeRefusal calls start ↔
      NoEmptySecretTaken calls start ∨ start.storage.secretSize ≠ 0 := by
  have steady (before : List Call) :
      Warns (performAll before start).storage [] ↔ Warns start.storage [] := by
    rw [FileStorage.warns_empty_iff, FileStorage.warns_empty_iff,
      performAll_fixed FileStorage.fixed_secretSize before start]
  rw [noKeyBeforeRefusal_iff FileStorage.vets calls start steady, FileStorage.warns_empty_iff]

/-- For a device with a name and whatever is stored, the check tells whether a secret
is going to be refused, unless the secret is empty and no length is asked for; and a
run of an association writes no key in vain, unless it takes an identity without a
secret, again where no length is asked for. -/
theorem check_foretells_filled_secrets {δ : Type} [Disk δ] (memory : MemoryStorage)
    (file : FileStorage δ) (now : Int) {id : String} (named : id ≠ "") (secret : Bytes)
    (runner : ρ) (entropy : Entropy) (calls : List Call) :
    let overMemory := make ({} : Association) runner memory entropy now
    let overFile := make ({} : Association) runner file entropy now
    (Foretells memory now id secret ↔ secret ≠ []) ∧
      (Foretells file now id secret ↔ secret ≠ [] ∨ file.secretSize ≠ 0) ∧
      (NoKeyBeforeRefusal calls overMemory ↔ NoEmptySecretTaken calls overMemory) ∧
      (NoKeyBeforeRefusal calls overFile ↔
        NoEmptySecretTaken calls overFile ∨ file.secretSize ≠ 0) :=
  ⟨memory.foretells_iff now named secret, file.foretells_iff now named secret,
    noKeyBeforeRefusal_memory calls _, noKeyBeforeRefusal_file calls _⟩

/-- The device tells its id in clear and sends no secret. -/
def secretless (device : Uuid) : Call :=
  .receive (Companion.clear (Identity.encode device [])) .handshake

theorem check_foretells_filled_secrets_fresh :
    let file : FileStorage Tree := { disk := {}, path := "/k", secretSize := 0, store := {} }
    let runner : Agreement := { role := .responder }
    let entropy : Entropy := { byteAt := fun _ => 1 }
    let calls := untilAccepted { byteAt := fun _ => 2 }
    let overMemory := make ({} : Association) runner ({} : MemoryStorage) entropy 0
    let overFile := make ({} : Association) runner file entropy 0
    (Foretells ({} : MemoryStorage) 0 "d" [4] ↔ [4] ≠ ([] : Bytes)) ∧
      (Foretells file 0 "d" [4] ↔ [4] ≠ ([] : Bytes) ∨ file.secretSize ≠ 0) ∧
      (NoKeyBeforeRefusal calls overMemory ↔ NoEmptySecretTaken calls overMemory) ∧
      (NoKeyBeforeRefusal calls overFile ↔
        NoEmptySecretTaken calls overFile ∨ file.secretSize ≠ 0) := by
  intro file runner entropy calls overMemory overFile
  exact check_foretells_filled_secrets {} file 0 (by decide) [4] runner entropy calls

/-- The storage in memory passes the empty secret and then refuses it, and an
association that takes such an identity has written the agreed key by then. -/
theorem empty_secret_unforeseen :
    ¬Foretells ({} : MemoryStorage) 0 "d" [] ∧
      ¬NoKeyBeforeRefusal
        (untilAccepted { byteAt := fun _ => 2 } ++ [secretless ⟨List.replicate 16 3, rfl⟩])
        (make ({} : Association) ({ role := .responder } : Agreement) ({} : MemoryStorage)
          { byteAt := fun _ => 1 } 0) := by
  constructor
  · intro foretells
    have named : "d" ≠ "" := by decide
    exact (MemoryStorage.foretells_iff {} 0 named []).mp foretells rfl
  · intro unsaved
    obtain ⟨entropy, reached, same, active, finished, held, -, -⟩ :=
      performAll_untilAccepted { role := .responder } rfl rfl ({} : MemoryStorage)
        { byteAt := fun _ => 1 } { byteAt := fun _ => 2 } 0 (fun _ => ⟨_, rfl⟩)
    let device : Uuid := ⟨List.replicate 16 3, rfl⟩
    have known : device ≠ Uuid.nil := by decide
    have taken : EmptySecretTaken reached (secretless device) :=
      ⟨_, device, _, .receive _ rfl, active, finished, held, Identity.decode_encode device [] known⟩
    have untaken := (noKeyBeforeRefusal_memory _ _).mp unsaved _ (secretless device) [] rfl
    rw [unpaired] at same
    rw [same] at untaken
    exact untaken taken

end Association

end CarPairing
