import CarPairing.Handshake.Script
import CarPairing.Proofs.Association.Inheritance
import CarPairing.Proofs.Store.PerDevice

/-!
A pairing that fails and the keys that were stored before it. Up to the identity
message nothing is written; that message writes the key first, and takes it back
if the secret is refused then. With a storage that changes nothing when it
refuses, a pairing that has failed has changed no key, provided that the taking
back was not refused in its turn.
-/

namespace CarPairing

/-- A write with the answer to it. -/
abbrev Write := StorageCall × Except StoreError Unit

def StorageCall.device? : StorageCall → Option String
  | .saveKey id _ => some id
  | .key id => some id
  | .saveSecret id _ => some id
  | .remove id => some id
  | .checkSecret _ => none
  | .uniqueId => none

/-- A secret is refused. -/
def Write.RefusesSecret : Write → Prop
  | (.saveSecret _ _, .error _) => True
  | _ => False

/-- What was written after a secret had been refused, to take the key back, was
not refused. -/
def RolledBack (written : List Write) : Prop :=
  written.Pairwise fun earlier later => Write.RefusesSecret earlier → later.2 = .ok ()

theorem RolledBack.last {first second third : Write}
    (back : RolledBack [first, second, third]) (refused : second.RefusesSecret) :
    third.2 = .ok () :=
  (List.pairwise_cons.mp (List.pairwise_cons.mp back).2).1 third List.mem_cons_self refused

variable {σ ν : Type} [KeyStorage σ]

/-- Every key is what it was. All writes are about one device, and of the other
devices nothing at all has changed. -/
structure Unharmed (view : σ → String → ν) (before after : σ) (written : List Write) : Prop where
  keys : ∀ id, KeyStorage.key? after id = KeyStorage.key? before id
  others : ∀ id, (∀ write ∈ written, write.1.device? ≠ some id) → view after id = view before id
  single : ∀ one ∈ written, ∀ other ∈ written, one.1.device? = other.1.device?

section Unharmed

variable {view : σ → String → ν} {before after : σ} {written : List Write} {id : String}

theorem Unharmed.of_same (mapped : PerDevice view) (same : Same view before after)
    (about : ∀ write ∈ written, write.1.device? = some id) :
    Unharmed view before after written where
  keys := same.keys mapped
  others other _ := same other
  single one first other second := (about one first).trans (about other second).symm

theorem Unharmed.of_restored (mapped : PerDevice view)
    (restored : KeyStorage.key? after id = KeyStorage.key? before id)
    (others : SameBut view id before after)
    (about : ∀ write ∈ written, write.1.device? = some id) (wrote : written ≠ []) :
    Unharmed view before after written where
  keys other := by
    by_cases same : other = id
    · rw [same, restored]
    · exact mapped.shows (others other same)
  others other unwritten := by
    apply others other
    rintro rfl
    obtain ⟨write, member⟩ := List.exists_mem_of_ne_nil written wrote
    exact unwritten write member (about write member)
  single one first other second := (about one first).trans (about other second).symm

theorem Unharmed.after_same {start : σ} (mapped : PerDevice view)
    (unharmed : Unharmed view before after written) (same : Same view start before) :
    Unharmed view start after written where
  keys other := (unharmed.keys other).trans (same.keys mapped other)
  others other unwritten := (unharmed.others other unwritten).trans (same other)
  single := unharmed.single

end Unharmed

namespace Enrolled

variable {view : σ → String → ν} {storage after : σ} {now : Int} {id : String} {key : Key}
variable {secret : Bytes} {events : List Event}

theorem writes_about {outcome : Except StoreError Unit}
    (enrolled : Enrolled storage now id key secret events after outcome) :
    ∀ write ∈ Channel.writes events, write.1.device? = some id := by
  have empty : ∀ write ∈ ([] : List Write), write.1.device? = some id := nofun
  cases enrolled <;> simp only [Channel.writes, List.filterMap_cons, List.filterMap_nil,
    Event.write?, List.forall_mem_cons, StorageCall.device?, true_and] <;> exact empty

-- The key that is there at the end is the one that was read before the writing.
theorem unharmed (mapped : PerDevice view) {error : StoreError}
    (enrolled : Enrolled storage now id key secret events after (.error error))
    (back : RolledBack (Channel.writes events)) :
    Unharmed view storage after (Channel.writes events) := by
  have about := enrolled.writes_about
  have passed {middle : σ} {outcome : Except StoreError Unit}
      (checked : KeyStorage.checkSecret storage secret = (outcome, middle)) :
      Same view storage middle := by
    have same := mapped.checked storage secret
    rwa [checked] at same
  cases enrolled with
  | unchecked _ _ checked => exact .of_same mapped (passed checked) about
  | unkeyed _ middle _ checked keyed =>
      exact .of_same mapped ((passed checked).trans (mapped.unkeyed keyed)) about
  | restored _ middle written refused _ previous outcome checked keyed kept had undone =>
      obtain rfl : outcome = .ok () := RolledBack.last back trivial
      obtain ⟨-, first⟩ := mapped.keyed keyed
      obtain ⟨there, last⟩ := mapped.keyed undone
      have others : SameBut view id middle after :=
        (first.trans ((mapped.unkept kept).but id)).trans last
      refine .of_restored mapped ?_ (((passed checked).but id).trans others) about ?_
      · rw [there, ← had]
        exact (passed checked).keys mapped id
      · simp [Channel.writes, Event.write?]
  | removed _ middle written refused _ outcome checked keyed kept had undone =>
      have taken : outcome.map (fun _ => ()) = .ok () := RolledBack.last back trivial
      obtain ⟨known, rfl⟩ : ∃ known, outcome = .ok known := by
        cases outcome with
        | ok known => exact ⟨known, rfl⟩
        | error error => cases taken
      obtain ⟨-, first⟩ := mapped.keyed keyed
      obtain ⟨gone, last⟩ := mapped.forgot undone
      have others : SameBut view id middle after :=
        (first.trans ((mapped.unkept kept).but id)).trans last
      refine .of_restored mapped ?_ (((passed checked).but id).trans others) about ?_
      · rw [gone, ← had]
        exact (passed checked).keys mapped id
      · simp [Channel.writes, Event.write?]

end Enrolled

theorem Event.Routine.unwritten {event : Event} (routine : event.Routine) :
    event.write? = none := by
  cases event with
  | stored call outcome => exact absurd routine not_false
  | _ => rfl

namespace Channel

variable {φ ρ α : Type}

/-- The step writes nothing, and changes nothing of any device. -/
def Leaves (view : σ → String → ν) (step : Step φ ρ σ α) : Prop :=
  ∀ channel, Same view channel.storage (step.run channel).2.storage ∧
    Grown (fun event => event.write? = none) channel (step.run channel).2

variable {view : σ → String → ν}

omit [KeyStorage σ] in
theorem leaves_inherited [Runner ρ] :
    Inherited fun {α} (step : Step φ ρ σ α) => Leaves view step where
  bind one two channel := by
    obtain ⟨same, grown⟩ := one channel
    rw [Step.run_bind]
    cases ran : (_ : Step φ ρ σ _).run channel with
    | mk outcome middle =>
        rw [ran] at same grown
        cases outcome with
        | error error => exact ⟨same, grown⟩
        | ok value =>
            obtain ⟨later, more⟩ := two value middle
            exact ⟨same.trans later, grown.trans more⟩
  pure _ channel := ⟨.refl view _, .refl _ channel⟩
  throw _ _ channel := ⟨.refl view _, .refl _ channel⟩
  read _ next channel := next channel channel
  update tame channel := by
    refine ⟨fun id => congrArg (view · id) (tame.storage channel), ?_⟩
    exact (tame.routine channel).mono fun _ routine => routine.unwritten
  ask _ _ := ⟨.refl view _, .one rfl rfl⟩

theorem leaves_uniqueId (mapped : PerDevice view) :
    Leaves view (uniqueId : Step φ ρ σ (Except StoreError Uuid)) :=
  fun channel => ⟨mapped.named channel.storage channel.entropy, .one rfl rfl⟩

/-- Nothing has changed for any device, and nothing was written of one. -/
structure Clean (view : σ → String → ν) (start : σ) (channel : Channel φ ρ σ) : Prop where
  same : Same view start channel.storage
  unwritten : writes channel.trace = []

omit [KeyStorage σ]

variable {start : σ} {channel after : Channel φ ρ σ}

theorem Clean.step (clean : Clean view start channel)
    (same : Same view channel.storage after.storage)
    (grown : Grown (fun event => event.write? = none) channel after) :
    Clean view start after where
  same := clean.same.trans same
  unwritten := (writes_grown grown).trans clean.unwritten

theorem writes_reverse (events : List Event) : writes events.reverse = (writes events).reverse :=
  List.filterMap_reverse

variable [Flavor φ]

theorem fail_storage (error : ChannelError) (channel : Channel φ ρ σ) :
    (channel.fail error).storage = channel.storage := by
  unfold fail
  dsimp only
  split
  · exact notify_storage _ _
  · rfl

theorem fail_unwritten (error : ChannelError) (channel : Channel φ ρ σ) :
    writes (channel.fail error).trace = writes channel.trace :=
  writes_grown (fail_grown error channel rfl rfl)

theorem Clean.fail (clean : Clean view start channel) (error : ChannelError) :
    Clean view start (channel.fail error) where
  same := by
    rw [fail_storage]
    exact clean.same
  unwritten := (fail_unwritten error channel).trans clean.unwritten

theorem Clean.settle {step : Step φ ρ σ Unit} (leaves : Leaves view step)
    (clean : Clean view start channel) : Clean view start (channel.settle step) := by
  obtain ⟨same, grown⟩ := leaves channel
  apply settle_cases
  · intro error after ran
    rw [ran] at same grown
    exact (clean.step same grown).fail error
  · intro after ran
    rw [ran] at same grown
    exact clean.step same grown

end Channel

namespace Association

open Channel

variable {ρ : Type} {view : σ → String → ν} {start : σ} {channel : Channel Association ρ σ}

/-- Up to the end nothing is written; a failed pairing has done no harm. -/
structure Blameless (view : σ → String → ν) (start : σ) (channel : Channel Association ρ σ) :
    Prop where
  active : channel.lifecycle = .active → Clean view start channel
  failed : channel.lifecycle = .failed → RolledBack (writes channel.trace.reverse) →
    Unharmed view start channel.storage (writes channel.trace.reverse)

theorem Blameless.of_clean (mapped : PerDevice view) (clean : Clean view start channel) :
    Blameless view start channel where
  active _ := clean
  failed _ _ := by
    rw [writes_reverse, clean.unwritten]
    have none : ∀ write ∈ ([] : List Write), write.1.device? = some "" := nofun
    exact .of_same mapped clean.same none

-- What is established is not failed, and stays so.
theorem Blameless.of_established (established : channel.lifecycle = .established) :
    Blameless view start channel where
  active still := absurd established (not_established_of_active still)
  failed fails := absurd established (not_established_of_failed fails)

omit [KeyStorage σ] in
theorem writes_enrolling (clean : Clean view start channel) (id : String) (events : List Event)
    (storage : σ) : writes (enrolling channel id events storage).trace.reverse = writes events := by
  have told : writes ((released channel).announced id).trace = [] := by
    rw [writes_grown ((announced_grown id (released channel)).mono ?_)]
    · exact clean.unwritten
    · rintro event ⟨rfl, -⟩
      rfl
  change writes (events.reverse ++ ((released channel).announced id).trace).reverse = _
  rw [List.reverse_append, List.reverse_reverse, writes, List.filterMap_append]
  change writes _ ++ writes events = writes events
  rw [writes_reverse, told]
  rfl

-- A refused enrolment is the only failure that can come after a write.
theorem Blameless.of_refused (mapped : PerDevice view) (clean : Clean view start channel)
    {id : String} {key : Key} {secret : Bytes} {events : List Event} {storage : σ}
    {error : StoreError} (refused : ChannelError)
    (enrolled : Enrolled channel.storage channel.now id key secret events storage (.error error)) :
    Blameless view start ((enrolling channel id events storage).fail refused) := by
  have wrote : writes ((enrolling channel id events storage).fail refused).trace.reverse =
      writes events := by
    rw [writes_reverse, fail_unwritten, ← writes_reverse, writes_enrolling clean]
  constructor
  · intro still
    exact absurd still (fail_settled _ _)
  · intro _ back
    rw [wrote] at back ⊢
    rw [fail_storage]
    exact (enrolled.unharmed mapped back).after_same mapped clean.same

theorem blameless_processIdentity (mapped : PerDevice view) (clean : Clean view start channel)
    (active : channel.lifecycle = .active) (payload : Bytes) :
    Blameless view start (channel.settle (processIdentity payload)) := by
  have run := processIdentity_cases payload channel
  unfold settle
  generalize (processIdentity payload).run channel = ran at run ⊢
  cases run with
  | idle unheld => exact .of_clean mapped (clean.fail _)
  | garbled key error held unread =>
      exact .of_clean mapped ((clean.step (.refl view _) (.same rfl)).fail _)
  | enrols key device secret events storage outcome held decoded stores =>
      cases outcome with
      | error error => exact .of_refused mapped clean _ stores
      | ok =>
          obtain ⟨identified, trace, same⟩ := enrolling_frame channel device.toText events storage
          apply Blameless.of_established
          obtain ⟨told, concluded⟩ := concluded_active
            { channel with
              flavor := { channel.flavor with pending := none, deviceId := some device }
              storage, identified, trace } active
          rw [enrolled, same, concluded]

variable [Runner ρ]

theorem blameless_handshake (mapped : PerDevice view) (blameless : Blameless view start channel)
    (payload : Bytes) : Blameless view start (channel.handshake payload) := by
  by_cases active : channel.lifecycle = .active
  · have framed : Clean view start (channel.record (.frame payload)) :=
      (blameless.active active).step (.refl view _) (.one rfl rfl)
    rw [handshake_active channel payload active, settle_process]
    cases state : (channel.record (.frame payload)).state with
    | unknown =>
        exact .of_clean mapped (framed.settle (processInit_inherits leaves_inherited payload))
    | inProgress =>
        exact .of_clean mapped (framed.settle (processFinish_inherits leaves_inherited payload))
    | finished => exact blameless_processIdentity mapped framed active payload
    | _ => exact .of_clean mapped (framed.fail _)
  · rw [handshake_inactive channel payload active]
    exact blameless

theorem perform_blameless (mapped : PerDevice view) (blameless : Blameless view start channel)
    (call : Call) : Blameless view start (perform call channel) := by
  by_cases active : channel.lifecycle = .active
  · have clean := blameless.active active
    cases call with
    | frame payload => exact blameless_handshake mapped blameless payload
    | receive message operation =>
        rw [perform]
        cases receive_cases channel message operation with
        | ignored failed same =>
            rw [same]
            exact blameless
        | told notice living traffic same =>
            rw [same]
            refine .of_clean mapped (clean.step ?_ (grown_notify notice channel fun _ => rfl))
            rw [notify_storage]
            exact .refl view _
        | taken payload living handshakes opened same =>
            rw [same]
            exact blameless_handshake mapped blameless payload
    | send message =>
        rw [perform, send_refused message channel (not_established_of_active active)]
        exact blameless
    | subscribe subscription => exact .of_clean mapped (clean.step (.refl view _) (.same rfl))
    | accept =>
        rw [perform, accept, if_pos active]
        exact .of_clean mapped
          (clean.settle (acceptCode_inherits leaves_inherited (leaves_uniqueId mapped)))
    | listen on => exact .of_clean mapped (clean.step (.refl view _) (.same rfl))
  · by_cases failed : channel.lifecycle = .failed
    · obtain ⟨subscription, listening, same⟩ := perform_failed call channel failed
      rw [same]
      exact ⟨fun still => absurd still active, fun _ back => blameless.failed failed back⟩
    · obtain ⟨⟨session, trace, subscription, listening, same⟩, -⟩ :=
        perform_inert call channel active
      rw [same]
      exact ⟨fun still => absurd still active, fun fails => absurd fails failed⟩

theorem performAll_blameless (mapped : PerDevice view) (calls : List Call)
    (blameless : Blameless view start channel) :
    Blameless view start (performAll calls channel) := by
  induction calls generalizing channel with
  | nil => exact blameless
  | cons call rest ih => exact ih (perform_blameless mapped blameless call)

/-- Over every run of an association with a storage that keeps each device by
itself and changes nothing when it refuses, whichever of its calls it refuses: a
pairing that has failed has changed no key, not even of the device that was
being paired, and of the others nothing at all. -/
theorem failed_pairing_harmless (mapped : PerDevice view) (runner : ρ) (storage : σ)
    (entropy : Entropy) (now : Int) (calls : List Call) :
    let channel := performAll calls (make ({} : Association) runner storage entropy now)
    let written := writes channel.trace.reverse
    channel.lifecycle = .failed → RolledBack written →
      Unharmed view storage channel.storage written := by
  intro channel written failed back
  have fresh : Blameless view storage
      (make ({} : Association) runner storage entropy now) :=
    .of_clean mapped ⟨.refl view storage, rfl⟩
  exact (performAll_blameless mapped calls fresh).failed failed back

namespace Again

/-! A device is paired again, and its new secret is refused. -/

def device : Uuid := ⟨List.replicate 16 3, rfl⟩

def key (byte : UInt8) : Key := ⟨List.replicate 32 byte, List.length_replicate⟩

def runner : ScriptedRunner := .answers
  [.ok { state := .inProgress, next := some [1] },
    .ok { state := .verificationNeeded, code := some "123456" },
    .ok { state := .finished, key := some (key 2) }]

def storage : FaultyStorage :=
  { keys := [(device.toText, key 1)]
    refused := fun kind => if kind = "save_secret" then [0] else [] }

def calls : List Call :=
  [.listen true, .frame [], .frame [], .accept, .frame (Identity.encode device [4])]

def paired : Channel Association ScriptedRunner FaultyStorage :=
  performAll calls (make ({} : Association) runner storage { byteAt := fun _ => 0 } 0)

theorem failed_pairing_harmless_again :
    paired.lifecycle = .failed ∧
      (.saveKey device.toText (key 2), .ok ()) ∈ writes paired.trace.reverse ∧
      KeyStorage.key? paired.storage device.toText = some (key 1) := by
  have failed : paired.lifecycle = .failed := by decide
  have written : writes paired.trace.reverse =
      [(.saveKey device.toText (key 2), .ok ()),
        (.saveSecret device.toText [4], .error (.invalidInput "rejected")),
        (.saveKey device.toText (key 1), .ok ())] := rfl
  have back : RolledBack (writes paired.trace.reverse) := by
    rw [written]
    simp [RolledBack, Write.RefusesSecret]
  have unharmed : Unharmed FaultyStorage.view storage paired.storage
      (writes paired.trace.reverse) :=
    failed_pairing_harmless FaultyStorage.perDevice runner storage { byteAt := fun _ => 0 } 0 calls
      failed back
  refine ⟨failed, ?_, unharmed.keys device.toText⟩
  rw [written]
  exact List.mem_cons_self

end Again

end Association

end CarPairing
