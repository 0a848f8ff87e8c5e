import CarPairing.Proofs.Channel.Frames
import CarPairing.Proofs.Channel.Records

/-!
What one call does to the things that happen once. Each has a latch: it happens
only while its latch is open, and shuts it. The end of the handshake has the
lifecycle for a latch, the naming of the device a flag of its own, and the code
the state of the handshake, which never goes down. Turns follow one another, so
that what holds of a step of a handshake holds of a run.
-/

namespace CarPairing

/-- The order in which a handshake goes through its states. Those in between
are alternatives. -/
def HandshakeState.rank : HandshakeState → Nat
  | .unknown => 0
  | .inProgress => 1
  | .verificationNeeded => 2
  | .oobVerificationNeeded => 2
  | .resumingSession => 2
  | .finished => 3

theorem Notice.Traffic.silent {notice : Notice} (traffic : notice.Traffic) :
    (Event.notified notice).Silent := by
  cases notice with
  | message message => exact ⟨rfl, rfl, rfl⟩
  | messageError error => exact ⟨rfl, rfl, rfl⟩
  | _ => exact absurd traffic not_false

namespace Channel

variable {φ ρ σ α : Type}

/-- Nothing new is on record, or one thing that shuts the latch. -/
inductive Trips (isOpen : Channel φ ρ σ → Prop) (fired : List Event → List α)
    (before after : Channel φ ρ σ) : Prop where
  | rests (same : fired after.trace = fired before.trace) (still : isOpen after → isOpen before)
  | fires (value : α) (once : fired after.trace = value :: fired before.trace)
      (opened : isOpen before) (shut : ¬isOpen after)

/-- Nothing has happened while the latch is open, and one thing at most ever. -/
structure Latched (isOpen : Channel φ ρ σ → Prop) (fired : List Event → List α)
    (channel : Channel φ ρ σ) : Prop where
  idle : isOpen channel → fired channel.trace = []
  once : (fired channel.trace).length ≤ 1

section Trips

variable {isOpen : Channel φ ρ σ → Prop} {fired : List Event → List α}
variable {before middle after : Channel φ ρ σ}

theorem Trips.trans (first : Trips isOpen fired before middle)
    (second : Trips isOpen fired middle after) : Trips isOpen fired before after := by
  cases first with
  | rests same still =>
      cases second with
      | rests same' still' => exact .rests (same'.trans same) fun opened => still (still' opened)
      | fires value once opened shut =>
          exact .fires value (once.trans (congrArg _ same)) (still opened) shut
  | fires value once opened shut =>
      cases second with
      | rests same still =>
          exact .fires value (same.trans once) opened fun opened' => shut (still opened')
      | fires value' once' opened' shut' => exact absurd opened' shut

theorem Latched.trips (latched : Latched isOpen fired before)
    (trips : Trips isOpen fired before after) : Latched isOpen fired after := by
  cases trips with
  | rests same still =>
      constructor
      · intro opened
        rw [same]
        exact latched.idle (still opened)
      · rw [same]
        exact latched.once
  | fires value once opened shut =>
      constructor
      · intro opened'
        exact absurd opened' shut
      · rw [once, latched.idle opened]
        exact Nat.le_refl 1

end Trips

/-- What a call does to the state and to the three latches. -/
structure Turn (before after : Channel φ ρ σ) : Prop where
  climbs : before.state.rank ≤ after.state.rank
  outcome : Trips (fun channel => channel.lifecycle = .active) outcomes before after
  identity : Trips (fun channel => channel.identified = false) identities before after
  code : Trips (fun channel => channel.state.rank ≤ 1) codes before after

/-- What is true of the three latches at any time. -/
structure OneShot (channel : Channel φ ρ σ) : Prop where
  outcome : Latched (fun channel => channel.lifecycle = .active) outcomes channel
  identity : Latched (fun channel => channel.identified = false) identities channel
  code : Latched (fun channel => channel.state.rank ≤ 1) codes channel

variable {before middle after : Channel φ ρ σ}

theorem Turn.trans (first : Turn before middle) (second : Turn middle after) :
    Turn before after where
  climbs := Nat.le_trans first.climbs second.climbs
  outcome := first.outcome.trans second.outcome
  identity := first.identity.trans second.identity
  code := first.code.trans second.code

theorem OneShot.turn (oneShot : OneShot before) (turn : Turn before after) : OneShot after where
  outcome := oneShot.outcome.trips turn.outcome
  identity := oneShot.identity.trips turn.identity
  code := oneShot.code.trips turn.code

-- Silent events touch no latch, but the state may still climb.
theorem Turn.silent (grown : Grown Event.Silent before after)
    (lifecycle : after.lifecycle = before.lifecycle)
    (identified : after.identified = before.identified)
    (climbs : before.state.rank ≤ after.state.rank) : Turn before after where
  climbs := climbs
  outcome := .rests (outcomes_silent grown) lifecycle.symm.trans
  identity := .rests (identities_silent grown) identified.symm.trans
  code := .rests (codes_silent grown) (Nat.le_trans climbs)

theorem Turn.refl (channel : Channel φ ρ σ) : Turn channel channel :=
  .silent (.refl _ channel) rfl rfl (Nat.le_refl _)

theorem turn_flavor (flavor : φ) (channel : Channel φ ρ σ) : Turn channel { channel with flavor } :=
  .silent (.same rfl) rfl rfl (Nat.le_refl _)

theorem turn_record {event : Event} (channel : Channel φ ρ σ) (silent : event.Silent) :
    Turn channel (channel.record event) :=
  .silent (.one rfl silent) rfl rfl (Nat.le_refl _)

theorem turn_traffic {notice : Notice} (channel : Channel φ ρ σ) (traffic : notice.Traffic) :
    Turn channel (channel.notify notice) := by
  have grown : Grown Event.Silent channel (channel.notify notice) :=
    grown_notify notice channel fun _ => traffic.silent
  obtain ⟨trace, same⟩ := notify_frame notice channel
  rw [same] at grown ⊢
  exact .silent grown rfl rfl (Nat.le_refl _)

-- An end that is told, or would be if anybody listened.
theorem turn_closed {closed : Channel φ ρ σ} {notice value : Notice}
    (grown : Grown Event.Silent before closed) (active : before.lifecycle = .active)
    (shut : closed.lifecycle ≠ .active) (state : closed.state = before.state)
    (identified : closed.identified = before.identified)
    (outcome : (Event.notified notice).outcome? = some value)
    (anonymous : (Event.notified notice).identity? = none) :
    Turn before (closed.notify notice) := by
  have climbs : before.state.rank ≤ closed.state.rank := Nat.le_of_eq (congrArg _ state.symm)
  unfold notify
  split
  · constructor
    · exact climbs
    · refine .fires value ?_ active shut
      rw [← outcomes_silent grown]
      exact List.filterMap_cons_some outcome
    · refine .rests ?_ identified.symm.trans
      rw [← identities_silent grown]
      exact List.filterMap_cons_none anonymous
    · refine .rests ?_ (Nat.le_trans climbs)
      rw [← codes_silent grown]
      exact List.filterMap_cons_none rfl
  · constructor
    · exact climbs
    · exact .rests (outcomes_silent grown) fun opened => absurd opened shut
    · exact .rests (identities_silent grown) identified.symm.trans
    · exact .rests (codes_silent grown) (Nat.le_trans climbs)

theorem turn_concluded (channel : Channel φ ρ σ) : Turn channel channel.concluded := by
  unfold concluded
  by_cases active : channel.lifecycle = .active
  · rw [if_pos active]
    exact turn_closed (.same rfl) active nofun rfl rfl rfl rfl
  · rw [if_neg active]
    exact .refl channel

theorem turn_announced (device : String) (channel : Channel φ ρ σ) :
    Turn channel (channel.announced device) := by
  unfold announced
  by_cases unnamed : channel.lifecycle = .active ∧ channel.identified = false
  · rw [if_pos unnamed]
    unfold notify
    split
    · exact ⟨Nat.le_refl _, .rests rfl id, .fires device rfl unnamed.2 nofun, .rests rfl id⟩
    · exact ⟨Nat.le_refl _, .rests rfl id, .rests rfl nofun, .rests rfl id⟩
  · rw [if_neg unnamed]
    exact .refl channel

theorem turn_send (message : DeviceMessage) (channel : Channel φ ρ σ) :
    Turn channel (channel.send message).2 := by
  have grown : Grown Event.Silent channel (channel.send message).2 :=
    send_grown message channel fun _ => ⟨rfl, rfl, rfl⟩
  obtain ⟨session, trace, same⟩ := send_frame message channel
  rw [same] at grown ⊢
  exact .silent grown rfl rfl (Nat.le_refl _)

section Flavors

variable [Flavor φ]

theorem turn_fail (error : ChannelError) (channel : Channel φ ρ σ) :
    Turn channel (channel.fail error) := by
  have aborted : Event.Silent .aborted := ⟨rfl, rfl, rfl⟩
  unfold fail
  dsimp only
  split
  next active => exact turn_closed (.one rfl aborted) active nofun rfl rfl rfl rfl
  · exact .silent (.one rfl aborted) rfl rfl (Nat.le_refl _)

theorem turn_settle {step : Step φ ρ σ Unit} {channel : Channel φ ρ σ}
    (turn : Turn channel (step.run channel).2) : Turn channel (channel.settle step) := by
  apply settle_cases
  · intro error after ran
    rw [ran] at turn
    exact turn.trans (turn_fail error after)
  · intro after ran
    rw [ran] at turn
    exact turn

variable [Runner ρ] [KeyStorage σ]

-- A flavor whose frames take turns keeps to them, however they come in.
theorem turn_handshake
    (frames : ∀ payload channel,
      Turn channel ((Flavor.process payload : Step φ ρ σ Unit).run channel).2)
    (payload : Bytes) (channel : Channel φ ρ σ) : Turn channel (channel.handshake payload) := by
  by_cases active : channel.lifecycle = .active
  · rw [handshake_active channel payload active]
    exact (turn_record channel ⟨rfl, rfl, rfl⟩).trans (turn_settle (frames payload _))
  · rw [handshake_inactive channel payload active]
    exact .refl channel

theorem turn_receive
    (frames : ∀ payload channel,
      Turn channel ((Flavor.process payload : Step φ ρ σ Unit).run channel).2)
    (message : DeviceMessage) (operation : Operation) (channel : Channel φ ρ σ) :
    Turn channel (channel.receive message operation) := by
  cases receive_cases channel message operation with
  | ignored failed same =>
      rw [same]
      exact .refl channel
  | told notice living traffic same =>
      rw [same]
      exact turn_traffic channel traffic
  | taken payload living handshakes opened same =>
      rw [same]
      exact turn_handshake frames payload channel

end Flavors

/-- The end of the handshake is told once, good or bad; a device is named once
and a code shown once. -/
structure Orderly (events : List Event) : Prop where
  outcome : (outcomes events).length ≤ 1
  identity : (identities events).length ≤ 1
  code : (codes events).length ≤ 1

theorem orderly_reverse {events : List Event} (orderly : Orderly events) :
    Orderly events.reverse := by
  have outcome := orderly.outcome
  have identity := orderly.identity
  have code := orderly.code
  unfold outcomes at outcome
  unfold identities at identity
  unfold codes at code
  constructor
  · rw [outcomes, List.filterMap_reverse, List.length_reverse]
    exact outcome
  · rw [identities, List.filterMap_reverse, List.length_reverse]
    exact identity
  · rw [codes, List.filterMap_reverse, List.length_reverse]
    exact code

theorem Turn.orderly {before after : Channel φ ρ σ} (turn : Turn before after)
    (fresh : OneShot before) : Orderly after.trace.reverse := by
  have oneShot := fresh.turn turn
  exact orderly_reverse ⟨oneShot.outcome.once, oneShot.identity.once, oneShot.code.once⟩

theorem oneShot_make [Flavor φ] [Runner ρ] (flavor : φ) (runner : ρ) (storage : σ)
    (entropy : Entropy) (now : Int) : OneShot (make flavor runner storage entropy now) := by
  unfold make
  cases Flavor.resumes flavor with
  | none => exact ⟨⟨fun _ => rfl, Nat.zero_le 1⟩, ⟨fun _ => rfl, Nat.zero_le 1⟩,
      ⟨fun _ => rfl, Nat.zero_le 1⟩⟩
  | some on => exact ⟨⟨fun _ => rfl, Nat.zero_le 1⟩, ⟨fun _ => rfl, Nat.zero_le 1⟩,
      ⟨fun _ => rfl, Nat.zero_le 1⟩⟩

end Channel

end CarPairing
