import CarPairing.Proofs.Channel.Settled
import CarPairing.Proofs.Reconnect.Answers

/-!
Everything that can be done to a reconnection from outside, in any order. Each
call is a turn, whatever runner and storage there are, and none names a device.
-/

namespace CarPairing.Reconnect

open Channel

inductive Call where
  /-- A handshake frame in clear. -/
  | frame (payload : Bytes)
  | receive (message : DeviceMessage) (operation : Operation)
  | send (message : DeviceMessage)
  | subscribe (subscription : Subscription)

variable {ρ σ : Type} [Runner ρ]

theorem turn_processFinish (message : Bytes) (channel : Channel Reconnect ρ σ)
    (inProgress : channel.state = .inProgress) :
    Turn channel ((processFinish message : Step ρ σ Unit).run channel).2 := by
  have grown : Grown Event.Silent channel ((processFinish message : Step ρ σ Unit).run channel).2 :=
    processFinish_emits message (fun _ _ => ⟨rfl, rfl, rfl⟩) channel
  obtain ⟨⟨runner, entropy, state, previous, trace, same⟩, reached⟩ :=
    processFinish_agreeing message channel
  rw [same] at grown reached ⊢
  apply Turn.silent grown rfl rfl
  rcases reached with kept | resumes
  · exact Nat.le_of_eq (congrArg _ kept.symm)
  · rw [inProgress, resumes]
    decide

variable [KeyStorage σ]

def perform (call : Call) (channel : Channel Reconnect ρ σ) : Channel Reconnect ρ σ :=
  match call with
  | .frame payload => channel.handshake payload
  | .receive message operation => channel.receive message operation
  | .send message => (channel.send message).2
  | .subscribe subscription => channel.subscribe subscription

def performAll (calls : List Call) (channel : Channel Reconnect ρ σ) : Channel Reconnect ρ σ :=
  calls.foldl (fun channel call => perform call channel) channel

theorem performAll_append (earlier later : List Call) (channel : Channel Reconnect ρ σ) :
    performAll (earlier ++ later) channel = performAll later (performAll earlier channel) :=
  List.foldl_append

/-- A channel for a device that is paired, before its first frame. -/
def paired (runner : ρ) (device : String) (storage : σ) (entropy : Entropy) (now : Int) :
    Channel Reconnect ρ σ :=
  Channel.make { deviceId := device } runner storage entropy now

-- The state decides what a handshake frame is taken for.
theorem run_process (payload : Bytes) (channel : Channel Reconnect ρ σ) :
    (Flavor.process payload : Step ρ σ Unit).run channel =
      (match channel.state with
      | .unknown => processInit payload
      | .inProgress => processFinish payload
      | .resumingSession => processProof payload
      | other => throw (ChannelError.invalidState
          s!"unexpected handshake message in state {other.name}")).run channel := by
  change (process payload : Step ρ σ Unit).run channel = _
  rw [process, Step.run_bind]
  rfl

theorem settle_process (payload : Bytes) (channel : Channel Reconnect ρ σ) :
    channel.settle (Flavor.process payload) =
      match channel.state with
      | .unknown => channel.settle (processInit payload)
      | .inProgress => channel.settle (processFinish payload)
      | .resumingSession => channel.settle (processProof payload)
      | other => channel.settle
          (throw (.invalidState s!"unexpected handshake message in state {other.name}")) := by
  unfold settle
  rw [run_process]
  cases channel.state <;> rfl

theorem turn_processInit (message : Bytes) (channel : Channel Reconnect ρ σ)
    (unknown : channel.state = .unknown) :
    Turn channel ((processInit message : Step ρ σ Unit).run channel).2 := by
  have grown : Grown Event.Silent channel ((processInit message : Step ρ σ Unit).run channel).2 :=
    processInit_emits message (fun _ _ => ⟨rfl, rfl, rfl⟩) (fun _ => ⟨rfl, rfl, rfl⟩)
      (fun _ => ⟨rfl, rfl, rfl⟩) channel
  obtain ⟨runner, entropy, state, previous, trace, same⟩ := processInit_agreeing message channel
  rw [same] at grown ⊢
  apply Turn.silent grown rfl rfl
  rw [unknown]
  exact Nat.zero_le _

theorem turn_processProof (message : Bytes) (channel : Channel Reconnect ρ σ) :
    Turn channel ((processProof message : Step ρ σ Unit).run channel).2 := by
  have turn {after : Channel Reconnect ρ σ} (resumed : Resumed channel after) :
      Turn channel after := by
    have silent := resumed.silent
    have climbs := resumed.climbs
    obtain ⟨runner, storage, entropy, session, state, trace, same⟩ := resumed.frame
    rw [same] at silent climbs ⊢
    exact .silent silent rfl rfl climbs
  have run := processProof_cases message channel
  generalize (processProof message : Step ρ σ Unit).run channel = ran at run ⊢
  cases run with
  | refused error after resumed => exact turn resumed
  | concludes after resumed => exact (turn resumed).trans (turn_concluded after)

theorem turn_process (payload : Bytes) (channel : Channel Reconnect ρ σ) :
    Turn channel ((Flavor.process payload : Step ρ σ Unit).run channel).2 := by
  rw [run_process]
  cases state : channel.state with
  | unknown => exact turn_processInit payload channel state
  | inProgress => exact turn_processFinish payload channel state
  | resumingSession => exact turn_processProof payload channel
  | _ => exact .refl channel

theorem perform_turn (call : Call) (channel : Channel Reconnect ρ σ) :
    Turn channel (perform call channel) := by
  cases call with
  | frame payload => exact turn_handshake turn_process payload channel
  | receive message operation => exact turn_receive turn_process message operation channel
  | send message => exact turn_send message channel
  | subscribe subscription => exact .silent (.same rfl) rfl rfl (Nat.le_refl _)

theorem performAll_turn (calls : List Call) (channel : Channel Reconnect ρ σ) :
    Turn channel (performAll calls channel) := by
  induction calls generalizing channel with
  | nil => exact .refl channel
  | cons call rest ih => exact (perform_turn call channel).trans (ih (perform call channel))

theorem process_identified (payload : Bytes) (channel : Channel Reconnect ρ σ) :
    ((Flavor.process payload : Step ρ σ Unit).run channel).2.identified = channel.identified := by
  have agrees {after : Channel Reconnect ρ σ} (agreeing : Agreeing channel after) :
      after.identified = channel.identified := by
    obtain ⟨runner, entropy, state, previous, trace, same⟩ := agreeing
    rw [same]
  rw [run_process]
  cases state : channel.state with
  | unknown => exact agrees (processInit_agreeing payload channel)
  | inProgress => exact agrees (processFinish_agreeing payload channel).1
  | resumingSession =>
      have run := processProof_cases payload channel
      dsimp only
      generalize (processProof payload : Step ρ σ Unit).run channel = ran at run ⊢
      cases run with
      | refused error after resumed =>
          obtain ⟨runner, storage, entropy, session, state, trace, same⟩ := resumed.frame
          rw [same]
      | concludes after resumed =>
          obtain ⟨lifecycle, told, concluded⟩ := concluded_frame after
          obtain ⟨runner, storage, entropy, session, state, trace, same⟩ := resumed.frame
          rw [concluded, same]
  | _ => rfl

theorem perform_identified (call : Call) (channel : Channel Reconnect ρ σ) :
    (perform call channel).identified = channel.identified := by
  have handled (payload : Bytes) : (channel.handshake payload).identified = channel.identified := by
    by_cases active : channel.lifecycle = .active
    · rw [handshake_active channel payload active]
      exact settle_identified (process_identified payload _)
    · rw [handshake_inactive channel payload active]
  cases call with
  | frame payload => exact handled payload
  | receive message operation =>
      rw [perform]
      cases receive_cases channel message operation with
      | ignored failed same => rw [same]
      | told notice living traffic same =>
          obtain ⟨trace, frame⟩ := notify_frame notice channel
          rw [same, frame]
      | taken payload living handshakes opened same =>
          rw [same]
          exact handled payload
  | send message =>
      obtain ⟨session, trace, same⟩ := send_frame message channel
      rw [perform, same]
  | subscribe subscription => rfl

theorem performAll_identified (calls : List Call) (channel : Channel Reconnect ρ σ) :
    (performAll calls channel).identified = channel.identified := by
  induction calls generalizing channel with
  | nil => rfl
  | cons call rest ih => exact (ih (perform call channel)).trans (perform_identified call channel)

-- A latch that is still open has not been used.
theorem performAll_unnamed (calls : List Call) (runner : ρ) (device : String) (storage : σ)
    (entropy : Entropy) (now : Int) :
    identities (performAll calls (paired runner device storage entropy now)).trace = [] := by
  have oneShot : OneShot (paired runner device storage entropy now) :=
    oneShot_make _ runner storage entropy now
  have latched := (oneShot.turn (performAll_turn calls _)).identity
  exact latched.idle (performAll_identified calls _)

-- What is left to do to a failed channel is to listen to it.
theorem perform_failed (call : Call) (channel : Channel Reconnect ρ σ)
    (failed : channel.lifecycle = .failed) :
    ∃ subscription, perform call channel = { channel with subscription } := by
  have inactive := not_active_of_failed failed
  have unestablished := not_established_of_failed failed
  cases call with
  | frame payload => exact ⟨channel.subscription, handshake_inactive channel payload inactive⟩
  | receive message operation =>
      exact ⟨channel.subscription, receive_failed channel message operation failed⟩
  | send message =>
      exact ⟨channel.subscription, congrArg Prod.snd (send_refused message channel unestablished)⟩
  | subscribe subscription => exact ⟨subscription, rfl⟩

theorem perform_inert (call : Call) (channel : Channel Reconnect ρ σ)
    (ended : channel.lifecycle ≠ .active) :
    (∃ session trace subscription, perform call channel =
        { channel with session, trace, subscription }) ∧
      Grown Event.Traffic channel (perform call channel) := by
  have settled (after : Channel Reconnect ρ σ) (inert : Inert channel after) :
      (∃ session trace subscription, after = { channel with session, trace, subscription }) ∧
        Grown Event.Traffic channel after := by
    obtain ⟨session, trace, same⟩ := inert.frame
    exact ⟨⟨session, trace, channel.subscription, same⟩, inert.traffic⟩
  cases call with
  | frame payload =>
      rw [perform, handshake_inactive channel payload ended]
      exact settled _ (.refl channel)
  | receive message operation => exact settled _ (inert_receive channel message operation ended)
  | send message => exact settled _ (inert_send channel message)
  | subscribe subscription => exact ⟨⟨channel.session, channel.trace, subscription, rfl⟩, .same rfl⟩

end CarPairing.Reconnect
