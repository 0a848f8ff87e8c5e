import CarPairing.Proofs.Reconnect.Calls

/-!
How long a reconnection keeps the stored key: from the first frame until it is
used or the channel ends.
-/

namespace CarPairing.Reconnect

open Channel

variable {ρ σ : Type} {channel : Channel Reconnect ρ σ}

structure Custody (channel : Channel Reconnect ρ σ) : Prop where
  failed : channel.lifecycle = .failed →
    channel.session = none ∧ channel.flavor.previous = none
  established : channel.lifecycle = .established → channel.flavor.previous = none

theorem custody_active (active : channel.lifecycle = .active) : Custody channel where
  failed failed := absurd failed (not_failed_of_active active)
  established established := absurd established (not_established_of_active active)

theorem custody_fail (error : ChannelError) (active : channel.lifecycle = .active) :
    Custody (channel.fail error) := by
  obtain ⟨trace, same⟩ := fail_active error channel active
  rw [same]
  exact ⟨fun _ => ⟨rfl, rfl⟩, nofun⟩

theorem custody_agreeing {after : Channel Reconnect ρ σ} {step : Step ρ σ Unit}
    (active : channel.lifecycle = .active) (ran : (step.run channel).2 = after)
    (agreeing : Agreeing channel after) : Custody (channel.settle step) := by
  have still : after.lifecycle = .active := by
    obtain ⟨runner, entropy, state, previous, trace, same⟩ := agreeing
    rw [same]
    exact active
  apply settle_cases
  · rintro error other failed
    rw [failed] at ran
    cases ran
    exact custody_fail error still
  · rintro other succeeded
    rw [succeeded] at ran
    cases ran
    exact custody_active still

variable [Runner ρ] [KeyStorage σ]

theorem custody_processProof (payload : Bytes) (active : channel.lifecycle = .active) :
    Custody (channel.settle (processProof payload)) := by
  have run := processProof_cases payload channel
  have still {after : Channel Reconnect ρ σ} (resumed : Resumed channel after) :
      after.lifecycle = .active ∧ after.flavor.previous = none := by
    obtain ⟨runner, storage, entropy, session, state, trace, same⟩ := resumed.frame
    rw [same]
    exact ⟨active, rfl⟩
  apply settle_cases
  · rintro error after failed
    rw [failed] at run
    cases run with
    | refused _ _ resumed => exact custody_fail error (still resumed).1
  · rintro after succeeded
    rw [succeeded] at run
    cases run with
    | concludes before resumed =>
        obtain ⟨living, unheld⟩ := still resumed
        obtain ⟨trace, concluded⟩ := concluded_active before living
        rw [concluded]
        exact ⟨nofun, fun _ => unheld⟩

theorem custody_handshake (payload : Bytes) (custody : Custody channel) :
    Custody (channel.handshake payload) := by
  by_cases active : channel.lifecycle = .active
  · rw [handshake_active channel payload active, settle_process]
    cases state : (channel.record (.frame payload)).state with
    | unknown => exact custody_agreeing active rfl (processInit_agreeing payload _)
    | inProgress => exact custody_agreeing active rfl (processFinish_agreeing payload _).1
    | resumingSession => exact custody_processProof payload active
    | _ => exact custody_fail _ active
  · rw [handshake_inactive channel payload active]
    exact custody

theorem perform_custody (call : Call) (custody : Custody channel) :
    Custody (perform call channel) := by
  cases call with
  | frame payload => exact custody_handshake payload custody
  | receive message operation =>
      rw [perform]
      cases receive_cases channel message operation with
      | ignored failed same =>
          rw [same]
          exact custody
      | told notice living traffic same =>
          obtain ⟨trace, frame⟩ := notify_frame notice channel
          rw [same, frame]
          exact ⟨custody.failed, custody.established⟩
      | taken payload living handshakes opened same =>
          rw [same]
          exact custody_handshake payload custody
  | send message =>
      rw [perform]
      by_cases established : channel.lifecycle = .established
      · obtain ⟨session, trace, same⟩ := send_frame message channel
        rw [same]
        refine ⟨?_, custody.established⟩
        rintro (failed : channel.lifecycle = .failed)
        rw [established] at failed
        cases failed
      · rw [send_refused message channel established]
        exact custody
  | subscribe subscription => exact ⟨custody.failed, custody.established⟩

theorem performAll_custody (calls : List Call) (custody : Custody channel) :
    Custody (performAll calls channel) := by
  induction calls generalizing channel with
  | nil => exact custody
  | cons call rest ih => exact ih (perform_custody call custody)

end CarPairing.Reconnect
