import CarPairing.Proofs.Channel.Emissions

/-!
What the application is told, and how little telling it changes: a channel that
has announced a device or concluded is otherwise as it was.
-/

namespace CarPairing.Channel

variable {φ ρ σ : Type}

/-- The channel once the application knows the device id. -/
def announced (id : String) (channel : Channel φ ρ σ) : Channel φ ρ σ :=
  if channel.lifecycle = .active ∧ channel.identified = false then
    { channel with identified := true }.notify (.deviceId id)
  else channel

def concluded (channel : Channel φ ρ σ) : Channel φ ρ σ :=
  if channel.lifecycle = .active then
    { channel with lifecycle := .established }.notify .established
  else channel

theorem notify_frame (notice : Notice) (channel : Channel φ ρ σ) :
    ∃ trace, channel.notify notice = { channel with trace } := by
  unfold notify
  split
  · exact ⟨_, rfl⟩
  · exact ⟨channel.trace, rfl⟩

theorem concluded_frame (channel : Channel φ ρ σ) :
    ∃ lifecycle trace, channel.concluded = { channel with lifecycle, trace } := by
  unfold concluded
  split
  · obtain ⟨trace, same⟩ := notify_frame .established { channel with lifecycle := .established }
    exact ⟨.established, trace, same⟩
  · exact ⟨channel.lifecycle, channel.trace, rfl⟩

theorem concluded_active (channel : Channel φ ρ σ) (active : channel.lifecycle = .active) :
    ∃ trace, channel.concluded = { channel with lifecycle := .established, trace } := by
  obtain ⟨trace, same⟩ := notify_frame .established { channel with lifecycle := .established }
  refine ⟨trace, ?_⟩
  rw [concluded, if_pos active]
  exact same

/-- What a notice adds to the trace, with or without a listener. -/
def told (notice : Notice) (channel : Channel φ ρ σ) : List Event :=
  if channel.subscription.hears notice then [.notified notice] else []

theorem notify_told (notice : Notice) (channel : Channel φ ρ σ) :
    channel.notify notice = { channel with trace := channel.told notice ++ channel.trace } := by
  unfold notify told
  split
  · rfl
  · rfl

theorem concluded_told (channel : Channel φ ρ σ) (active : channel.lifecycle = .active) :
    channel.concluded = { channel with
      lifecycle := .established, trace := channel.told .established ++ channel.trace } := by
  rw [concluded, if_pos active, notify_told]
  rfl

-- To fail drops the session and what the flavor holds.
theorem fail_active [Flavor φ] (error : ChannelError) (channel : Channel φ ρ σ)
    (active : channel.lifecycle = .active) :
    ∃ trace, channel.fail error = { channel with
      flavor := Flavor.abort channel.flavor, lifecycle := .failed, session := none, trace } := by
  obtain ⟨trace, same⟩ := notify_frame (.failed error)
    { channel with
      flavor := Flavor.abort channel.flavor
      lifecycle := .failed
      session := none
      trace := .aborted :: channel.trace }
  refine ⟨trace, ?_⟩
  rw [fail]
  exact (if_pos active).trans same

theorem fail_identified [Flavor φ] (error : ChannelError) (channel : Channel φ ρ σ) :
    (channel.fail error).identified = channel.identified := by
  unfold fail
  dsimp only
  split
  · unfold notify
    split
    · rfl
    · rfl
  · rfl

theorem settle_identified [Flavor φ] {step : Step φ ρ σ Unit} {channel : Channel φ ρ σ}
    (same : (step.run channel).2.identified = channel.identified) :
    (channel.settle step).identified = channel.identified := by
  apply settle_cases (motive := fun after => after.identified = channel.identified)
  · intro error after ran
    rw [ran] at same
    exact (fail_identified error after).trans same
  · intro after ran
    rw [ran] at same
    exact same

-- To tell the device id concerns only the application.
theorem announced_frame (id : String) (channel : Channel φ ρ σ) :
    ∃ identified trace, channel.announced id = { channel with identified, trace } := by
  unfold announced
  split
  · obtain ⟨trace, same⟩ := notify_frame (.deviceId id) { channel with identified := true }
    exact ⟨true, trace, same⟩
  · exact ⟨channel.identified, channel.trace, rfl⟩

theorem announced_storage (id : String) (channel : Channel φ ρ σ) :
    (channel.announced id).storage = channel.storage := by
  obtain ⟨identified, trace, same⟩ := announced_frame id channel
  rw [same]

theorem announced_now (id : String) (channel : Channel φ ρ σ) :
    (channel.announced id).now = channel.now := by
  obtain ⟨identified, trace, same⟩ := announced_frame id channel
  rw [same]

theorem announced_grown (id : String) (channel : Channel φ ρ σ) :
    Grown (fun event => event = .notified (.deviceId id) ∧
      channel.subscription.hears (.deviceId id) = true) channel (channel.announced id) := by
  unfold announced
  split
  · exact (Grown.same rfl).trans (grown_notify (.deviceId id) _ fun hears => ⟨rfl, hears⟩)
  · exact .refl _ channel

theorem announced_news (id : String) (channel : Channel φ ρ σ)
    (active : channel.lifecycle = .active) (unidentified : channel.identified = false)
    (hears : channel.subscription.hears (.deviceId id) = true) :
    .notified (.deviceId id) ∈ news channel (channel.announced id) := by
  have told : channel.announced id =
      { channel with identified := true }.record (.notified (.deviceId id)) := by
    rw [announced, if_pos ⟨active, unidentified⟩, notify, if_pos hears]
  rw [told, news_of_trace channel _ [.notified (.deviceId id)] rfl]
  exact List.mem_singleton_self _

theorem concluded_settled (channel : Channel φ ρ σ) : channel.concluded.lifecycle ≠ .active := by
  unfold concluded
  split
  · obtain ⟨trace, same⟩ := notify_frame .established { channel with lifecycle := .established }
    rw [same]
    exact nofun
  next ended => exact ended

theorem concluded_grown {kind : Event → Prop} (channel : Channel φ ρ σ)
    (established : kind (.notified .established)) : Grown kind channel channel.concluded := by
  unfold concluded
  split
  · exact (Grown.same rfl).trans (grown_notify .established _ fun _ => established)
  · exact .refl _ channel

end CarPairing.Channel
