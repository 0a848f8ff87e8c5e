import CarPairing.Proofs.Channel.Frames
import CarPairing.Proofs.Channel.Records

/-!
A channel that has ended one way or the other. A failed one does nothing any
more; one that is established carries messages of the application, and touches
neither the runner nor the storage for them.
-/

namespace CarPairing

/-- A message of the application sent, or a notice about a frame. -/
def Event.Traffic : Event → Prop
  | .sent .client _ => True
  | .notified notice => notice.Traffic
  | _ => False

theorem Event.Traffic.aside {event : Event} (traffic : event.Traffic) : event.Aside := by
  cases event with
  | sent operation message => exact ⟨rfl, rfl⟩
  | notified notice => exact ⟨rfl, rfl⟩
  | _ => exact absurd traffic not_false

namespace Channel

variable {φ ρ σ : Type}

/-- Only the session has moved on, and only for traffic. -/
structure Inert (before after : Channel φ ρ σ) : Prop where
  frame : ∃ session trace, after = { before with session, trace }
  traffic : Grown Event.Traffic before after

theorem Inert.refl (channel : Channel φ ρ σ) : Inert channel channel :=
  ⟨⟨channel.session, channel.trace, rfl⟩, .refl _ channel⟩

/-- Neither the runner nor the storage nor the entropy has been made use of, and
the channel is as far as it was. -/
structure Untouched (before after : Channel φ ρ σ) : Prop where
  runner : after.runner = before.runner
  storage : after.storage = before.storage
  entropy : after.entropy = before.entropy
  state : after.state = before.state
  lifecycle : after.lifecycle = before.lifecycle

/-- A channel that has ended has ended for every call that can be made to it. -/
structure Quiescent {κ : Type} (perform : κ → Channel φ ρ σ → Channel φ ρ σ)
    (channel : Channel φ ρ σ) : Prop where
  dead : channel.lifecycle = .failed → ∀ call, Untouched channel (perform call channel) ∧
    (perform call channel).session = channel.session ∧
    (perform call channel).trace = channel.trace
  refused : channel.lifecycle = .failed → ∀ message,
    (channel.send message).1 = .error (.invalidState "channel is not established")
  inert : channel.lifecycle = .established → ∀ call, Untouched channel (perform call channel) ∧
    Grown Event.Traffic channel (perform call channel)

theorem not_established_of_failed {channel : Channel φ ρ σ}
    (failed : channel.lifecycle = .failed) : channel.lifecycle ≠ .established := by
  rw [failed]
  exact nofun

theorem not_active_of_failed {channel : Channel φ ρ σ} (failed : channel.lifecycle = .failed) :
    channel.lifecycle ≠ .active := by
  rw [failed]
  exact nofun

variable (channel : Channel φ ρ σ)

theorem inert_notify (notice : Notice) (traffic : notice.Traffic) :
    Inert channel (channel.notify notice) := by
  obtain ⟨trace, same⟩ := notify_frame notice channel
  constructor
  · exact ⟨channel.session, trace, same⟩
  · exact grown_notify notice channel fun _ => traffic

theorem inert_send (message : DeviceMessage) : Inert channel (channel.send message).2 :=
  ⟨send_frame message channel, send_grown message channel fun _ => trivial⟩

variable [Flavor φ] [Runner ρ] [KeyStorage σ]

theorem receive_failed (message : DeviceMessage) (operation : Operation)
    (failed : channel.lifecycle = .failed) : channel.receive message operation = channel := by
  rw [receive, if_pos failed]

theorem inert_receive (message : DeviceMessage) (operation : Operation)
    (ended : channel.lifecycle ≠ .active) : Inert channel (channel.receive message operation) := by
  cases receive_cases channel message operation with
  | ignored failed same =>
      rw [same]
      exact .refl channel
  | told notice living traffic same =>
      rw [same]
      exact inert_notify channel notice traffic
  | taken payload living handshakes opened same =>
      rw [same, handshake_inactive channel payload ended]
      exact .refl channel

end Channel

end CarPairing
