import CarPairing.Companion
import CarPairing.Proofs.Channel.Notices

/-!
A frame of the peer on its way to the handshake. It is opened if it is sealed,
and is taken only by a channel that is still active; all that can become of it
besides is a notice to the application.
-/

namespace CarPairing

/-- Notices about frames that the handshake does not take. -/
def Notice.Traffic : Notice → Prop
  | .message _ => True
  | .messageError _ => True
  | _ => False

-- Who listens at all hears how the handshake goes.
theorem Subscription.hears_handshake {subscription : Subscription}
    (listens : subscription ≠ .nothing)
    {notice : Notice} (own : ¬notice.Traffic) : subscription.hears notice = true := by
  cases subscription with
  | nothing => exact absurd rfl listens
  | everything => rfl
  | lifecycle =>
      cases notice with
      | message message => exact absurd trivial own
      | messageError error => exact absurd trivial own
      | _ => rfl

namespace Channel

variable {φ ρ σ : Type} [Flavor φ] [Runner ρ] [KeyStorage σ] (channel : Channel φ ρ σ)

theorem handshake_active (payload : Bytes) (active : channel.lifecycle = .active) :
    channel.handshake payload =
      (channel.record (.frame payload)).settle (Flavor.process payload) := by
  rw [handshake, if_pos active]

theorem handshake_inactive (payload : Bytes) (ended : channel.lifecycle ≠ .active) :
    channel.handshake payload = channel := by
  rw [handshake, if_neg ended]

/-- What a frame comes to: nothing, a notice, or a step of the handshake. -/
inductive Received (message : DeviceMessage) (operation : Operation) (after : Channel φ ρ σ) :
    Prop where
  | ignored (failed : channel.lifecycle = .failed) (same : after = channel)
  | told (notice : Notice) (living : channel.lifecycle ≠ .failed) (traffic : notice.Traffic)
      (same : after = channel.notify notice)
  | taken (payload : Bytes) (living : channel.lifecycle ≠ .failed)
      (handshakes : operation = .handshake) (opened : channel.opened message = .ok payload)
      (same : after = channel.handshake payload)

theorem receive_cases (message : DeviceMessage) (operation : Operation) :
    Received channel message operation (channel.receive message operation) := by
  rw [receive]
  by_cases failed : channel.lifecycle = .failed
  · rw [if_pos failed]
    exact .ignored failed rfl
  · rw [if_neg failed]
    cases opened : channel.opened message with
    | error error => exact .told (.messageError error) failed trivial rfl
    | ok payload =>
        cases operation with
        | handshake => exact .taken payload failed rfl opened rfl
        | client =>
            dsimp only
            split
            · exact .told (.message _) failed trivial rfl
            · exact .told (.messageError _) failed trivial rfl

theorem receive_opened (message : DeviceMessage) (payload : Bytes)
    (living : channel.lifecycle ≠ .failed) (opened : channel.opened message = .ok payload) :
    channel.receive message .handshake = channel.handshake payload := by
  rw [receive, if_neg living, opened]

theorem receive_clear (payload : Bytes) (living : channel.lifecycle ≠ .failed) :
    channel.receive (Companion.clear payload) .handshake = channel.handshake payload :=
  receive_opened channel _ payload living rfl

theorem receive_sealed (payload plain : Bytes) (session : Session)
    (living : channel.lifecycle ≠ .failed) (installed : channel.session = some session)
    (opens : session.unwrap payload = .ok plain) :
    channel.receive { encrypted := true, payload } .handshake = channel.handshake plain := by
  apply receive_opened channel _ plain living
  simp only [opened, installed, opens, if_true]

end Channel

end CarPairing
