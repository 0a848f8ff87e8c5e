import CarPairing.Link
import CarPairing.Proofs.Step

/-!
The steps of a link as functions of it. An end is called with the stream of the
link in place of its own, and what it leaves of the stream is for the next call.
-/

namespace CarPairing.Link

variable {φ ρ σ α : Type} (link : Link φ ρ σ)

def readyCar : Channel φ ρ σ :=
  { link.car with entropy := link.entropy }

def readyPhone : Companion ρ :=
  { link.phone with entropy := link.entropy }

def withCar (car : Channel φ ρ σ) : Link φ ρ σ :=
  { link with car, entropy := car.entropy }

def withPhone (phone : Companion ρ) : Link φ ρ σ :=
  { link with phone, entropy := phone.entropy }

theorem run_onCar (act : Channel φ ρ σ → Channel φ ρ σ) (carOpen : link.carOpen = true) :
    (onCar act : Step φ ρ σ Unit).run link = (.ok (), link.withCar (act link.readyCar)) := by
  rw [onCar, Step.run_modify, if_pos carOpen]
  rfl

theorem run_onPhone (act : Companion ρ → Except ChannelError α × Companion ρ) :
    (onPhone act : Step φ ρ σ (Except ChannelError α)).run link =
      (.ok (act link.readyPhone).1, link.withPhone (act link.readyPhone).2) := rfl

variable [Runner ρ]

theorem run_phoneAccepts {phone : Companion ρ}
    (accepted : Companion.accept link.readyPhone = (.ok (), phone)) :
    (phoneAccepts : Step φ ρ σ Unit).run link = (.ok (), link.withPhone phone) := by
  rw [phoneAccepts, Step.run_bind, run_onPhone, accepted]
  rfl

variable [Flavor φ] [KeyStorage σ]

/-- The link when these frames have reached the head unit. -/
def delivering (frames : List DeviceMessage) (link : Link φ ρ σ) : Link φ ρ σ :=
  frames.foldl (fun link frame => link.withCar (link.readyCar.receive frame .handshake)) link

theorem delivering_cons {frame : DeviceMessage} {car : Channel φ ρ σ}
    (took : link.readyCar.receive frame .handshake = car) (rest : List DeviceMessage) :
    link.delivering (frame :: rest) = (link.withCar car).delivering rest := by
  rw [← took]
  rfl

theorem run_deliver (frame : DeviceMessage) (carOpen : link.carOpen = true) :
    (deliver frame : Step φ ρ σ Unit).run link = (.ok (), link.delivering [frame]) :=
  run_onCar link (Channel.receive frame .handshake) carOpen

theorem run_start {frame : DeviceMessage} {phone : Companion ρ}
    (started : Companion.start.run link.readyPhone = (.ok frame, phone))
    (carOpen : link.carOpen = true) :
    (start : Step φ ρ σ Unit).run link = (.ok (), (link.withPhone phone).delivering [frame]) := by
  rw [start, Step.run_bind, run_onPhone, started]
  exact run_deliver (link.withPhone phone) frame carOpen

end CarPairing.Link
