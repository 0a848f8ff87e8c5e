import CarPairing.Proofs.Association.Exact
import CarPairing.Proofs.Pairing.Phone
import CarPairing.Proofs.Staged

/-!
A head unit and a phone with a wire each way. Frames arrive unchanged and in
order; when they arrive and when the users accept is left open, so a run is any
order of moves that the wires and the users allow.
-/

namespace CarPairing

structure Exchange (σ : Type) where
  car : Association.Car σ
  phone : Companion.Phone
  /-- On the way to the head unit, oldest frame first. -/
  toCar : List DeviceMessage := []
  toPhone : List DeviceMessage := []

inductive Move where
  | phoneStarts
  | carReceives
  | phoneReceives
  | carAccepts
  | phoneAccepts

/-- The user has a code to compare. -/
abbrev HandshakeState.Asks (state : HandshakeState) : Prop :=
  state = .verificationNeeded ∨ state = .oobVerificationNeeded

namespace Exchange

open Channel

def frames (events : List Event) : List DeviceMessage :=
  events.filterMap fun
    | .sent _ message => some message
    | _ => none

variable {σ α : Type}

def onCar (act : Association.Car σ → Association.Car σ) (exchange : Exchange σ) : Exchange σ :=
  let car := act exchange.car
  { exchange with car, toPhone := exchange.toPhone ++ frames (news exchange.car car) }

/-- A call of the phone that fails sends nothing. -/
def onPhone (act : Companion.Phone → Except ChannelError α × Companion.Phone)
    (sends : α → List DeviceMessage) (exchange : Exchange σ) : Exchange σ :=
  match act exchange.phone with
  | (.ok value, phone) => { exchange with phone, toCar := exchange.toCar ++ sends value }
  | (.error _, phone) => { exchange with phone }

theorem onCar_exact {act : Association.Car σ → Association.Car σ} {exchange : Exchange σ}
    {after : Association.Car σ} {sent : List DeviceMessage} (acted : act exchange.car = after)
    (sends : frames (news exchange.car after) = sent) :
    exchange.onCar act = { exchange with car := after, toPhone := exchange.toPhone ++ sent } := by
  rw [onCar, acted, sends]

theorem onPhone_ok {act : Companion.Phone → Except ChannelError α × Companion.Phone}
    (sends : α → List DeviceMessage) {exchange : Exchange σ} {value : α} {phone : Companion.Phone}
    (acted : act exchange.phone = (.ok value, phone)) :
    exchange.onPhone act sends =
      { exchange with phone, toCar := exchange.toCar ++ sends value } := by
  rw [onPhone, acted]

variable [KeyStorage σ]

/-- A move, if it can be made. An end that has a code waits for its user: one
accepts only then, and the phone is not given a sealed frame before. -/
def step? (move : Move) (exchange : Exchange σ) : Option (Exchange σ) :=
  match move with
  | .phoneStarts =>
      if exchange.phone.state = .unknown then
        some (exchange.onPhone Companion.start.run fun frame => [frame])
      else none
  | .carReceives =>
      match exchange.toCar with
      | [] => none
      | frame :: rest =>
          some ({ exchange with toCar := rest }.onCar fun car => car.receive frame .handshake)
  | .phoneReceives =>
      match exchange.toPhone with
      | [] => none
      | frame :: rest =>
          if frame.encrypted ∧ exchange.phone.state.Asks then none
          else some ({ exchange with toPhone := rest }.onPhone (Companion.handle frame) id)
  | .carAccepts =>
      if exchange.car.state.Asks then some (exchange.onCar Association.accept) else none
  | .phoneAccepts =>
      if exchange.phone.state.Asks then some (exchange.onPhone Companion.accept fun _ => [])
      else none

def run? : List Move → Exchange σ → Option (Exchange σ)
  | [], exchange => some exchange
  | move :: rest, exchange => (exchange.step? move).bind (run? rest)

theorem run_moves (moves : List Move) (exchange : Exchange σ) :
    exchange.run? moves = runMoves? step? moves exchange := by
  induction moves generalizing exchange with
  | nil => rfl
  | cons move rest ih =>
      rw [run?, runMoves?]
      cases exchange.step? move with
      | none => rfl
      | some next => exact ih next

end Exchange

end CarPairing
