import CarPairing.Proofs.Pairing.Exchange
import CarPairing.Proofs.Reconnect.Exact
import CarPairing.Proofs.Staged

/-!
A head unit and a paired phone with a wire each way. Nobody is asked anything,
so the frames that have arrived are all that an end waits for.
-/

namespace CarPairing.Resumption

open Channel

structure Line (σ : Type) where
  car : Reconnect.Car σ
  phone : Companion.Phone
  /-- On the way to the head unit, oldest frame first. -/
  toCar : List DeviceMessage := []
  toPhone : List DeviceMessage := []

inductive Move where
  | phoneStarts
  | carReceives
  | phoneReceives

-- What sends nothing puts nothing on a wire.
theorem frames_quiet {φ ρ σ : Type} {before middle after : Channel φ ρ σ}
    (first : Grown (fun _ => True) before middle)
    (quiet : Grown (fun event => ∀ operation message, event ≠ .sent operation message)
      middle after) :
    Exchange.frames (news before after) = Exchange.frames (news before middle) := by
  have nothing : Exchange.frames (news middle after) = [] := by
    apply List.filterMap_eq_nil_iff.mpr
    intro event member
    have unsent := quiet.mem_news member
    cases event with
    | sent operation message => exact absurd rfl (unsent operation message)
    | _ => rfl
  rw [news_append first quiet.any, Exchange.frames, List.filterMap_append]
  exact (congrArg _ nothing).trans (List.append_nil _)

namespace Line

variable {σ α : Type}

/-- A call of the phone that fails sends nothing. -/
def onPhone (act : Companion.Phone → Except ChannelError α × Companion.Phone)
    (sends : α → List DeviceMessage) (line : Line σ) : Line σ :=
  match act line.phone with
  | (.ok value, phone) => { line with phone, toCar := line.toCar ++ sends value }
  | (.error _, phone) => { line with phone }

theorem onPhone_ok {act : Companion.Phone → Except ChannelError α × Companion.Phone}
    (sends : α → List DeviceMessage) {line : Line σ} {value : α} {phone : Companion.Phone}
    (acted : act line.phone = (.ok value, phone)) :
    line.onPhone act sends = { line with phone, toCar := line.toCar ++ sends value } := by
  rw [onPhone, acted]

variable [KeyStorage σ]

def onCar (frame : DeviceMessage) (line : Line σ) : Line σ :=
  let car := line.car.receive frame .handshake
  { line with car, toPhone := line.toPhone ++ Exchange.frames (news line.car car) }

theorem onCar_exact {frame : DeviceMessage} {line : Line σ} {after : Reconnect.Car σ}
    {sent : List DeviceMessage} (took : line.car.receive frame .handshake = after)
    (sends : Exchange.frames (news line.car after) = sent) :
    line.onCar frame = { line with car := after, toPhone := line.toPhone ++ sent } := by
  rw [onCar, took, sends]

/-- A move, if it can be made. -/
def step? (move : Move) (line : Line σ) : Option (Line σ) :=
  match move with
  | .phoneStarts =>
      if line.phone.state = .unknown then
        some (line.onPhone Companion.start.run fun frame => [frame])
      else none
  | .carReceives =>
      match line.toCar with
      | [] => none
      | frame :: rest => some ({ line with toCar := rest }.onCar frame)
  | .phoneReceives =>
      match line.toPhone with
      | [] => none
      | frame :: rest => some ({ line with toPhone := rest }.onPhone (Companion.handle frame) id)

def run? : List Move → Line σ → Option (Line σ) :=
  runMoves? step?

end Line

end CarPairing.Resumption
