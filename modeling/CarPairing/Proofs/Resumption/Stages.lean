import CarPairing.Proofs.Resumption.Line
import CarPairing.Proofs.Resumption.Phone

/-!
The stages of an honest reconnection. There is one order for it to go in, as
each end waits for the other. What comes of the proof is left to the storage of
the head unit, so the last state of the head unit is a parameter here.
-/

namespace CarPairing.Resumption

open Agreement Channel Companion Line

/-- How a runner comes, before it is told to resume. -/
structure Mode where
  reconnecting : Bool
  outOfBand : Bool
  digits : Nat

def Mode.runner (mode : Mode) (role : Role) : Agreement :=
  { role, reconnecting := mode.reconnecting, outOfBand := mode.outOfBand, digits := mode.digits }

/-- What one reconnection starts from, the stored key and the phone's apart. -/
structure Round where
  carMode : Mode
  phoneMode : Mode
  carEntropy : Entropy
  phoneEntropy : Entropy
  now : Int
  subscription : Subscription

namespace Round

variable {σ : Type} (round : Round)

def carView : ResponderView :=
  honestResponder round.carEntropy round.phoneEntropy

def phoneView : InitiatorView :=
  honestInitiator round.phoneEntropy round.carEntropy

def secrets : Secrets :=
  round.carView.secrets

theorem phone_secrets : round.phoneView.secrets = round.secrets :=
  (honest_matching round.phoneEntropy round.carEntropy).secrets_eq

/-- The key that both ends have afterwards. -/
def nextKey (previous : Key) : Key :=
  resumedKey previous round.secrets.next

/-! The five frames, in their order. -/

def request : DeviceMessage := clear round.carView.clientInit

def reply : DeviceMessage := clear round.phoneView.serverInit

def finish : DeviceMessage := clear round.carView.clientFinish

variable (previous : Key)

def proof : DeviceMessage := clear (resumeMac previous round.secrets.auth clientLabel)

def answer : DeviceMessage := clear (resumeMac previous round.secrets.auth serverLabel)

/-! The phone after each of its steps. -/

def phoneAtStart : Phone :=
  reconnect (round.phoneMode.runner .initiator) previous round.phoneEntropy

def phoneRequesting : Phone := requesting (round.phoneAtStart previous)

def phoneProving : Phone := proving (round.phoneRequesting previous) round.phoneView previous

def phoneResumed : Phone := resumed (round.phoneProving previous) previous round.secrets

theorem phone_starts :
    start.run (round.phoneAtStart previous) =
      (.ok round.request, round.phoneRequesting previous) :=
  Companion.start_exact (round.phoneAtStart previous) rfl rfl rfl

theorem phone_proves :
    handle round.reply (round.phoneRequesting previous) =
      (.ok [round.finish, round.proof previous], round.phoneProving previous) := by
  rw [proof, ← phone_secrets]
  exact handle_reply_resuming (round.phoneRequesting previous) round.phoneView previous rfl rfl rfl
    rfl rfl rfl

theorem phone_resumes :
    handle (round.answer previous) (round.phoneProving previous) =
      (.ok [], round.phoneResumed previous) := by
  refine handle_proof (round.phoneProving previous) previous round.secrets rfl rfl rfl rfl ?_
  change Phase.resuming round.phoneView.secrets = _
  rw [phone_secrets]

/-! The head unit up to the proof. -/

section Car

variable (id : String) (storage : σ)

def carAtStart : Reconnect.Car σ :=
  (Reconnect.paired (round.carMode.runner .responder) id storage round.carEntropy
    round.now).subscribe round.subscription

def carReplied : Reconnect.Car σ :=
  Reconnect.afterInit ((round.carAtStart id storage).record (.frame round.carView.clientInit))
    previous round.carView.clientInit

def carAgreed : Reconnect.Car σ :=
  Reconnect.afterFinish
    ((round.carReplied previous id storage).record (.frame round.carView.clientFinish)) round.carView

theorem sent_reply :
    Exchange.frames (news (round.carAtStart id storage) (round.carReplied previous id storage)) =
      [round.reply] := by
  rw [news_of_trace _ _ [_, _, _, _] rfl]
  rfl

theorem sent_agreed :
    Exchange.frames (news (round.carReplied previous id storage)
      (round.carAgreed previous id storage)) = [] := by
  rw [news_of_trace _ _ [_, _] rfl]
  rfl

variable [KeyStorage σ]

theorem car_replies (known : KeyStorage.key? storage id = some previous) :
    (round.carAtStart id storage).receive round.request .handshake =
      round.carReplied previous id storage :=
  (receive_clear (round.carAtStart id storage) _ nofun).trans
    (Reconnect.request_exact (round.carAtStart id storage) previous _ rfl rfl known rfl rfl
      round.carView.framedInit)

theorem car_agrees :
    (round.carReplied previous id storage).receive round.finish .handshake =
      round.carAgreed previous id storage :=
  (receive_clear (round.carReplied previous id storage) _ nofun).trans
    (Reconnect.finish_resumes (round.carReplied previous id storage) round.carView rfl rfl rfl rfl
      rfl)

/-- The storage has the key, and the proof makes the head unit what it is last,
its own proof being sent whatever the storage says to the new key. -/
structure Course (last : Reconnect.Car σ) : Prop where
  known : KeyStorage.key? storage id = some previous
  ends : (round.carAgreed previous id storage).receive (round.proof previous) .handshake = last
  answers : Exchange.frames (news (round.carAgreed previous id storage) last) =
    [round.answer previous]

end Car

end Round

inductive Progress where
  | fresh
  | requested
  | replied
  | proving
  | agreed
  | answered
  | resumed
deriving DecidableEq

namespace Progress

/-- The stage that a move leads to, if it can be made. -/
def next? : Progress → Move → Option Progress
  | .fresh, .phoneStarts => some .requested
  | .requested, .carReceives => some .replied
  | .replied, .phoneReceives => some .proving
  | .proving, .carReceives => some .agreed
  | .agreed, .carReceives => some .answered
  | .answered, .phoneReceives => some .resumed
  | _, _ => none

def moves : Progress → Nat
  | .fresh => 0
  | .requested => 1
  | .replied => 2
  | .proving => 3
  | .agreed => 4
  | .answered => 5
  | .resumed => 6

theorem moves_next {stage next : Progress} {move : Move} (made : stage.next? move = some next) :
    next.moves = stage.moves + 1 := by
  cases stage <;> cases move <;> cases made <;> rfl

theorem moves_bound (stage : Progress) : stage.moves ≤ 6 := by
  cases stage <;> decide

theorem moves_resumed {stage : Progress} (all : stage.moves = 6) : stage = .resumed := by
  cases stage <;> first | rfl | cases all

-- Only the last stage has no move left.
theorem next_exists (stage : Progress) (unfinished : stage ≠ .resumed) :
    ∃ move next, stage.next? move = some next := by
  cases stage with
  | fresh => exact ⟨.phoneStarts, _, rfl⟩
  | requested => exact ⟨.carReceives, _, rfl⟩
  | replied => exact ⟨.phoneReceives, _, rfl⟩
  | proving => exact ⟨.carReceives, _, rfl⟩
  | agreed => exact ⟨.carReceives, _, rfl⟩
  | answered => exact ⟨.phoneReceives, _, rfl⟩
  | resumed => exact absurd rfl unfinished

end Progress

namespace Round

section Simulation

variable {σ : Type} [KeyStorage σ] (round : Round) (previous : Key) (id : String) (storage : σ)
variable (last : Reconnect.Car σ)

def line : Progress → Line σ
  | .fresh => { car := round.carAtStart id storage, phone := round.phoneAtStart previous }
  | .requested =>
      { car := round.carAtStart id storage, phone := round.phoneRequesting previous
        toCar := [round.request] }
  | .replied =>
      { car := round.carReplied previous id storage, phone := round.phoneRequesting previous
        toPhone := [round.reply] }
  | .proving =>
      { car := round.carReplied previous id storage, phone := round.phoneProving previous
        toCar := [round.finish, round.proof previous] }
  | .agreed =>
      { car := round.carAgreed previous id storage, phone := round.phoneProving previous
        toCar := [round.proof previous] }
  | .answered =>
      { car := last, phone := round.phoneProving previous, toPhone := [round.answer previous] }
  | .resumed => { car := last, phone := round.phoneResumed previous }

variable {previous id storage last}

-- The stages move as the two ends do.
theorem step_line (course : round.Course previous id storage last) (stage : Progress)
    (move : Move) :
    (round.line previous id storage last stage).step? move =
      (stage.next? move).map (round.line previous id storage last) := by
  cases move with
  | phoneStarts =>
      cases stage with
      | fresh => exact congrArg some (onPhone_ok _ (round.phone_starts previous))
      | _ => rfl
  | carReceives =>
      cases stage with
      | requested =>
          exact congrArg some (onCar_exact (round.car_replies previous id storage course.known)
            (round.sent_reply previous id storage))
      | proving =>
          exact congrArg some (onCar_exact (round.car_agrees previous id storage)
            (round.sent_agreed previous id storage))
      | agreed => exact congrArg some (onCar_exact course.ends course.answers)
      | _ => rfl
  | phoneReceives =>
      cases stage with
      | replied => exact congrArg some (onPhone_ok _ (round.phone_proves previous))
      | answered => exact congrArg some (onPhone_ok _ (round.phone_resumes previous))
      | _ => rfl

theorem staged (course : round.Course previous id storage last) :
    Staged Line.step? (round.line previous id storage last) Progress.next? Progress.moves
      .resumed where
  simulates := round.step_line course
  counts := Progress.moves_next
  bounded := Progress.moves_bound
  ends := Progress.moves_resumed
  goes := Progress.next_exists

-- There is a run that is over.
theorem run_exists (course : round.Course previous id storage last) :
    (round.line previous id storage last .fresh).run?
      [.phoneStarts, .carReceives, .phoneReceives, .carReceives, .carReceives, .phoneReceives] =
        some (round.line previous id storage last .resumed) := by
  have requested : Progress.fresh.next? .phoneStarts = some .requested := rfl
  have replied : Progress.requested.next? .carReceives = some .replied := rfl
  have proving : Progress.replied.next? .phoneReceives = some .proving := rfl
  have agreed : Progress.proving.next? .carReceives = some .agreed := rfl
  have answered : Progress.agreed.next? .carReceives = some .answered := rfl
  have resumed : Progress.answered.next? .phoneReceives = some .resumed := rfl
  have staged := round.staged course
  rw [run?, staged.move requested, staged.move replied, staged.move proving, staged.move agreed,
    staged.move answered, staged.move resumed, runMoves?]

end Simulation

end Round

end CarPairing.Resumption
