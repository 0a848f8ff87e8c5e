import CarPairing.Proofs.Link.Steps
import CarPairing.Proofs.Resumption.Chain

/-!
A reconnection on a link. The phone answers the first frame of the head unit with
two at once, so two relays take the whole conversation across.
-/

namespace CarPairing

/-- What a reconnection on a link starts from, the storage of the head unit apart. -/
structure Reunion where
  entropy : Entropy
  now : Int
  id : String
  previous : Key

namespace Reunion

open Agreement Channel Companion Link Resumption

/-- The head unit goes on with what the phone has left after its first frame. -/
def round (reunion : Reunion) : Round :=
  { carMode := { reconnecting := false, outOfBand := false, digits := 6 }
    phoneMode := { reconnecting := false, outOfBand := false, digits := 6 }
    carEntropy := drawnFrom reunion.entropy, phoneEntropy := reunion.entropy, now := reunion.now
    subscription := .lifecycle }

abbrev Wired (σ : Type) := Link Reconnect Agreement σ

variable {σ : Type} (reunion : Reunion) (storage kept : σ)

/-- The key that both ends have afterwards. -/
def nextKey : Key :=
  reunion.round.nextKey reunion.previous

/-- What both ends have left of the stream when they have agreed. -/
def agreedEntropy : Entropy :=
  drawnFrom reunion.round.carEntropy

def fresh : Wired σ :=
  Link.make { reunion.round.carAtStart reunion.id storage with entropy := reunion.entropy }
    (reunion.round.phoneAtStart reunion.previous) reunion.entropy

def requested : Wired σ :=
  { car := reunion.round.carReplied reunion.previous reunion.id storage
    phone := reunion.round.phoneRequesting reunion.previous, entropy := reunion.agreedEntropy }

def phoneProving : Phone :=
  { reunion.round.phoneProving reunion.previous with entropy := reunion.agreedEntropy }

/-- The head unit established with the new key. -/
def carResumed : Reconnect.Car σ :=
  reunion.round.carLast reunion.id reunion.previous (.ok ()) storage kept

def proven : Wired σ :=
  { car := reunion.carResumed storage kept, phone := reunion.phoneProving
    entropy := (reunion.carResumed storage kept).entropy, delivered := 1 }

def phoneResumed : Phone :=
  resumed (reunion.proven storage kept).readyPhone reunion.previous reunion.round.secrets

def through : Wired σ :=
  { car := reunion.carResumed storage kept, phone := reunion.phoneResumed storage kept
    entropy := (reunion.phoneResumed storage kept).entropy, delivered := 2 }

variable [KeyStorage σ]

theorem starts (known : KeyStorage.key? storage reunion.id = some reunion.previous) :
    (Link.start : Link.Step _ _ σ Unit).run (reunion.fresh storage) =
      (.ok (), reunion.requested storage) := by
  have took : ((reunion.fresh storage).withPhone
      (reunion.round.phoneRequesting reunion.previous)).readyCar.receive reunion.round.request
        .handshake = reunion.round.carReplied reunion.previous reunion.id storage :=
    reunion.round.car_replies reunion.previous reunion.id storage known
  rw [run_start (reunion.fresh storage) (reunion.round.phone_starts reunion.previous) rfl,
    delivering_cons _ took]
  rfl

omit [KeyStorage σ] in
theorem phone_proves :
    handle reunion.round.reply (reunion.requested storage).readyPhone =
      (.ok [reunion.round.finish, reunion.round.proof reunion.previous], reunion.phoneProving) := by
  rw [Round.proof, ← Round.phone_secrets]
  exact handle_reply_resuming (reunion.requested storage).readyPhone reunion.round.phoneView
    reunion.previous rfl rfl rfl rfl rfl rfl

omit [KeyStorage σ] in
theorem phone_resumes :
    handle (reunion.round.answer reunion.previous) (reunion.proven storage kept).readyPhone =
      (.ok [], reunion.phoneResumed storage kept) := by
  refine handle_proof (reunion.proven storage kept).readyPhone reunion.previous
    reunion.round.secrets rfl rfl rfl rfl ?_
  change Phase.resuming reunion.round.phoneView.secrets = _
  rw [Round.phone_secrets]

end Reunion

end CarPairing
