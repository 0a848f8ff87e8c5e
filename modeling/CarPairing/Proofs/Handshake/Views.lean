import CarPairing.Handshake.Agreement
import CarPairing.Proofs.Curve.Agreement

/-!
What each end has seen of a key agreement once it holds the secrets: its own
draws and the messages it took. Everything it sent and derived is a function
of these. The ends need not have seen the same conversation.
-/

namespace CarPairing.Agreement

/-- A message of exact length that is led by the version. -/
def Framed (message : Bytes) (size : Nat) : Prop :=
  message.length = size ∧ message.head? = some version

theorem checkFrame_ok_iff (message : Bytes) (size : Nat) (what : String) :
    checkFrame message size what = .ok () ↔ Framed message size := by
  unfold checkFrame Framed
  by_cases sized : message.length = size
  · cases message with
    | nil => simp [sized]
    | cons first rest => by_cases led : first = version <;> simp [sized, led]
  · simp [sized]

theorem checkFrame_cases (message : Bytes) (size : Nat) (what : String) :
    (checkFrame message size what = .ok () ∧ Framed message size) ∨
      ∃ error, checkFrame message size what = .error error := by
  cases checked : checkFrame message size what with
  | ok => exact Or.inl ⟨rfl, (checkFrame_ok_iff message size what).mp checked⟩
  | error error => exact Or.inr ⟨error, rfl⟩

/-- The secrets of an agreement that is complete and not yet used. -/
def secrets? (runner : Agreement) : Option Secrets :=
  match runner.phase with
  | .awaitingVerification secrets => some secrets
  | .resuming secrets => some secrets
  | _ => none

/-- The private key that an end draws for its first message. -/
def secretOf (entropy : Entropy) : Bytes :=
  (entropy.draw 32).1

/-- The bytes that it draws next and sends in clear. -/
def randomOf (entropy : Entropy) : Bytes :=
  ((entropy.draw 32).2.draw 32).1

/-- What is left of the entropy after the first message. -/
def drawnFrom (entropy : Entropy) : Entropy :=
  ((entropy.draw 32).2.draw 32).2

def clientFinishOf (entropy : Entropy) : Bytes :=
  version :: X25519.publicKey (secretOf entropy)

def clientInitOf (entropy : Entropy) : Bytes :=
  version :: (randomOf entropy ++ sha256 (clientFinishOf entropy))

def serverInitOf (entropy : Entropy) : Bytes :=
  version :: (randomOf entropy ++ X25519.publicKey (secretOf entropy))

def opening (entropy : Entropy) : Phase :=
  .sentClientInit (secretOf entropy) (clientInitOf entropy) (clientFinishOf entropy)

def replied (entropy : Entropy) (clientInit : Bytes) : Phase :=
  .sentServerInit (secretOf entropy) clientInit (serverInitOf entropy) (clientInit.drop 33)

theorem length_randomOf (entropy : Entropy) : (randomOf entropy).length = 32 :=
  Entropy.length_draw _ 32

theorem framed_clientFinish (entropy : Entropy) :
    Framed (clientFinishOf entropy) clientFinishSize := by
  simp [Framed, clientFinishOf, clientFinishSize, X25519.length_publicKey]

theorem framed_clientInit (entropy : Entropy) : Framed (clientInitOf entropy) clientInitSize := by
  simp [Framed, clientInitOf, clientInitSize, length_sha256, length_randomOf]

theorem framed_serverInit (entropy : Entropy) : Framed (serverInitOf entropy) serverInitSize := by
  simp [Framed, serverInitOf, serverInitSize, X25519.length_publicKey, length_randomOf]

theorem commitment_of_clientInit (entropy : Entropy) :
    (clientInitOf entropy).drop 33 = sha256 (clientFinishOf entropy) := by
  simp [clientInitOf, length_randomOf]

theorem key_of_serverInit (entropy : Entropy) :
    (serverInitOf entropy).drop 33 = X25519.publicKey (secretOf entropy) := by
  simp [serverInitOf, length_randomOf]

/-- The initiator's side of a complete agreement. -/
structure InitiatorView where
  entropy : Entropy
  /-- The reply it took, from whomever. -/
  serverInit : Bytes
  framed : Framed serverInit serverInitSize

namespace InitiatorView

def clientFinish (view : InitiatorView) : Bytes :=
  clientFinishOf view.entropy

def clientInit (view : InitiatorView) : Bytes :=
  clientInitOf view.entropy

def shared (view : InitiatorView) : Bytes :=
  X25519.agree (secretOf view.entropy) (view.serverInit.drop 33)

def secrets (view : InitiatorView) : Secrets :=
  Secrets.derive view.shared view.clientInit view.serverInit

end InitiatorView

/-- The responder's side of a complete agreement. -/
structure ResponderView where
  entropy : Entropy
  clientInit : Bytes
  /-- The key message it took, which the request had committed to. -/
  clientFinish : Bytes
  framedInit : Framed clientInit clientInitSize
  framedFinish : Framed clientFinish clientFinishSize
  committed : sha256 clientFinish = clientInit.drop 33

namespace ResponderView

def serverInit (view : ResponderView) : Bytes :=
  serverInitOf view.entropy

def shared (view : ResponderView) : Bytes :=
  X25519.agree (secretOf view.entropy) (view.clientFinish.drop 1)

def secrets (view : ResponderView) : Secrets :=
  Secrets.derive view.shared view.clientInit view.serverInit

-- What it has drawn and taken determines all of a view.
theorem unique {view other : ResponderView} (drawn : view.entropy = other.entropy)
    (clientInit : view.clientInit = other.clientInit)
    (clientFinish : view.clientFinish = other.clientFinish) : view = other := by
  cases view
  cases other
  cases drawn
  cases clientInit
  cases clientFinish
  rfl

end ResponderView

/-- Each end has received what the other has sent. -/
structure Matching (mine : InitiatorView) (theirs : ResponderView) : Prop where
  clientInit : theirs.clientInit = mine.clientInit
  serverInit : mine.serverInit = theirs.serverInit
  clientFinish : theirs.clientFinish = mine.clientFinish

-- Of one conversation both ends derive the same secrets.
theorem Matching.secrets_eq {mine : InitiatorView} {theirs : ResponderView}
    (matching : Matching mine theirs) : mine.secrets = theirs.secrets := by
  have peer : mine.serverInit.drop 33 = X25519.publicKey (secretOf theirs.entropy) := by
    rw [matching.serverInit]
    exact key_of_serverInit theirs.entropy
  have own : theirs.clientFinish.drop 1 = X25519.publicKey (secretOf mine.entropy) := by
    rw [matching.clientFinish]
    rfl
  have shared : mine.shared = theirs.shared := by
    rw [InitiatorView.shared, ResponderView.shared, peer, own]
    exact X25519.agree_publicKey_comm (secretOf mine.entropy) (secretOf theirs.entropy)
  rw [InitiatorView.secrets, ResponderView.secrets, shared, matching.clientInit,
    matching.serverInit]

/-- The views of two ends between which every message arrives. -/
def honestInitiator (own peer : Entropy) : InitiatorView :=
  ⟨own, serverInitOf peer, framed_serverInit peer⟩

def honestResponder (own peer : Entropy) : ResponderView :=
  ⟨own, clientInitOf peer, clientFinishOf peer, framed_clientInit peer, framed_clientFinish peer,
    (commitment_of_clientInit peer).symm⟩

theorem honest_matching (own peer : Entropy) :
    Matching (honestInitiator own peer) (honestResponder peer own) :=
  ⟨rfl, rfl, rfl⟩

end CarPairing.Agreement
