import CarPairing.Proofs.Link.Steps
import CarPairing.Proofs.Pairing.Completion

/-!
A pairing on a link. The two ends draw from one stream there, so each goes on with
what the other has left. For the rest they do what they do with a stream of their
own, and each relay finds the one frame that the head unit has sent since the last.
-/

namespace CarPairing

/-- What a pairing on a link starts from, the storage of the head unit apart. -/
structure Meeting where
  outOfBand : Bool
  digits : Nat
  entropy : Entropy
  now : Int
  device : Uuid
  secret : Bytes

namespace Meeting

open Agreement Association Channel Companion Link

/-- The head unit goes on with what the phone has left after its first frame. -/
def pairing (meeting : Meeting) : Pairing :=
  { outOfBand := meeting.outOfBand, digits := meeting.digits, carReconnecting := false
    phoneReconnecting := false, carEntropy := drawnFrom meeting.entropy
    phoneEntropy := meeting.entropy, now := meeting.now, subscription := .lifecycle
    device := meeting.device, secret := meeting.secret }

abbrev Wired (σ : Type) := Link Association Agreement σ

variable {σ : Type} (meeting : Meeting) (storage : σ) (code : String) (id : Uuid) (kept : σ)

def secrets : Secrets :=
  meeting.pairing.secrets

/-- What both ends have left of the stream when they have agreed. -/
def agreedEntropy : Entropy :=
  drawnFrom meeting.pairing.carEntropy

def fresh : Wired σ :=
  Link.make { meeting.pairing.carAtStart storage with entropy := meeting.entropy }
    meeting.pairing.phoneAtStart meeting.entropy

def requested : Wired σ :=
  { car := meeting.pairing.carReplied storage, phone := meeting.pairing.phoneRequesting
    entropy := meeting.agreedEntropy }

def phoneComparing : Phone :=
  { meeting.pairing.phoneComparing with entropy := meeting.agreedEntropy }

def compared : Wired σ :=
  { car := meeting.pairing.carComparing storage code, phone := meeting.phoneComparing
    entropy := meeting.agreedEntropy, delivered := 1 }

def phoneAccepted : Phone :=
  accepting meeting.phoneComparing meeting.secrets

def phoneFirst : Wired σ :=
  (meeting.compared storage code).withPhone meeting.phoneAccepted

/-- The sessions that the ends install, that of the phone first. -/
def phoneSession : Session :=
  (Session.ofKey meeting.secrets.next meeting.agreedEntropy).1

def carSession : Session :=
  (Session.ofKey meeting.secrets.next
    (Session.ofKey meeting.secrets.next meeting.agreedEntropy).2).1

/-- What an id of the head unit is drawn from. -/
def idEntropy : Entropy :=
  (Session.ofKey meeting.secrets.next
    (Session.ofKey meeting.secrets.next meeting.agreedEntropy).2).2

def carIdFrame : DeviceMessage :=
  Pairing.sealedUnder meeting.carSession id.bytes

def identityFrame : DeviceMessage :=
  Pairing.sealedUnder meeting.phoneSession (Identity.encode meeting.device meeting.secret)

variable [KeyStorage σ] {store : σ → KeyStore}

def carAccepted : Car σ :=
  afterAccept (meeting.phoneFirst storage code).readyCar meeting.secrets id

def accepted : Wired σ :=
  (meeting.phoneFirst storage code).withCar (meeting.carAccepted storage code id)

def carAssociated : Car σ :=
  associated ((meeting.carAccepted storage code id).record
      (.frame (Identity.encode meeting.device meeting.secret)))
    meeting.device meeting.secrets.next meeting.secret kept

def phoneIdentified : Phone :=
  identified (meeting.accepted storage code id).readyPhone meeting.phoneSession id

def through : Wired σ :=
  { car := meeting.carAssociated storage code id kept
    phone := meeting.phoneIdentified storage code id
    entropy := (meeting.carAccepted storage code id).entropy, delivered := 2 }

theorem starts : (Link.start : Link.Step _ _ σ Unit).run (meeting.fresh storage) =
    (.ok (), meeting.requested storage) := by
  have took : ((meeting.fresh storage).withPhone
      meeting.pairing.phoneRequesting).readyCar.receive meeting.pairing.request .handshake =
        meeting.pairing.carReplied storage := meeting.pairing.car_replies
  rw [run_start (meeting.fresh storage) meeting.pairing.phone_starts rfl, delivering_cons _ took]
  rfl

omit [KeyStorage σ] in
theorem phone_compares :
    handle meeting.pairing.reply (meeting.requested storage).readyPhone =
      (.ok [meeting.pairing.finish], meeting.phoneComparing) :=
  handle_reply (meeting.requested storage).readyPhone meeting.pairing.phoneView meeting.device
    meeting.secret rfl rfl rfl rfl rfl rfl

omit [KeyStorage σ] in
theorem phone_accepts :
    (Link.phoneAccepts : Link.Step _ _ σ Unit).run (meeting.compared storage code) =
      (.ok (), meeting.phoneFirst storage code) := by
  apply run_phoneAccepts
  refine Companion.accept_exact meeting.phoneComparing meeting.secrets rfl ?_
  change Phase.awaitingVerification meeting.pairing.phoneView.secrets = _
  rw [Pairing.phone_secrets]
  rfl

theorem car_accepts (given : (KeyStorage.uniqueId storage meeting.idEntropy).1 = .ok id) :
    (onCar Association.accept : Link.Step _ _ σ Unit).run (meeting.phoneFirst storage code) =
      (.ok (), meeting.accepted storage code id) := by
  have accepts : Association.accept (meeting.phoneFirst storage code).readyCar =
      meeting.carAccepted storage code id :=
    Association.accept_exact (meeting.phoneFirst storage code).readyCar meeting.secrets id rfl rfl
      rfl given
  rw [run_onCar (meeting.phoneFirst storage code) Association.accept rfl, accepts]
  rfl

-- Both sessions have the key of the conversation.
theorem phone_identifies :
    handle (meeting.carIdFrame id) (meeting.accepted storage code id).readyPhone =
      (.ok [meeting.identityFrame], meeting.phoneIdentified storage code id) := by
  have fresh : meeting.phoneSession.counter ≠ Session.counterLimit := by
    change 0 ≠ Session.counterLimit
    decide
  have opens : meeting.phoneSession.unwrap (meeting.carIdFrame id).payload = .ok id.bytes :=
    Pairing.sealedUnder_opens _ (Session.ofKey_drawn _ _) rfl
  exact handle_carId (meeting.accepted storage code id).readyPhone _ meeting.phoneSession id
    meeting.device meeting.secret rfl rfl rfl rfl fresh opens

theorem car_associates (named : meeting.device ≠ Uuid.nil)
    (keeps : Keeps store storage kept meeting.idEntropy meeting.now meeting.device.toText
      meeting.secrets.next meeting.secret) :
    (meeting.carAccepted storage code id).receive meeting.identityFrame .handshake =
      meeting.carAssociated storage code id kept := by
  obtain ⟨passed, written, checks, keys, keeps⟩ := keeps.taken
  have opens : ({ meeting.carSession with counter := 1 } : Session).unwrap
      meeting.identityFrame.payload = .ok (Identity.encode meeting.device meeting.secret) :=
    Pairing.sealedUnder_opens _ (Session.ofKey_drawn _ _) rfl
  have received : (meeting.carAccepted storage code id).receive meeting.identityFrame .handshake =
      (meeting.carAccepted storage code id).handshake
        (Identity.encode meeting.device meeting.secret) :=
    receive_sealed _ _ _ _ nofun rfl opens
  rw [received]
  exact identity_associates (meeting.carAccepted storage code id) _ _ meeting.device meeting.secret
    passed written kept rfl rfl rfl rfl nofun
    (Identity.decode_encode meeting.device meeting.secret named) checks keys keeps

end Meeting

end CarPairing
