import CarPairing.Proofs.Pairing.Exchange

/-!
The stages of an honest pairing. Each end takes four steps, and what it is
after each of them does not depend on the order in which the two take theirs:
an end draws from its own entropy only, and the frames it is given are always
the same. So a stage is how far both ends are, with what is then on the wires.
-/

namespace CarPairing

/-- What a pairing starts from, the storage of the head unit apart. -/
structure Pairing where
  outOfBand : Bool
  digits : Nat
  /-- The modes that the runners come in; association puts them in its own. -/
  carReconnecting : Bool
  phoneReconnecting : Bool
  carEntropy : Entropy
  phoneEntropy : Entropy
  now : Int
  subscription : Subscription
  device : Uuid
  secret : Bytes

namespace Pairing

open Agreement Association Channel Companion Exchange

variable {σ : Type} (pairing : Pairing)

/-- The runner of either end as an association uses it. -/
def runner (role : Role) : Agreement :=
  { role, outOfBand := pairing.outOfBand, digits := pairing.digits }

def carView : ResponderView :=
  honestResponder pairing.carEntropy pairing.phoneEntropy

def phoneView : InitiatorView :=
  honestInitiator pairing.phoneEntropy pairing.carEntropy

def secrets : Secrets :=
  pairing.carView.secrets

theorem phone_secrets : pairing.phoneView.secrets = pairing.secrets :=
  (honest_matching pairing.phoneEntropy pairing.carEntropy).secrets_eq

/-- The sessions that the ends install once their users have accepted. -/
def carSession : Session :=
  (Session.ofKey pairing.secrets.next (drawnFrom pairing.carEntropy)).1

def phoneSession : Session :=
  (Session.ofKey pairing.secrets.next (drawnFrom pairing.phoneEntropy)).1

/-! The five frames, in their order. -/

def request : DeviceMessage := clear pairing.carView.clientInit

def reply : DeviceMessage := clear pairing.phoneView.serverInit

def finish : DeviceMessage := clear pairing.carView.clientFinish

def sealedUnder (session : Session) (plaintext : Bytes) : DeviceMessage :=
  { encrypted := true
    payload := session.nonce ++ Aead.encrypt session.key.bytes session.nonce plaintext }

-- Who has the key of the session opens what was sealed under it.
theorem sealedUnder_opens {session peer : Session} (plaintext : Bytes) (drawn : session.Drawn)
    (shared : peer.key = session.key) :
    peer.unwrap (sealedUnder session plaintext).payload = .ok plaintext := by
  rw [sealedUnder, ← shared]
  exact Session.unwrap_sealed peer _ _ (Session.length_nonce session drawn)

def carIdFrame (id : Uuid) : DeviceMessage := sealedUnder pairing.carSession id.bytes

def identityFrame : DeviceMessage :=
  sealedUnder pairing.phoneSession (Identity.encode pairing.device pairing.secret)

/-! The phone after each of its steps. -/

def phoneAtStart : Phone :=
  associate { pairing.runner .initiator with reconnecting := pairing.phoneReconnecting }
    pairing.device pairing.secret pairing.phoneEntropy

def phoneRequesting : Phone := requesting pairing.phoneAtStart

def phoneComparing : Phone := comparing pairing.phoneRequesting pairing.phoneView

def phoneAccepted : Phone := accepting pairing.phoneComparing pairing.secrets

def phoneIdentified (id : Uuid) : Phone := identified pairing.phoneAccepted pairing.phoneSession id

theorem phone_starts :
    start.run pairing.phoneAtStart = (.ok pairing.request, pairing.phoneRequesting) :=
  Companion.start_exact pairing.phoneAtStart rfl rfl rfl

theorem phone_compares :
    handle pairing.reply pairing.phoneRequesting = (.ok [pairing.finish], pairing.phoneComparing) :=
  handle_reply pairing.phoneRequesting pairing.phoneView pairing.device pairing.secret rfl rfl rfl
    rfl rfl rfl

-- The code is the same at both ends.
theorem phone_shows {code : String}
    (shows : (pairing.runner .responder).code? pairing.secrets = some code) :
    pairing.phoneComparing.verification.map Verification.display = some code := by
  change ((pairing.runner .initiator).verification? pairing.phoneView.secrets).map _ = _
  rw [display_verification, phone_secrets]
  exact shows

theorem phone_accepts :
    Companion.accept pairing.phoneComparing = (.ok (), pairing.phoneAccepted) := by
  refine Companion.accept_exact pairing.phoneComparing pairing.secrets rfl ?_
  change Phase.awaitingVerification pairing.phoneView.secrets = _
  rw [phone_secrets]

-- Both sessions have the key of the conversation, so what one end seals the
-- other opens.
theorem carId_opens (id : Uuid) :
    pairing.phoneSession.unwrap (pairing.carIdFrame id).payload = .ok id.bytes :=
  sealedUnder_opens _ (Session.ofKey_drawn _ _) rfl

theorem identity_opens (session : Session) (same : session.key = pairing.carSession.key) :
    session.unwrap pairing.identityFrame.payload =
      .ok (Identity.encode pairing.device pairing.secret) :=
  sealedUnder_opens _ (Session.ofKey_drawn _ _) same

theorem phone_identifies (id : Uuid) :
    handle (pairing.carIdFrame id) pairing.phoneAccepted =
      (.ok [pairing.identityFrame], pairing.phoneIdentified id) := by
  have fresh : pairing.phoneSession.counter ≠ Session.counterLimit := by
    change 0 ≠ Session.counterLimit
    decide
  exact handle_carId pairing.phoneAccepted (pairing.carIdFrame id).payload pairing.phoneSession id
    pairing.device pairing.secret rfl rfl rfl rfl fresh (pairing.carId_opens id)

/-! The head unit after each of its steps. -/

section Car

variable (storage : σ)

def carAtStart : Car σ :=
  setListener true ((unpaired
    { pairing.runner .responder with reconnecting := pairing.carReconnecting } storage
    pairing.carEntropy pairing.now).subscribe pairing.subscription)

def carReplied : Car σ :=
  afterInit ((pairing.carAtStart storage).record (.frame pairing.carView.clientInit))
    pairing.carView.clientInit

def carComparing (code : String) : Car σ :=
  (atCode ((pairing.carReplied storage).record (.frame pairing.carView.clientFinish))
    pairing.carView).record (.codeShown code)

theorem sent_reply :
    frames (news (pairing.carAtStart storage) (pairing.carReplied storage)) = [pairing.reply] := by
  rw [news_of_trace _ _ [_, _, _] rfl]
  rfl

theorem sent_comparing (code : String) :
    frames (news (pairing.carReplied storage) (pairing.carComparing storage code)) = [] := by
  rw [news_of_trace _ _ [_, _, _] rfl]
  rfl

variable [KeyStorage σ]

def carAccepted (code : String) (id : Uuid) : Car σ :=
  afterAccept (pairing.carComparing storage code) pairing.secrets id

def carAssociated (code : String) (id : Uuid) (kept : σ) : Car σ :=
  associated ((pairing.carAccepted storage code id).record
      (.frame (Identity.encode pairing.device pairing.secret)))
    pairing.device pairing.secrets.next pairing.secret kept

def idEntropy : Entropy :=
  (Session.ofKey pairing.secrets.next (drawnFrom pairing.carEntropy)).2

/-- What is shown, and that the storage gives an id and takes the pairing. -/
structure Course (code : String) (id : Uuid) (kept : σ) : Prop where
  named : pairing.device ≠ Uuid.nil
  listens : pairing.subscription ≠ .nothing
  shows : (pairing.runner .responder).code? pairing.secrets = some code
  given : (KeyStorage.uniqueId storage pairing.idEntropy).1 = .ok id
  taken : ∃ passed written,
    KeyStorage.checkSecret (KeyStorage.uniqueId storage pairing.idEntropy).2.1 pairing.secret =
        (.ok (), passed) ∧
      KeyStorage.saveKey passed pairing.now pairing.device.toText pairing.secrets.next =
        (.ok (), written) ∧
      KeyStorage.saveSecret written pairing.now pairing.device.toText pairing.secret =
        (.ok (), kept)

variable {storage} {code : String} {id : Uuid} {kept : σ}

theorem car_replies :
    (pairing.carAtStart storage).receive pairing.request .handshake = pairing.carReplied storage :=
  (receive_clear (pairing.carAtStart storage) _ nofun).trans
    (request_exact (pairing.carAtStart storage) _ rfl rfl rfl rfl pairing.carView.framedInit)

theorem car_compares (shows : (pairing.runner .responder).code? pairing.secrets = some code) :
    (pairing.carReplied storage).receive pairing.finish .handshake =
      pairing.carComparing storage code :=
  (receive_clear (pairing.carReplied storage) _ nofun).trans
    (finish_shows (pairing.carReplied storage) pairing.carView code rfl rfl rfl rfl rfl shows rfl)

theorem car_accepts (course : pairing.Course storage code id kept) :
    Association.accept (pairing.carComparing storage code) = pairing.carAccepted storage code id :=
  Association.accept_exact (pairing.carComparing storage code) pairing.secrets id rfl rfl rfl
    course.given

theorem car_associates (course : pairing.Course storage code id kept) :
    (pairing.carAccepted storage code id).receive pairing.identityFrame .handshake =
      pairing.carAssociated storage code id kept := by
  obtain ⟨passed, written, checks, keys, keeps⟩ := course.taken
  -- The head unit has sealed its id since, which moves its counter only.
  have opens := pairing.identity_opens { pairing.carSession with counter := 1 } rfl
  have received : (pairing.carAccepted storage code id).receive pairing.identityFrame .handshake =
      (pairing.carAccepted storage code id).handshake
        (Identity.encode pairing.device pairing.secret) :=
    receive_sealed _ _ _ _ nofun rfl opens
  rw [received]
  exact identity_associates (pairing.carAccepted storage code id) _ _ pairing.device pairing.secret
    passed written kept rfl rfl rfl rfl course.listens
    (Identity.decode_encode pairing.device pairing.secret course.named) checks keys keeps

theorem sent_carId :
    frames (news (pairing.carComparing storage code) (pairing.carAccepted storage code id)) =
      [pairing.carIdFrame id] := by
  rw [news_of_trace _ _ [_, _, _] rfl]
  rfl

theorem sent_associated :
    frames (news (pairing.carAccepted storage code id) (pairing.carAssociated storage code id kept)) =
      [] := by
  rw [news_of_trace _ _ [_, _, _, _, _, _, _] rfl]
  rfl

end Car

inductive Progress where
  | fresh
  | requested
  | replied
  | phoneComparing
  /-- The user of the phone has accepted before the head unit shows its code. -/
  | phoneAhead
  | comparing
  | phoneFirst
  | carFirst
  | accepted
  | identified
  | associated
deriving DecidableEq

namespace Progress

/-- The stage that a move leads to, if it can be made. -/
def next? : Progress → Move → Option Progress
  | .fresh, .phoneStarts => some .requested
  | .requested, .carReceives => some .replied
  | .replied, .phoneReceives => some .phoneComparing
  | .phoneComparing, .carReceives => some .comparing
  | .phoneComparing, .phoneAccepts => some .phoneAhead
  | .phoneAhead, .carReceives => some .phoneFirst
  | .comparing, .phoneAccepts => some .phoneFirst
  | .comparing, .carAccepts => some .carFirst
  | .phoneFirst, .carAccepts => some .accepted
  | .carFirst, .phoneAccepts => some .accepted
  | .accepted, .phoneReceives => some .identified
  | .identified, .carReceives => some .associated
  | _, _ => none

def moves : Progress → Nat
  | .fresh => 0
  | .requested => 1
  | .replied => 2
  | .phoneComparing => 3
  | .phoneAhead | .comparing => 4
  | .phoneFirst | .carFirst => 5
  | .accepted => 6
  | .identified => 7
  | .associated => 8

theorem moves_next {stage next : Progress} {move : Move} (made : stage.next? move = some next) :
    next.moves = stage.moves + 1 := by
  cases stage <;> cases move <;> cases made <;> rfl

theorem moves_bound (stage : Progress) : stage.moves ≤ 8 := by
  cases stage <;> decide

theorem moves_associated {stage : Progress} (all : stage.moves = 8) : stage = .associated := by
  cases stage <;> first | rfl | cases all

-- Only the last stage has no move left.
theorem next_exists (stage : Progress) (unfinished : stage ≠ .associated) :
    ∃ move next, stage.next? move = some next := by
  cases stage with
  | fresh => exact ⟨.phoneStarts, _, rfl⟩
  | requested => exact ⟨.carReceives, _, rfl⟩
  | replied => exact ⟨.phoneReceives, _, rfl⟩
  | phoneComparing => exact ⟨.carReceives, _, rfl⟩
  | phoneAhead => exact ⟨.carReceives, _, rfl⟩
  | comparing => exact ⟨.carAccepts, _, rfl⟩
  | phoneFirst => exact ⟨.carAccepts, _, rfl⟩
  | carFirst => exact ⟨.phoneAccepts, _, rfl⟩
  | accepted => exact ⟨.phoneReceives, _, rfl⟩
  | identified => exact ⟨.carReceives, _, rfl⟩
  | associated => exact absurd rfl unfinished

end Progress

section Simulation

variable [KeyStorage σ] (storage : σ) (code : String) (id : Uuid) (kept : σ)

def exchange : Progress → Exchange σ
  | .fresh => { car := pairing.carAtStart storage, phone := pairing.phoneAtStart }
  | .requested =>
      { car := pairing.carAtStart storage, phone := pairing.phoneRequesting
        toCar := [pairing.request] }
  | .replied =>
      { car := pairing.carReplied storage, phone := pairing.phoneRequesting
        toPhone := [pairing.reply] }
  | .phoneComparing =>
      { car := pairing.carReplied storage, phone := pairing.phoneComparing
        toCar := [pairing.finish] }
  | .phoneAhead =>
      { car := pairing.carReplied storage, phone := pairing.phoneAccepted
        toCar := [pairing.finish] }
  | .comparing => { car := pairing.carComparing storage code, phone := pairing.phoneComparing }
  | .phoneFirst => { car := pairing.carComparing storage code, phone := pairing.phoneAccepted }
  | .carFirst =>
      { car := pairing.carAccepted storage code id, phone := pairing.phoneComparing
        toPhone := [pairing.carIdFrame id] }
  | .accepted =>
      { car := pairing.carAccepted storage code id, phone := pairing.phoneAccepted
        toPhone := [pairing.carIdFrame id] }
  | .identified =>
      { car := pairing.carAccepted storage code id, phone := pairing.phoneIdentified id
        toCar := [pairing.identityFrame] }
  | .associated =>
      { car := pairing.carAssociated storage code id kept, phone := pairing.phoneIdentified id }

variable {storage code id kept}

theorem step_phoneStarts (stage : Progress) :
    (pairing.exchange storage code id kept stage).step? .phoneStarts =
      (stage.next? .phoneStarts).map (pairing.exchange storage code id kept) := by
  cases stage with
  | fresh => exact congrArg some (onPhone_ok _ pairing.phone_starts)
  -- An end that has a code to compare is past its start.
  | phoneComparing => exact if_neg (awaited_ne_unknown _)
  | comparing => exact if_neg (awaited_ne_unknown _)
  | carFirst => exact if_neg (awaited_ne_unknown _)
  | _ => rfl

theorem step_carReceives (course : pairing.Course storage code id kept) (stage : Progress) :
    (pairing.exchange storage code id kept stage).step? .carReceives =
      (stage.next? .carReceives).map (pairing.exchange storage code id kept) := by
  cases stage with
  | requested =>
      exact congrArg some (onCar_exact pairing.car_replies (pairing.sent_reply storage))
  | phoneComparing =>
      exact congrArg some (onCar_exact (pairing.car_compares course.shows)
        (pairing.sent_comparing storage code))
  | phoneAhead =>
      exact congrArg some (onCar_exact (pairing.car_compares course.shows)
        (pairing.sent_comparing storage code))
  | identified =>
      exact congrArg some (onCar_exact (pairing.car_associates course) pairing.sent_associated)
  | _ => rfl

theorem step_phoneReceives (stage : Progress) :
    (pairing.exchange storage code id kept stage).step? .phoneReceives =
      (stage.next? .phoneReceives).map (pairing.exchange storage code id kept) := by
  have asks : (pairing.phoneComparing).state.Asks := awaited_cases _
  cases stage with
  | replied => exact congrArg some (onPhone_ok _ pairing.phone_compares)
  -- The id has arrived, but the user of the phone has not accepted yet.
  | carFirst => exact if_pos ⟨rfl, asks⟩
  | accepted => exact congrArg some (onPhone_ok _ (pairing.phone_identifies id))
  | _ => rfl

theorem step_carAccepts (course : pairing.Course storage code id kept) (stage : Progress) :
    (pairing.exchange storage code id kept stage).step? .carAccepts =
      (stage.next? .carAccepts).map (pairing.exchange storage code id kept) := by
  have asks : (pairing.carComparing storage code).state.Asks := awaited_cases _
  cases stage with
  | comparing =>
      exact (if_pos asks).trans
        (congrArg some (onCar_exact (pairing.car_accepts course) pairing.sent_carId))
  | phoneFirst =>
      exact (if_pos asks).trans
        (congrArg some (onCar_exact (pairing.car_accepts course) pairing.sent_carId))
  | _ => rfl

theorem step_phoneAccepts (stage : Progress) :
    (pairing.exchange storage code id kept stage).step? .phoneAccepts =
      (stage.next? .phoneAccepts).map (pairing.exchange storage code id kept) := by
  have asks : (pairing.phoneComparing).state.Asks := awaited_cases _
  cases stage with
  | phoneComparing => exact (if_pos asks).trans (congrArg some (onPhone_ok _ pairing.phone_accepts))
  | comparing => exact (if_pos asks).trans (congrArg some (onPhone_ok _ pairing.phone_accepts))
  | carFirst => exact (if_pos asks).trans (congrArg some (onPhone_ok _ pairing.phone_accepts))
  | _ => rfl

-- The stages move as the two ends do.
theorem step_exchange (course : pairing.Course storage code id kept) (stage : Progress)
    (move : Move) :
    (pairing.exchange storage code id kept stage).step? move =
      (stage.next? move).map (pairing.exchange storage code id kept) := by
  cases move with
  | phoneStarts => exact pairing.step_phoneStarts stage
  | carReceives => exact pairing.step_carReceives course stage
  | phoneReceives => exact pairing.step_phoneReceives stage
  | carAccepts => exact pairing.step_carAccepts course stage
  | phoneAccepts => exact pairing.step_phoneAccepts stage

theorem staged (course : pairing.Course storage code id kept) :
    Staged Exchange.step? (pairing.exchange storage code id kept) Progress.next? Progress.moves
      .associated where
  simulates := pairing.step_exchange course
  counts := Progress.moves_next
  bounded := Progress.moves_bound
  ends := Progress.moves_associated
  goes := Progress.next_exists

end Simulation

end Pairing

end CarPairing
