import CarPairing.Channel.Secure
import CarPairing.Companion

/-!
A head unit and a phone in one process. Frames of the head unit wait in its own
record until they are relayed; what the phone answers goes back at once. Both
ends draw from one stream, in the order in which they are called, and a failed
step keeps what it has done.
-/

namespace CarPairing

structure Link (φ ρ σ : Type) where
  car : Channel φ ρ σ
  phone : Companion ρ
  entropy : Entropy
  /-- How many of the frames of the head unit have reached the phone. -/
  delivered : Nat := 0
  /-- Whether there is still a head unit to take an answer. -/
  carOpen : Bool := true

inductive LinkError where
  /-- The phone could not take a step of its own. -/
  | phone (cause : ChannelError)
  /-- The phone refused a frame. -/
  | refused (cause : ChannelError)
  /-- The head unit failed, and why if anybody was told. -/
  | failed (reason : Option ChannelError)
  /-- All frames are delivered and no more can come. -/
  | closed
  /-- All frames are delivered. -/
  | waiting
deriving DecidableEq

/-- An error as the application is told of it. -/
def ChannelError.report (error : ChannelError) : String :=
  s!"{error.code}: {error.message}"

def LinkError.reasonText : Option ChannelError → String
  | some error => error.report
  | none => "unknown failure"

/-- The messages from the error to its cause. -/
def LinkError.chain : LinkError → List String
  | .phone cause => cause.chain
  | .refused cause => "phone rejected a handshake frame" :: cause.chain
  | .failed reason => [s!"head unit rejected the handshake ({reasonText reason})"]
  | .closed => ["head unit closed the link"]
  | .waiting => ["no frame to relay"]

namespace Link

variable {φ ρ σ α : Type}

abbrev Step (φ ρ σ α : Type) := ExceptT LinkError (StateM (Link φ ρ σ)) α

def make (car : Channel φ ρ σ) (phone : Companion ρ) (entropy : Entropy) : Link φ ρ σ :=
  { car, phone, entropy }

/-- What the head unit has told the application, first notice first. -/
def notices (link : Link φ ρ σ) : List Notice :=
  link.car.trace.reverse.filterMap fun
    | .notified notice => some notice
    | _ => none

def failure? (link : Link φ ρ σ) : Option ChannelError :=
  link.notices.findSome? fun
    | .failed error => some error
    | _ => none

/-- The code that the head unit showed last. -/
def codeShown? (link : Link φ ρ σ) : Option String :=
  link.car.trace.findSome? fun
    | .codeShown code => some code
    | _ => none

/-- Frames of the head unit that have not reached the phone, oldest first. -/
def inFlight (link : Link φ ρ σ) : List DeviceMessage :=
  (link.car.trace.reverse.filterMap fun
    | .sent _ message => some message
    | _ => none).drop link.delivered

def onCar (act : Channel φ ρ σ → Channel φ ρ σ) : Step φ ρ σ Unit :=
  modify fun link =>
    if link.carOpen then
      let car := act { link.car with entropy := link.entropy }
      { link with car, entropy := car.entropy }
    else link

def onPhone (act : Companion ρ → Except ChannelError α × Companion ρ) :
    Step φ ρ σ (Except ChannelError α) := do
  let link ← get
  let (outcome, phone) := act { link.phone with entropy := link.entropy }
  set { link with phone, entropy := phone.entropy }
  pure outcome

def closeCar : Step φ ρ σ Unit :=
  modify fun link => { link with carOpen := false }

variable [Runner ρ]

/-- A step of the phone that makes no frame. -/
def phoneAccepts : Step φ ρ σ Unit := do
  match ← onPhone Companion.accept with
  | .ok () => pure ()
  | .error cause => throw (.phone cause)

/-- Fails if the head unit has. -/
def check : Step φ ρ σ Unit := do
  let link ← get
  if link.car.isFailed then throw (.failed link.failure?) else pure ()

variable [Flavor φ] [KeyStorage σ]

def deliver (message : DeviceMessage) : Step φ ρ σ Unit :=
  onCar (Channel.receive message .handshake)

/-- The first frame of the phone reaches the head unit. -/
def start : Step φ ρ σ Unit := do
  match ← onPhone Companion.start.run with
  | .ok message => deliver message
  | .error cause => throw (.phone cause)

/-- One frame of the head unit reaches the phone, and its answers the head unit. -/
def relay : Step φ ρ σ Unit := do
  let link ← get
  match link.inFlight with
  | [] => throw (if link.carOpen then .waiting else .closed)
  | message :: _ =>
      set { link with delivered := link.delivered + 1 }
      match ← onPhone (Companion.handle message) with
      | .ok replies => replies.forM deliver
      | .error cause => throw (.refused cause)

end Link

end CarPairing
