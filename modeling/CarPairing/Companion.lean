import CarPairing.Channel.Error
import CarPairing.DeviceMessage
import CarPairing.Handshake.Runner
import CarPairing.Identity
import CarPairing.Session
import CarPairing.VerificationCode

/-!
The phone's end of a connection, driven by hand: `start` gives the first frame,
`handle` takes a frame of the head unit and gives the ones to send back. A call
that fails leaves everything as it was but the runner and what it has drawn.
-/

namespace CarPairing

/-- The code that the phone shows. -/
inductive Verification where
  | numeric (code : String)
  | outOfBand (code : Bytes)
deriving DecidableEq

def Verification.display : Verification → String
  | .numeric code => code
  | .outOfBand code => VerificationCode.outOfBand code

/-- What the phone is out for. -/
inductive Purpose where
  | associate (deviceId : Uuid) (secret : Bytes)
  | reconnect (previous : Key)
deriving DecidableEq

structure Companion (ρ : Type) where
  runner : ρ
  purpose : Purpose
  entropy : Entropy
  state : HandshakeState := .unknown
  verification : Option Verification := none
  key : Option Key := none
  session : Option Session := none
  carId : Option Uuid := none
  established : Bool := false
  /-- Whether the runner was told to resume. -/
  resumes : Bool
  /-- Requests to the runner with its answers, the last first. -/
  trace : List (Request × Answer) := []

namespace Companion

abbrev Step (ρ α : Type) := ExceptT ChannelError (StateM (Companion ρ)) α

variable {ρ : Type}

def associate [Runner ρ] (runner : ρ) (deviceId : Uuid) (secret : Bytes) (entropy : Entropy) :
    Companion ρ :=
  { runner := Runner.setReconnect runner false, purpose := .associate deviceId secret
    entropy, resumes := false }

def reconnect [Runner ρ] (runner : ρ) (previous : Key) (entropy : Entropy) : Companion ρ :=
  { runner := Runner.setReconnect runner true, purpose := .reconnect previous
    entropy, resumes := true }

def ask [Runner ρ] (request : Request) : Step ρ Answer := do
  let phone ← get
  let (answer, runner, entropy) := Runner.answer phone.runner request phone.entropy
  set { phone with runner, entropy, trace := (request, answer) :: phone.trace }
  pure answer

def demand [Runner ρ] (request : Request) : Step ρ HandshakeMessage := do
  match ← ask request with
  | .ok message => pure message
  | .error error => throw (.invalidHandshake error)

def clear (payload : Bytes) : DeviceMessage :=
  { encrypted := false, payload }

def installKey (key : Key) : Step ρ Unit :=
  modify fun phone =>
    let (session, entropy) := Session.ofKey key phone.entropy
    { phone with key := some key, session := some session, entropy }

def encrypt (plaintext : Bytes) : Step ρ Bytes := do
  match (← get).session with
  | none => throw (.invalidState "no encryption key installed")
  | some session =>
      let (outcome, session) := session.wrap plaintext
      modify fun phone => { phone with session := some session }
      match outcome with
      | .ok payload => pure payload
      | .error error => throw (.invalidEncryptionKey error.message)

def decrypted (phone : Companion ρ) (payload : Bytes) : Except ChannelError Bytes :=
  match phone.session with
  | none => .error (.invalidState "no encryption key installed")
  | some session =>
      match session.unwrap payload with
      | .ok plaintext => .ok plaintext
      | .error error => .error (.invalidMessage error.message)

def opened (phone : Companion ρ) (message : DeviceMessage) : Except ChannelError Bytes :=
  if message.encrypted then phone.decrypted message.payload else .ok message.payload

/-- The first frame. -/
def start [Runner ρ] : Step ρ DeviceMessage := do
  if (← get).state = .unknown then
    let response ← demand .init
    match response.next with
    | none => throw (.invalidState "runner produced no init request")
    | some clientInit =>
        modify fun phone => { phone with state := response.state }
        pure (clear clientInit)
  else throw (.invalidState "handshake already started")

def handleServerInit [Runner ρ] (payload : Bytes) : Step ρ (List DeviceMessage) := do
  let response ← demand (.continue payload)
  match response.next with
  | none => throw (.invalidState "runner produced no client finish")
  | some clientFinish =>
      match response.state, (← get).purpose with
      | .verificationNeeded, .associate .. =>
          match response.code with
          | none => throw (.invalidVerification "runner produced no verification code")
          | some code =>
              modify fun phone =>
                { phone with verification := some (.numeric code), state := response.state }
              pure [clear clientFinish]
      | .oobVerificationNeeded, .associate .. =>
          match response.oobCode with
          | none =>
              throw (.invalidVerification "runner produced no out-of-band verification code")
          | some code =>
              modify fun phone =>
                { phone with verification := some (.outOfBand code), state := response.state }
              pure [clear clientFinish]
      | .resumingSession, .reconnect previous =>
          let answer ← demand (.prove previous)
          match answer.next with
          | none => throw (.invalidState "runner produced no resumption proof")
          | some proof =>
              modify fun phone => { phone with state := response.state }
              pure [clear clientFinish, clear proof]
      | other, _ =>
          throw (.invalidState s!"unexpected runner state {other.name} after server init")

def handleProof [Runner ρ] (payload : Bytes) (previous : Key) : Step ρ (List DeviceMessage) := do
  let response ← demand (.resume payload previous)
  if response.state = .finished then
    match response.key with
    | none => throw (.invalidEncryptionKey "resumption finished without a key")
    | some key =>
        installKey key
        modify fun phone => { phone with state := .finished, established := true }
        pure []
  else throw (.invalidState s!"handshake not finished after resumption: {response.state.name}")

def handleCarId (payload : Bytes) (deviceId : Uuid) (secret : Bytes) :
    Step ρ (List DeviceMessage) := do
  match Uuid.ofBytes? payload with
  | none =>
      throw (.invalidDeviceId
        s!"unique id must be {Uuid.size} bytes, got {payload.length}")
  | some carId =>
      let identity ← encrypt (Identity.encode deviceId secret)
      modify fun phone => { phone with carId := some carId, established := true }
      pure [{ encrypted := true, payload := identity }]

def handleFrame [Runner ρ] (message : DeviceMessage) : Step ρ (List DeviceMessage) := do
  let phone ← get
  if phone.established then throw (.invalidState "handshake already complete")
  else
    match phone.opened message with
    | .error error => throw error
    | .ok payload =>
        match phone.state, phone.purpose, message.encrypted with
        | .inProgress, _, _ => handleServerInit payload
        | .resumingSession, .reconnect previous, _ => handleProof payload previous
        | .finished, .associate deviceId secret, true => handleCarId payload deviceId secret
        | other, _, _ =>
            throw (.invalidState s!"unexpected handshake message in state {other.name}")

def acceptCode [Runner ρ] : Step ρ Unit := do
  let state := (← get).state
  if state = .verificationNeeded ∨ state = .oobVerificationNeeded then
    match ← ask .verify with
    | .error error => throw (.invalidVerification error.message)
    | .ok response =>
        if response.state = .finished then
          match response.key with
          | none => throw (.invalidEncryptionKey "handshake finished without a key")
          | some key =>
              installKey key
              modify fun phone => { phone with state := .finished }
        else
          throw (.invalidState
            s!"handshake not finished after pin verification: {response.state.name}")
  else throw (.invalidState s!"nothing to verify in state {state.name}")

def requireEstablished : Step ρ Unit := do
  if (← get).established then pure () else throw (.invalidState "handshake not complete")

def sealMessage (recipient : Option Uuid) (payload : Bytes) : Step ρ DeviceMessage := do
  requireEstablished
  pure { recipient, encrypted := true, payload := ← encrypt payload }

/-- A frame of the head unit, and the frames to send back. -/
def handle [Runner ρ] (message : DeviceMessage) (phone : Companion ρ) :
    Except ChannelError (List DeviceMessage) × Companion ρ :=
  (handleFrame message).run phone

/-- The user has found the codes the same. -/
def accept [Runner ρ] (phone : Companion ρ) : Except ChannelError Unit × Companion ρ :=
  acceptCode.run phone

/-- A message of an application to the head unit. -/
def wrap (recipient : Option Uuid) (payload : Bytes) (phone : Companion ρ) :
    Except ChannelError DeviceMessage × Companion ρ :=
  (sealMessage recipient payload).run phone

/-- What the head unit sent an application. -/
def unwrap (message : DeviceMessage) (phone : Companion ρ) : Except ChannelError Bytes :=
  if phone.established then
    match phone.session with
    | none => .error (.invalidState "no encryption key installed")
    | some _ => phone.opened message
  else .error (.invalidState "handshake not complete")

def describe (phone : Companion ρ) : String :=
  Quoted.openRecord "Companion"
    [("state", phone.state.describe),
     ("established", toString phone.established),
     ("car_unique_id", Quoted.option Uuid.toText phone.carId)]

end Companion

end CarPairing
