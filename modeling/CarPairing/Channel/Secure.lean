import CarPairing.Channel.Event
import CarPairing.Session
import CarPairing.Store.Storage

/-!
The head unit's end of a connection. A channel is driven from outside, frame by
frame; what a handshake frame means is left to its flavor, which works on the
channel through the steps below. An error of a handshake step ends the channel,
and what the step had done by then stays done.
-/

namespace CarPairing

inductive Lifecycle where
  | active
  | established
  | failed
deriving DecidableEq

def Lifecycle.describe : Lifecycle → String
  | .active => "Active"
  | .established => "Established"
  | .failed => "Failed"

structure Channel (φ ρ σ : Type) where
  flavor : φ
  runner : ρ
  storage : σ
  entropy : Entropy
  now : Int
  subscription : Subscription := .nothing
  state : HandshakeState := .unknown
  session : Option Session := none
  lifecycle : Lifecycle := .active
  /-- The application has been told the device id. -/
  identified : Bool := false
  /-- What happened, last event first. -/
  trace : List Event := []

namespace Channel

/-- A step of a handshake. -/
abbrev Step (φ ρ σ α : Type) := ExceptT ChannelError (StateM (Channel φ ρ σ)) α

variable {φ ρ σ α : Type}

def record (event : Event) (channel : Channel φ ρ σ) : Channel φ ρ σ :=
  { channel with trace := event :: channel.trace }

def notify (notice : Notice) (channel : Channel φ ρ σ) : Channel φ ρ σ :=
  if channel.subscription.hears notice then channel.record (.notified notice) else channel

section Steps

def ask [Runner ρ] (request : Request) : Step φ ρ σ Answer := do
  let channel ← get
  let (answer, runner, entropy) := Runner.answer channel.runner request channel.entropy
  set { channel with runner, entropy, trace := .asked request answer :: channel.trace }
  pure answer

/-- The runner's answer, its error ending the handshake. -/
def demand [Runner ρ] (request : Request) : Step φ ρ σ HandshakeMessage := do
  match ← ask request with
  | .ok message => pure message
  | .error error => throw (.invalidHandshake error)

/-- One call of the storage. Its error is for the caller to handle. -/
def callStorage (call : StorageCall)
    (run : Channel φ ρ σ → Except StoreError α × σ × Entropy) : Step φ ρ σ (Except StoreError α) := do
  let channel ← get
  let (outcome, storage, entropy) := run channel
  let event := Event.stored call (outcome.map fun _ => ())
  set { channel with storage, entropy, trace := event :: channel.trace }
  pure outcome

def accepted : Except StoreError α → Step φ ρ σ α
  | .ok value => pure value
  | .error error => throw (.storage error)

section Storage

variable [KeyStorage σ]

def saveKey (id : String) (key : Key) : Step φ ρ σ (Except StoreError Unit) :=
  callStorage (.saveKey id key) fun channel =>
    let (outcome, storage) := KeyStorage.saveKey channel.storage channel.now id key
    (outcome, storage, channel.entropy)

def storedKey? (id : String) : Step φ ρ σ (Option Key) := do
  let channel ← get
  set (channel.record (.stored (.key id) (.ok ())))
  pure (KeyStorage.key? channel.storage id)

def saveSecret (id : String) (secret : Bytes) : Step φ ρ σ (Except StoreError Unit) :=
  callStorage (.saveSecret id secret) fun channel =>
    let (outcome, storage) := KeyStorage.saveSecret channel.storage channel.now id secret
    (outcome, storage, channel.entropy)

def checkSecret (secret : Bytes) : Step φ ρ σ (Except StoreError Unit) :=
  callStorage (.checkSecret secret) fun channel =>
    let (outcome, storage) := KeyStorage.checkSecret channel.storage secret
    (outcome, storage, channel.entropy)

def forget (id : String) : Step φ ρ σ (Except StoreError Bool) :=
  callStorage (.remove id) fun channel =>
    let (outcome, storage) := KeyStorage.remove channel.storage id
    (outcome, storage, channel.entropy)

def uniqueId : Step φ ρ σ (Except StoreError Uuid) :=
  callStorage .uniqueId fun channel => KeyStorage.uniqueId channel.storage channel.entropy

end Storage

def setState (state : HandshakeState) : Step φ ρ σ Unit :=
  modify fun channel => { channel with state }

/-- From here on frames can be sealed and opened under the key. -/
def installKey (key : Key) : Step φ ρ σ Unit :=
  modify fun channel =>
    let (session, entropy) := Session.ofKey key channel.entropy
    { channel with session := some session, entropy }

def encrypt (plaintext : Bytes) : Step φ ρ σ Bytes := do
  match (← get).session with
  | none => throw (.invalidState "no encryption key installed")
  | some session =>
      let (outcome, session) := session.wrap plaintext
      modify fun channel => { channel with session := some session }
      match outcome with
      | .ok payload => pure payload
      | .error error => throw (.invalidEncryptionKey error.message)

def sendHandshake (payload : Bytes) (encrypted : Bool) : Step φ ρ σ Unit := do
  let payload ← if encrypted then encrypt payload else pure payload
  modify (record (.sent .handshake { encrypted, payload }))

/-- Tells the application the device id, once. -/
def notifyDeviceId (id : String) : Step φ ρ σ Unit :=
  modify fun channel =>
    if channel.lifecycle = .active ∧ channel.identified = false then
      { channel with identified := true }.notify (.deviceId id)
    else channel

def notifyEstablished : Step φ ρ σ Unit :=
  modify fun channel =>
    if channel.lifecycle = .active then
      { channel with lifecycle := .established }.notify .established
    else channel

end Steps

end Channel

/-- The meaning of handshake frames: association, reconnection, or another. -/
class Flavor (φ : Type) where
  name : φ → String
  /-- The mode that the runner is put in, if the flavor asks for one. -/
  resumes : φ → Option Bool
  process {ρ σ : Type} [Runner ρ] [KeyStorage σ] : Bytes → Channel.Step φ ρ σ Unit
  /-- Drops what may not outlive a failure. -/
  abort : φ → φ

namespace Channel

variable {φ ρ σ : Type}

/-- A channel before its first frame. -/
def make [Flavor φ] [Runner ρ] (flavor : φ) (runner : ρ) (storage : σ) (entropy : Entropy)
    (now : Int) : Channel φ ρ σ :=
  match Flavor.resumes flavor with
  | none => { flavor, runner, storage, entropy, now }
  | some on =>
      { flavor, runner := Runner.setReconnect runner on, storage, entropy, now
        trace := [.prepared on] }

def isEstablished (channel : Channel φ ρ σ) : Bool :=
  channel.lifecycle = .established

def isFailed (channel : Channel φ ρ σ) : Bool :=
  channel.lifecycle = .failed

def fail [Flavor φ] (error : ChannelError) (channel : Channel φ ρ σ) : Channel φ ρ σ :=
  let aborted := { channel with flavor := Flavor.abort channel.flavor }.record .aborted
  if aborted.lifecycle = .active then
    { aborted with lifecycle := .failed, session := none }.notify (.failed error)
  else aborted

/-- Takes a step, whose error ends the channel. -/
def settle [Flavor φ] (step : Step φ ρ σ Unit) (channel : Channel φ ρ σ) : Channel φ ρ σ :=
  match step.run channel with
  | (.ok (), channel) => channel
  | (.error error, channel) => channel.fail error

/-- A handshake frame in clear. A channel that is established or failed ignores it. -/
def handshake [Flavor φ] [Runner ρ] [KeyStorage σ] (payload : Bytes) (channel : Channel φ ρ σ) :
    Channel φ ρ σ :=
  if channel.lifecycle = .active then
    (channel.record (.frame payload)).settle (Flavor.process payload)
  else channel

/-- The payload of a frame as it was before it was sealed. -/
def opened (channel : Channel φ ρ σ) (message : DeviceMessage) : Except ChannelError Bytes :=
  if message.encrypted then
    match channel.session with
    | none => .error (.invalidMessage "encrypted message before key agreement")
    | some session =>
        match session.unwrap message.payload with
        | .ok payload => .ok payload
        | .error error => .error (.invalidMessage error.message)
  else .ok message.payload

/-- A frame from the peer. -/
def receive [Flavor φ] [Runner ρ] [KeyStorage σ] (message : DeviceMessage) (operation : Operation)
    (channel : Channel φ ρ σ) : Channel φ ρ σ :=
  if channel.lifecycle = .failed then channel
  else
    match channel.opened message with
    | .error error => channel.notify (.messageError error)
    | .ok payload =>
        match operation with
        | .handshake => channel.handshake payload
        | .client =>
            if channel.lifecycle = .established then
              channel.notify (.message { message with payload })
            else
              channel.notify
                (.messageError (.invalidMessage "client message before the channel was established"))

def sendClient (message : DeviceMessage) : Step φ ρ σ Unit := do
  if (← get).lifecycle = .established then
    let payload ← if message.encrypted then encrypt message.payload else pure message.payload
    modify (record (.sent .client { message with payload }))
  else throw (.invalidState "channel is not established")

/-- A message of the application to the peer. -/
def send (message : DeviceMessage) (channel : Channel φ ρ σ) :
    Except ChannelError Unit × Channel φ ρ σ :=
  (sendClient message).run channel

def subscribe (subscription : Subscription) (channel : Channel φ ρ σ) : Channel φ ρ σ :=
  { channel with subscription }

def describe [Flavor φ] (channel : Channel φ ρ σ) : String :=
  Quoted.openRecord "SecureChannel"
    [("flavor", Quoted.text (Flavor.name channel.flavor)),
     ("state", channel.state.describe),
     ("lifecycle", channel.lifecycle.describe),
     ("has_encryption_key", toString channel.session.isSome)]

end Channel

end CarPairing
