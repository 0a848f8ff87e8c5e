import CarPairing.Channel.Association
import CarPairing.Channel.Reconnect
import CarPairing.Command.Console
import CarPairing.Handshake.Agreement

/-!
Whole handshakes of a head unit with a simulated phone. The head unit keeps its
keys in the key store of the user, so a device paired here can be listed,
reconnected and forgotten later.
-/

namespace CarPairing

structure PairOptions where
  outOfBand : Bool := false
  codeDigits : Nat := 6
  secretSize : Nat := 32
  /-- Seconds that a stage of a handshake may take. All frames of a link in one
  process are there at once, so no stage takes any time or waits for ever. -/
  timeoutSeconds : Nat := 30
  /-- Take the codes for equal without asking. -/
  autoAccept : Bool := false
deriving DecidableEq

def PairOptions.ofSettings (settings : Settings) (outOfBand autoAccept : Bool) : PairOptions :=
  { outOfBand := outOfBand || settings.channel.mode == .outOfBand
    codeDigits := settings.channel.codeDigits
    secretSize := settings.storage.secretSize
    timeoutSeconds := settings.channel.timeoutSeconds
    autoAccept }

structure Paired where
  deviceId : Uuid
  headUnitId : Uuid
  code : String
deriving DecidableEq

namespace Command

variable {δ : Type} [Disk δ]

abbrev Wire (φ δ : Type) := Link φ Agreement (FileStorage δ)

/-- A head unit with its runner, and a phone, joined. -/
def connect {φ : Type} [Flavor φ] (flavor : φ) (runner : Agreement) (storage : FileStorage δ)
    (phone : Entropy → Companion Agreement) : Command δ (Wire φ δ) := do
  let console ← get
  let car := Channel.make flavor runner storage console.entropy console.now
  pure (Link.make (car.subscribe .lifecycle) (phone console.entropy) console.entropy)

/-- Associates a new phone with the head unit. -/
def pair (path : String) (options : PairOptions) : Command δ Paired := do
  let storage ← openStore path options.secretSize
  let deviceId ← draw Uuid.random
  let secret ← draw (·.draw options.secretSize)
  let runner (role : Role) : Agreement :=
    { role, outOfBand := options.outOfBand, digits := options.codeDigits }
  let link ← connect ({ listening := true } : Association) (runner .responder) storage
    (Companion.associate (runner .initiator) deviceId secret)
  let link ← onLink .agreement link do
    Link.start
    Link.check
    Link.relay
    Link.check
  let code ← require link.codeShown? .noCodeShown
  let phoneCode ← require (link.phone.verification.map Verification.display) .noCodeDerived
  printLine s!"Head unit shows: {VerificationCode.grouped code}"
  printLine s!"Phone shows:     {VerificationCode.grouped phoneCode}"
  let same ← if options.autoAccept then pure true else confirm
  if !same then throw .cancelled
  let link ← onLink .confirmation link do
    Link.phoneAccepts
    Link.onCar Association.accept
    Link.check
    Link.relay
    Link.check
  if !link.car.isEstablished || !link.notices.contains .established then throw .notConfirmed
  let headUnitId ← require link.phone.carId .noHeadUnitId
  pure { deviceId, headUnitId, code }

/-- Resumes with a paired device under its stored key. -/
def reconnect (path : String) (deviceId : Uuid) (options : PairOptions) : Command δ Unit := do
  let storage ← openStore path options.secretSize
  let id := deviceId.toText
  let previous ← require (KeyStorage.key? storage id) (.notPaired deviceId)
  let link ← connect ({ deviceId := id } : Reconnect) { role := .responder } storage
    (Companion.reconnect ({ role := .initiator } : Agreement) previous)
  let link ← onLink .resumption link do
    Link.start
    Link.check
    Link.relay
    Link.check
    Link.relay
    Link.check
  if !link.car.isEstablished || !link.phone.established then throw .notResumed

end Command

end CarPairing
