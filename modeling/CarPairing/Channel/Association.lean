import CarPairing.Channel.Secure
import CarPairing.Identity
import CarPairing.VerificationCode

/-!
Pairing with a phone that has not been seen before:

    unknown              init request          -> reply; the runner's state
    in progress          client finish         -> code shown; verification needed
    verification needed  the user accepts      -> key installed, id sent; finished
    finished             device id and secret  -> key and secret stored; established

Between acceptance and the identity message the key is only held here, as there
is no id yet to store it under.
-/

namespace CarPairing

structure Association where
  /-- Someone is there to show a code to. -/
  listening : Bool := false
  /-- The accepted key, until the phone has told its id. -/
  pending : Option Key := none
  deviceId : Option Uuid := none
deriving DecidableEq

namespace Association

open Channel

variable {ρ σ : Type} [Runner ρ] [KeyStorage σ]

abbrev Step (ρ σ α : Type) := Channel.Step Association ρ σ α

def showCode (code : String) : Step ρ σ Unit := do
  if (← get).flavor.listening then modify (record (.codeShown code))
  else throw (.invalidState "no verification code listener registered")

def processInit (message : Bytes) : Step ρ σ Unit := do
  let response ← demand (.respond message)
  match response.next with
  | none => throw (.invalidState "runner produced no reply to the init request")
  | some reply =>
      setState response.state
      sendHandshake reply false

def processFinish (message : Bytes) : Step ρ σ Unit := do
  let response ← demand (.continue message)
  match response.state with
  | .verificationNeeded =>
      match response.code with
      | none => throw (.invalidVerification "runner produced no verification code")
      | some code =>
          setState response.state
          showCode code
  | .oobVerificationNeeded =>
      match response.oobCode with
      | none | some [] =>
          throw (.invalidVerification "runner produced no out-of-band verification code")
      | some code =>
          setState response.state
          showCode (VerificationCode.outOfBand code)
  | other =>
      throw (.invalidState s!"unexpected runner state {other.name} while continuing the handshake")

/-- Undoes the writing of a key whose secret was refused. A rollback that fails
too is not reported. -/
def rollBack (id : String) (previous : Option Key) : Step ρ σ Unit := do
  match previous with
  | some key => let _ ← saveKey id key
  | none => let _ ← forget id

def processIdentity (message : Bytes) : Step ρ σ Unit := do
  match (← get).flavor.pending with
  | none => throw (.invalidState "device id received without a verified key")
  | some key =>
      modify fun channel => { channel with flavor := { channel.flavor with pending := none } }
      match Identity.decode message with
      | .error error => throw (.invalidDeviceId error.message)
      | .ok (deviceId, secret) =>
          let id := deviceId.toText
          notifyDeviceId id
          accepted (← checkSecret secret)
          let previous ← storedKey? id
          accepted (← saveKey id key)
          match ← saveSecret id secret with
          | .error error =>
              rollBack id previous
              throw (.storage error)
          | .ok () =>
              modify fun channel =>
                { channel with flavor := { channel.flavor with deviceId := some deviceId } }
              notifyEstablished

def process (message : Bytes) : Step ρ σ Unit := do
  match (← get).state with
  | .unknown => processInit message
  | .inProgress => processFinish message
  | .finished => processIdentity message
  | other => throw (.invalidState s!"unexpected handshake message in state {other.name}")

instance : Flavor Association where
  name _ := "association"
  resumes _ := some false
  process := process
  abort association := { association with pending := none }

def acceptCode : Step ρ σ Unit := do
  if (← get).flavor.listening then
    match ← ask .verify with
    | .error error => throw (.invalidVerification error.message)
    | .ok response =>
        if response.state = .finished then
          match response.key with
          | none => throw (.invalidEncryptionKey "handshake finished without a key")
          | some key =>
              setState .finished
              installKey key
              modify fun channel =>
                { channel with flavor := { channel.flavor with pending := some key } }
              let id ← accepted (← uniqueId)
              sendHandshake id.bytes true
        else
          throw (.invalidState
            s!"handshake not finished after pin verification: {response.state.name}")
  else throw (.invalidState "verification accepted with no listener registered")

/-- The user has found the codes the same, or the exchange of them went well. -/
def accept (channel : Channel Association ρ σ) : Channel Association ρ σ :=
  if channel.lifecycle = .active then channel.settle acceptCode else channel

def setListener (on : Bool) (channel : Channel Association ρ σ) : Channel Association ρ σ :=
  { channel with flavor := { channel.flavor with listening := on } }

end Association

end CarPairing
