import CarPairing.Channel.Secure

/-!
Resuming with a phone that is paired: both sides prove that they hold the key
stored for it, and the resumed key takes its place.
-/

namespace CarPairing

structure Reconnect where
  deviceId : String
  /-- The stored key, from the first frame until it is used up. -/
  previous : Option Key := none
deriving DecidableEq

namespace Reconnect

open Channel

variable {ρ σ : Type} [Runner ρ] [KeyStorage σ]

abbrev Step (ρ σ α : Type) := Channel.Step Reconnect ρ σ α

def hold (previous : Option Key) : Step ρ σ Unit :=
  modify fun channel => { channel with flavor := { channel.flavor with previous } }

def processInit (message : Bytes) : Step ρ σ Unit := do
  let id := (← get).flavor.deviceId
  match ← storedKey? id with
  | none => throw (.invalidEncryptionKey s!"no stored key for device {id}")
  | some previous =>
      hold (some previous)
      let response ← demand (.respond message)
      match response.next with
      | none => throw (.invalidState "runner produced no reply to the init request")
      | some reply =>
          setState response.state
          sendHandshake reply false

def processFinish (message : Bytes) : Step ρ σ Unit := do
  let response ← demand (.continue message)
  if response.state = .resumingSession then setState response.state
  else
    throw (.invalidState
      s!"expected session resumption, runner reported {response.state.name}")

def processProof (message : Bytes) : Step ρ σ Unit := do
  let flavor := (← get).flavor
  match flavor.previous with
  | none => throw (.invalidEncryptionKey "previous key no longer available")
  | some previous =>
      hold none
      let response ← demand (.resume message previous)
      if response.state = .finished then
        match response.key, response.next with
        | none, _ => throw (.invalidEncryptionKey "resumption finished without a key")
        | some _, none => throw (.invalidState "runner produced no resumption proof")
        | some key, some proof =>
            sendHandshake proof false
            setState .finished
            installKey key
            accepted (← saveKey flavor.deviceId key)
            notifyEstablished
      else
        throw (.invalidState s!"handshake not finished after resumption: {response.state.name}")

def process (message : Bytes) : Step ρ σ Unit := do
  match (← get).state with
  | .unknown => processInit message
  | .inProgress => processFinish message
  | .resumingSession => processProof message
  | other => throw (.invalidState s!"unexpected handshake message in state {other.name}")

instance : Flavor Reconnect where
  name _ := "reconnect"
  resumes _ := some true
  process := process
  abort reconnect := { reconnect with previous := none }

end Reconnect

end CarPairing
