import CarPairing.Channel.Secure

/-!
A flavor that is told what to do with each frame. It can do to a channel
whatever a flavor can, in any order, which the real flavors do not.
-/

namespace CarPairing

/-- One step of a flavor. -/
inductive Action where
  | setState (state : HandshakeState)
  | observeState
  | send (payload : Bytes) (encrypted : Bool)
  /-- Send the frame back. -/
  | echo (encrypted : Bool)
  | setKey (key : Key)
  | observeKey
  | deviceId (id : String)
  | established
  | fail (error : ChannelError)
  | ask (request : Request)
  | uniqueId
  | saveKey (id : String) (key : Key)
  | forget (id : String)

structure Script where
  name : String := "custom"
  resumes : Option Bool := none
  /-- The actions for each frame to come. -/
  frames : List (List Action) := []

namespace Script

open Channel

variable {ρ σ : Type} [Runner ρ] [KeyStorage σ]

def observe (observation : Observation) : Step Script ρ σ Unit :=
  modify (record (.observed observation))

def perform (frame : Bytes) : Action → Step Script ρ σ Unit
  | .setState state => setState state
  | .observeState => do observe (.state (← get).state)
  | .send payload encrypted => sendHandshake payload encrypted
  | .echo encrypted => sendHandshake frame encrypted
  | .setKey key => installKey key
  | .observeKey => do observe (.hasKey (← get).session.isSome)
  | .deviceId id => notifyDeviceId id
  | .established => notifyEstablished
  | .fail error => throw error
  | .ask request => do observe (.answer (← demand request))
  | .uniqueId => do observe (.uniqueId (← accepted (← Channel.uniqueId)))
  | .saveKey id key => do accepted (← Channel.saveKey id key)
  | .forget id => do observe (.removed (← accepted (← Channel.forget id)))

def performAll (frame : Bytes) : List Action → Step Script ρ σ Unit
  | [] => pure ()
  | action :: rest => do
      perform frame action
      performAll frame rest

def process (frame : Bytes) : Step Script ρ σ Unit := do
  let frames := (← get).flavor.frames
  modify fun channel => { channel with flavor := { channel.flavor with frames := frames.tail } }
  performAll frame (frames.headD [])

instance : Flavor Script where
  name script := script.name
  resumes script := script.resumes
  process := process
  abort script := script

end Script

end CarPairing
