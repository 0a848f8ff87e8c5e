import CarPairing.Channel.Error
import CarPairing.DeviceMessage
import CarPairing.Handshake.Runner

/-!
Everything that a channel does to the outside or hears from it. The events of a
channel in their order are what its behaviour is stated about.
-/

namespace CarPairing

/-- What the application is told. -/
inductive Notice where
  | deviceId (id : String)
  | established
  | failed (error : ChannelError)
  | message (message : DeviceMessage)
  | messageError (error : ChannelError)
deriving DecidableEq

/-- What the application wants to be told. -/
inductive Subscription where
  | nothing
  /-- The handshake, but no application traffic. -/
  | lifecycle
  | everything
deriving DecidableEq

def Subscription.hears : Subscription → Notice → Bool
  | .nothing, _ => false
  | .lifecycle, .message _ => false
  | .lifecycle, .messageError _ => false
  | _, _ => true

inductive StorageCall where
  | saveKey (id : String) (key : Key)
  | key (id : String)
  | saveSecret (id : String) (secret : Bytes)
  | checkSecret (secret : Bytes)
  | remove (id : String)
  | uniqueId
deriving DecidableEq

/-- What a flavor may note on its own. -/
inductive Observation where
  | state (state : HandshakeState)
  | hasKey (present : Bool)
  | answer (message : HandshakeMessage)
  | uniqueId (id : Uuid)
  | removed (known : Bool)
deriving DecidableEq

inductive Event where
  /-- The runner was put in its mode. -/
  | prepared (reconnecting : Bool)
  /-- A handshake frame is being processed. -/
  | frame (payload : Bytes)
  | asked (request : Request) (answer : Answer)
  | stored (call : StorageCall) (outcome : Except StoreError Unit)
  | sent (operation : Operation) (message : DeviceMessage)
  | codeShown (code : String)
  | notified (notice : Notice)
  | observed (observation : Observation)
  /-- The flavor dropped what it held. -/
  | aborted

end CarPairing
