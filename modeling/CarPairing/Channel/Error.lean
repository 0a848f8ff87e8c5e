import CarPairing.Handshake.Message
import CarPairing.Store.KeyStore

/-!
Errors of a channel. Only a message that does not open leaves the channel as it
was; every other error ends it.
-/

namespace CarPairing

inductive ChannelError where
  | invalidHandshake (cause : HandshakeError)
  | invalidMessage (detail : String)
  | invalidDeviceId (detail : String)
  | invalidVerification (detail : String)
  | invalidState (detail : String)
  | invalidEncryptionKey (detail : String)
  | storage (cause : StoreError)
deriving DecidableEq

namespace ChannelError

def message : ChannelError → String
  | .invalidHandshake cause => s!"Invalid handshake message: {cause.message}"
  | .invalidMessage detail => s!"Invalid message: {detail}"
  | .invalidDeviceId detail => s!"Invalid device id: {detail}"
  | .invalidVerification detail => s!"Invalid verification: {detail}"
  | .invalidState detail => s!"Invalid state: {detail}"
  | .invalidEncryptionKey detail => s!"Invalid encryption key: {detail}"
  | .storage cause => s!"Storage error: {cause.message}"

/-- The name under which an error is reported to applications. -/
def code : ChannelError → String
  | .invalidHandshake _ => "CHANNEL_ERROR_INVALID_HANDSHAKE"
  | .invalidMessage _ => "CHANNEL_ERROR_INVALID_MSG"
  | .invalidDeviceId _ => "CHANNEL_ERROR_INVALID_DEVICE_ID"
  | .invalidVerification _ => "CHANNEL_ERROR_INVALID_VERIFICATION"
  | .invalidState _ => "CHANNEL_ERROR_INVALID_STATE"
  | .invalidEncryptionKey _ => "CHANNEL_ERROR_INVALID_ENCRYPTION_KEY"
  | .storage _ => "CHANNEL_ERROR_STORAGE_ERROR"

def number : ChannelError → Nat
  | .invalidHandshake _ => 0
  | .invalidMessage _ => 1
  | .invalidDeviceId _ => 2
  | .invalidVerification _ => 3
  | .invalidState _ => 4
  | .invalidEncryptionKey _ => 5
  | .storage _ => 6

def fatal : ChannelError → Bool
  | .invalidMessage _ => false
  | _ => true

/-- The messages from the error to its cause. -/
def chain (error : ChannelError) : List String :=
  match error with
  | .invalidHandshake cause => [error.message, cause.message]
  | .storage cause => [error.message, cause.message]
  | _ => [error.message]

end ChannelError

end CarPairing
