import CarPairing.Key
import CarPairing.Text.Quoted

/-!
What one step of a key agreement reports: how far the handshake is, the bytes
to send next, the code to compare, or the session key.
-/

namespace CarPairing

inductive HandshakeState where
  | unknown
  | inProgress
  | verificationNeeded
  | oobVerificationNeeded
  | resumingSession
  | finished
deriving DecidableEq

namespace HandshakeState

def name : HandshakeState → String
  | .unknown => "unknown"
  | .inProgress => "in_progress"
  | .verificationNeeded => "verification_needed"
  | .oobVerificationNeeded => "oob_verification_needed"
  | .resumingSession => "resuming_session"
  | .finished => "finished"

/-- All states, in the order in which a handshake can go through them. -/
def all : List HandshakeState :=
  [.unknown, .inProgress, .verificationNeeded, .oobVerificationNeeded, .resumingSession, .finished]

def ofName? (name : String) : Option HandshakeState :=
  all.find? fun state => state.name = name

def describe : HandshakeState → String
  | .unknown => "Unknown"
  | .inProgress => "InProgress"
  | .verificationNeeded => "VerificationNeeded"
  | .oobVerificationNeeded => "OobVerificationNeeded"
  | .resumingSession => "ResumingSession"
  | .finished => "Finished"

end HandshakeState

structure HandshakeMessage where
  state : HandshakeState := .unknown
  next : Option Bytes := none
  code : Option String := none
  oobCode : Option Bytes := none
  key : Option Key := none
deriving DecidableEq

def HandshakeMessage.describe (message : HandshakeMessage) : String :=
  Quoted.record "HandshakeMessage"
    [("state", message.state.describe),
     ("next_message", Quoted.option Quoted.bytes message.next),
     ("verification_code", Quoted.option Quoted.text message.code),
     ("oob_verification_code", Quoted.option Quoted.bytes message.oobCode),
     ("key", Quoted.option Key.describe message.key)]

/-- Why a key agreement refuses a call. -/
inductive HandshakeError where
  | malformedMessage (detail : String)
  | unsupportedVersion (version : UInt8)
  | unexpectedCall (operation phase : String)
  | commitmentMismatch
  | resumeAuthenticationFailed
  | crypto (cause : CryptoError)
deriving DecidableEq

def HandshakeError.message : HandshakeError → String
  | .malformedMessage detail => s!"Malformed handshake message: {detail}"
  | .unsupportedVersion version => s!"Unsupported protocol version {version}"
  | .unexpectedCall operation phase => s!"{operation} is not valid in runner phase {phase}"
  | .commitmentMismatch => "Client finish does not match the committed value"
  | .resumeAuthenticationFailed => "Session resumption authentication failed"
  | .crypto cause => cause.message

end CarPairing
