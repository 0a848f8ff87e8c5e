import CarPairing.Handshake.Runner
import CarPairing.Cipher.X25519
import CarPairing.VerificationCode

/-!
The key agreement proper. Three messages, each led by the version byte:

    initiator (phone)                                  responder (head unit)
      ClientInit   = version | random 32 | SHA-256 of ClientFinish   ->
                  <- ServerInit   = version | random 32 | public key 32
      ClientFinish = version | public key 32                         ->

The initiator commits to its public key before it sees the responder's, so
neither side can search for a wanted code. Both then derive, bound to
`ClientInit | ServerInit`, an auth string to compare and the next secret.
-/

namespace CarPairing

inductive Role where
  | initiator
  | responder
deriving DecidableEq

def Role.describe : Role → String
  | .initiator => "Initiator"
  | .responder => "Responder"

namespace Agreement

def version : UInt8 := 1
def clientInitSize : Nat := 65
def serverInitSize : Nat := 65
def clientFinishSize : Nat := 33

def authSalt : Bytes := "carlink-ukey2-v1-auth".toUTF8.toList
def nextSalt : Bytes := "carlink-ukey2-v1-next".toUTF8.toList
def resumeInfo : Bytes := "carlink-ukey2-v1-resume-key".toUTF8.toList
def clientLabel : Bytes := "CLIENT".toUTF8.toList
def serverLabel : Bytes := "SERVER".toUTF8.toList

/-- What both ends derive from one transcript. -/
structure Secrets where
  auth : Key
  next : Key
deriving DecidableEq

def Secrets.derive (agreed clientInit serverInit : Bytes) : Secrets :=
  { auth := Key.derive authSalt agreed (clientInit ++ serverInit)
    next := Key.derive nextSalt agreed (clientInit ++ serverInit) }

/-- The proof that a side holds the previous key, for this auth string only. -/
def resumeMac (previous auth : Key) (label : Bytes) : Bytes :=
  (Key.derive previous.bytes auth.bytes label).bytes

def resumedKey (previous next : Key) : Key :=
  Key.derive previous.bytes next.bytes resumeInfo

inductive Phase where
  | idle
  | sentClientInit (secret clientInit clientFinish : Bytes)
  | sentServerInit (secret clientInit serverInit commitment : Bytes)
  | awaitingVerification (secrets : Secrets)
  | resuming (secrets : Secrets)
  | finished
  | failed
deriving DecidableEq

def Phase.name : Phase → String
  | .idle => "idle"
  | .sentClientInit .. => "sent_client_init"
  | .sentServerInit .. => "sent_server_init"
  | .awaitingVerification _ => "awaiting_verification"
  | .resuming _ => "resuming"
  | .finished => "finished"
  | .failed => "failed"

/-- A frame has its exact length and starts with the version. -/
def checkFrame (message : Bytes) (size : Nat) (what : String) : Except HandshakeError Unit :=
  if message.length ≠ size then
    .error (.malformedMessage s!"{what}: expected {size} bytes, got {message.length}")
  else
    match message with
    | [] => .error (.malformedMessage s!"{what}: empty")
    | first :: _ => if first = version then .ok () else .error (.unsupportedVersion first)

end Agreement

open Agreement in
/-- The runner of one side of the agreement. -/
structure Agreement where
  role : Role
  phase : Phase := .idle
  reconnecting : Bool := false
  outOfBand : Bool := false
  digits : Nat := 6
deriving DecidableEq

namespace Agreement

def describe (runner : Agreement) : String :=
  Quoted.record "Ukey2Runner"
    [("role", runner.role.describe),
     ("phase", Quoted.text runner.phase.name),
     ("is_reconnect", toString runner.reconnecting),
     ("out_of_band", toString runner.outOfBand)]

def unexpected (runner : Agreement) (request : Request) : HandshakeError :=
  .unexpectedCall request.name runner.phase.name

/-- The report once both sides hold the secrets, with the frame still to send. -/
def agreed (runner : Agreement) (secrets : Secrets) (next : Option Bytes) :
    Answer × Agreement :=
  if runner.reconnecting then
    (.ok { state := .resumingSession, next }, { runner with phase := .resuming secrets })
  else
    let waiting := { runner with phase := .awaitingVerification secrets }
    if runner.outOfBand then
      (.ok { state := .oobVerificationNeeded, oobCode := some secrets.auth.bytes, next }, waiting)
    else
      (.ok { state := .verificationNeeded
             code := VerificationCode.numeric? secrets.auth.bytes runner.digits, next }, waiting)

def start (runner : Agreement) (entropy : Entropy) : Answer × Agreement × Entropy :=
  match runner.role, runner.phase with
  | .initiator, .idle =>
      let secret := entropy.draw 32
      let random := secret.2.draw 32
      let clientFinish := version :: X25519.publicKey secret.1
      let clientInit := version :: (random.1 ++ sha256 clientFinish)
      (.ok { state := .inProgress, next := some clientInit },
       { runner with phase := .sentClientInit secret.1 clientInit clientFinish }, random.2)
  | _, _ => (.error (runner.unexpected .init), runner, entropy)

def respond (runner : Agreement) (message : Bytes) (entropy : Entropy) :
    Answer × Agreement × Entropy :=
  match runner.role, runner.phase with
  | .responder, .idle =>
      match checkFrame message clientInitSize "client init" with
      | .error error => (.error error, { runner with phase := .failed }, entropy)
      | .ok () =>
          let secret := entropy.draw 32
          let random := secret.2.draw 32
          let serverInit := version :: (random.1 ++ X25519.publicKey secret.1)
          (.ok { state := .inProgress, next := some serverInit },
           { runner with phase := .sentServerInit secret.1 message serverInit (message.drop 33) },
           random.2)
  | _, _ => (.error (runner.unexpected (.respond message)), runner, entropy)

def proceed (runner : Agreement) (message : Bytes) : Answer × Agreement :=
  let dead := { runner with phase := .failed }
  match runner.role, runner.phase with
  | .responder, .sentServerInit secret clientInit serverInit commitment =>
      match checkFrame message clientFinishSize "client finish" with
      | .error error => (.error error, dead)
      | .ok () =>
          if VerificationCode.same (sha256 message) commitment then
            let shared := X25519.agree secret (message.drop 1)
            dead.agreed (Secrets.derive shared clientInit serverInit) none
          else (.error .commitmentMismatch, dead)
  | .initiator, .sentClientInit secret clientInit clientFinish =>
      match checkFrame message serverInitSize "server init" with
      | .error error => (.error error, dead)
      | .ok () =>
          let shared := X25519.agree secret (message.drop 33)
          dead.agreed (Secrets.derive shared clientInit message) (some clientFinish)
  | _, _ => (.error (runner.unexpected (.continue message)), runner)

def verify (runner : Agreement) : Answer × Agreement :=
  match runner.phase with
  | .awaitingVerification secrets =>
      (.ok { state := .finished, key := some secrets.next }, { runner with phase := .finished })
  | _ => (.error (runner.unexpected .verify), runner)

def prove (runner : Agreement) (previous : Key) : Answer × Agreement :=
  match runner.role, runner.phase with
  | .initiator, .resuming secrets =>
      (.ok { state := .resumingSession, next := some (resumeMac previous secrets.auth clientLabel) },
       runner)
  | _, _ => (.error (runner.unexpected (.prove previous)), runner)

def Secrets.finish (secrets : Secrets) (previous : Key) (proof : Option Bytes) :
    HandshakeMessage :=
  { state := .finished, next := proof, key := some (resumedKey previous secrets.next) }

/-- A misplaced call ends the agreement too, unlike for the other requests. -/
def resume (runner : Agreement) (message : Bytes) (previous : Key) : Answer × Agreement :=
  let dead := { runner with phase := .failed }
  match runner.phase with
  | .resuming secrets =>
      let client := resumeMac previous secrets.auth clientLabel
      let server := resumeMac previous secrets.auth serverLabel
      let (peer, own) :=
        match runner.role with
        | .responder => (client, some server)
        | .initiator => (server, none)
      if VerificationCode.same message peer then
        (.ok (secrets.finish previous own), { runner with phase := .finished })
      else (.error .resumeAuthenticationFailed, dead)
  | _ => (.error (.unexpectedCall (Request.resume message previous).name "not_resuming"), dead)

instance : Runner Agreement where
  answer runner request entropy :=
    match request with
    | .init => runner.start entropy
    | .respond message => runner.respond message entropy
    | .continue message => let (a, r) := runner.proceed message; (a, r, entropy)
    | .verify => let (a, r) := runner.verify; (a, r, entropy)
    | .prove previous => let (a, r) := runner.prove previous; (a, r, entropy)
    | .resume message previous => let (a, r) := runner.resume message previous; (a, r, entropy)
  setReconnect runner on := { runner with reconnecting := on }

/-- An initiator and a responder with the same settings. -/
def pair (reconnecting outOfBand : Bool) : Agreement × Agreement :=
  ({ role := .initiator, reconnecting, outOfBand }, { role := .responder, reconnecting, outOfBand })

/-- Both runners after the three messages, with the last step of each; at an
error, after the step that failed. -/
def run (initiator responder : Agreement) (entropy : Entropy) :
    Except HandshakeError (HandshakeMessage × HandshakeMessage) × Agreement × Agreement × Entropy :=
  match initiator.start entropy with
  | (.error error, initiator, entropy) => (.error error, initiator, responder, entropy)
  | (.ok opening, initiator, entropy) =>
    match responder.respond (opening.next.getD []) entropy with
    | (.error error, responder, entropy) => (.error error, initiator, responder, entropy)
    | (.ok reply, responder, entropy) =>
      match initiator.proceed (reply.next.getD []) with
      | (.error error, initiator) => (.error error, initiator, responder, entropy)
      | (.ok first, initiator) =>
        match responder.proceed (first.next.getD []) with
        | (.error error, responder) => (.error error, initiator, responder, entropy)
        | (.ok second, responder) => (.ok (first, second), initiator, responder, entropy)

end Agreement

end CarPairing
