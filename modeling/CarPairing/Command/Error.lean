import CarPairing.Link
import CarPairing.Settings.Load

/-!
Why a command gives up. An error is reported as a chain of causes, from what
the user asked for down to what went wrong.
-/

namespace CarPairing

/-- The part of a handshake that has to be over in time. -/
inductive Stage where
  /-- Up to the codes that the user compares. -/
  | agreement
  /-- From there to the stored key. -/
  | confirmation
  | resumption
deriving DecidableEq

def Stage.overdue : Stage → String
  | .agreement => "Handshake timed out before verification"
  | .confirmation => "Handshake timed out after verification"
  | .resumption => "Reconnect timed out"

inductive CommandError where
  | settings (cause : SettingsError)
  | noKeyStorePath
  | directory (path : String) (cause : DiskError)
  | keyStore (path : String) (cause : StoreError)
  | store (cause : StoreError)
  | link (cause : LinkError)
  | timedOut (stage : Stage)
  | noCodeShown
  | noCodeDerived
  /-- There is nobody to ask. -/
  | noTerminal
  | cancelled
  | notConfirmed
  | noHeadUnitId
  | notPaired (id : Uuid)
  | notResumed
deriving DecidableEq

/-- One message of a chain. -/
inductive Cause where
  | text (message : String)
  | store (error : StoreError)
  | disk (error : DiskError)
deriving DecidableEq

def Cause.message : Cause → String
  | .text message => message
  | .store error => error.message
  | .disk error => error.message

/-- A store error and the disk error below it, if there is one. -/
def StoreError.causes (error : StoreError) : List Cause :=
  match error with
  | .io cause => [.store error, .disk cause]
  | _ => [.store error]

namespace CommandError

def chain : CommandError → List Cause
  | .settings cause => [.text cause.message]
  | .noKeyStorePath =>
      [.text "No key store path: pass --key-store or set storage.key_store_path"]
  | .directory path cause => [.text s!"Failed to create {path}", .disk cause]
  | .keyStore path cause => .text s!"Failed to open key store {path}" :: cause.causes
  | .store cause => cause.causes
  | .link cause => cause.chain.map .text
  | .timedOut stage => [.text stage.overdue, .text "deadline has elapsed"]
  | .noCodeShown => [.text "Head unit did not show a verification code"]
  | .noCodeDerived => [.text "Phone did not derive a verification code"]
  | .noTerminal => [.text "IO error: not a terminal"]
  | .cancelled => [.text "Pairing cancelled"]
  | .notConfirmed => [.text "Head unit did not confirm the pairing"]
  | .noHeadUnitId => [.text "Phone did not receive the head unit id"]
  | .notPaired id => [.text s!"Device {id.toText} is not paired"]
  | .notResumed => [.text "Reconnect did not complete"]

/-- What the user is told first. -/
def message (error : CommandError) : String :=
  (error.chain.head?.map Cause.message).getD ""

/-- The chain as it is reported to the user. -/
def report (error : CommandError) : String :=
  match error.chain.map Cause.message with
  | [] => ""
  | [outermost] => s!"Error: {outermost}"
  | outermost :: [cause] => s!"Error: {outermost}\n\nCaused by:\n    {cause}"
  | outermost :: causes =>
      s!"Error: {outermost}\n\nCaused by:" ++
        String.join (causes.zipIdx.map fun (cause, index) => s!"\n    {index}: {cause}")

end CommandError

end CarPairing
