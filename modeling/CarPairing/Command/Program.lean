import CarPairing.Command.Arguments
import CarPairing.Command.Devices
import CarPairing.Command.Pair

/-!
The program as a whole: from the words of the command line and the environment
to what is printed, what is on the disk and how the process ends.
-/

namespace CarPairing

/-- How a process ends. -/
inductive Ending where
  | done
  | dismissed (reason : Dismissal)
  | failed (error : CommandError)
deriving DecidableEq

def Ending.exitCode : Ending → Nat
  | .done => 0
  | .dismissed .usage => 2
  | .dismissed _ => 0
  | .failed _ => 1

/-- The surroundings of a process. -/
structure Surroundings where
  environment : Environment
  workingDirectory : Option String

namespace Program

variable {δ : Type} [Disk δ]

def settings (surroundings : Surroundings) (invocation : Invocation) (disk : δ) :
    Except SettingsError Settings :=
  match invocation.settingsPath with
  | some path => Settings.loadFrom disk surroundings.environment path
  | none => Settings.load disk surroundings.environment surroundings.workingDirectory

/-- The command line goes before the settings. -/
def keyStorePath? (surroundings : Surroundings) (invocation : Invocation) (settings : Settings) :
    Option String :=
  invocation.keyStorePath.or (settings.keyStorePath? surroundings.environment)

def makeParent (path : String) : Command δ Unit := do
  match Path.parent? path with
  | none => pure ()
  | some parent =>
      let console ← get
      let (made, disk) := Disk.makeDirectories console.disk parent
      set { console with disk }
      Command.orFail (.directory parent) made

def perform (settings : Settings) (path : String) : Invocation.Action → Command δ Unit
  | .pair autoAccept outOfBand => do
      let paired ← Command.pair path (.ofSettings settings outOfBand autoAccept)
      Command.printLine s!"Paired device {paired.deviceId.toText}"
      Command.printLine s!"Head unit id  {paired.headUnitId.toText}"
  | .reconnect deviceId => do
      Command.reconnect path deviceId (.ofSettings settings false true)
      Command.printLine s!"Reconnected {deviceId.toText}"
  | .devices => Command.list path settings.storage.secretSize
  | .forget deviceId => Command.forget path settings.storage.secretSize deviceId
  | .uniqueId rotate => do
      let _ ← Command.uniqueId path settings.storage.secretSize rotate

def execute (surroundings : Surroundings) (invocation : Invocation) : Command δ Unit := do
  let settings ← Command.orFail .settings (settings surroundings invocation (← get).disk)
  let path ← Command.require (keyStorePath? surroundings invocation settings) .noKeyStorePath
  makeParent path
  perform settings path invocation.action

def version : String := "carlink 0.1.0-alpha.1"

def help : List String :=
  ["Head unit secure channel pairing tool", "",
   "Usage: carlink [OPTIONS] <COMMAND>", "",
   "Commands:",
   "  pair       Associate a new simulated phone with the head unit",
   "  reconnect  Resume a session with a paired device using its stored key",
   "  devices    List paired devices",
   "  forget     Forget a paired device",
   "  unique-id  Show the head unit's unique id", "",
   "Options:",
   "      --config <CONFIG>        Config file to use instead of the global and project settings",
   "      --key-store <KEY_STORE>  Paired-device key store [env: CARLINK_KEY_STORE=]",
   "      --json-logs              Emit JSON log lines",
   "  -h, --help                   Print help",
   "  -V, --version                Print version"]

/-- What a dismissal prints. Wrong usage is told elsewhere. -/
def answer : Dismissal → Command δ Unit
  | .help => help.forM Command.printLine
  | .version => Command.printLine version
  | .usage => pure ()

def run (surroundings : Surroundings) (words : List String) (console : Console δ) :
    Ending × Console δ :=
  match Invocation.ofWords surroundings.environment words with
  | .error reason => (.dismissed reason, ((answer reason).run console).2)
  | .ok invocation =>
      match (execute surroundings invocation).run console with
      | (.ok (), console) => (.done, console)
      | (.error error, console) => (.failed error, console)

end Program

end CarPairing
