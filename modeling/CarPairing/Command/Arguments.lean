import CarPairing.Settings.Environment
import CarPairing.Uuid

/-!
The command line: words that name a command and what it is about, and options.
Options that belong to no command may stand before the command and after it, at
each place once; what stands after it counts. Nothing may be shortened.

    [--config PATH] [--key-store PATH] [--json-logs]
      pair [-y | --yes] [--oob]
      reconnect DEVICE
      devices
      forget DEVICE
      unique-id [--rotate]
      help [COMMAND]
-/

namespace CarPairing

inductive Invocation.Action where
  | pair (autoAccept outOfBand : Bool)
  | reconnect (deviceId : Uuid)
  | devices
  | forget (deviceId : Uuid)
  | uniqueId (rotate : Bool)
deriving DecidableEq

structure Invocation where
  settingsPath : Option String
  keyStorePath : Option String
  jsonLogs : Bool
  action : Invocation.Action
deriving DecidableEq

/-- Why no command is run. -/
inductive Dismissal where
  | help
  | version
  | usage
deriving DecidableEq

namespace Arguments

/-- A word by its look. -/
inductive Shape where
  /-- Two hyphens: whatever follows is no option. -/
  | separator
  | long (name : String) (value : Option String)
  | short (letters : List Char)
  | plain
deriving DecidableEq

def Shape.ofChars : List Char → Shape
  | ['-', '-'] => .separator
  | '-' :: '-' :: option =>
      let name := option.takeWhile (· ≠ '=')
      match option.drop name.length with
      | [] => .long (String.ofList name) none
      | _ :: value => .long (String.ofList name) (some (String.ofList value))
  | '-' :: letter :: letters => .short (letter :: letters)
  | _ => .plain

def Shape.of (word : String) : Shape :=
  ofChars word.toList

inductive Switch where
  | jsonLogs
  | yes
  | outOfBand
  | rotate
deriving DecidableEq

def Switch.ofName? : String → Option Switch
  | "json-logs" => some .jsonLogs
  | "yes" => some .yes
  | "oob" => some .outOfBand
  | "rotate" => some .rotate
  | _ => none

/-- An option with a value. -/
inductive Setting where
  | config
  | keyStore
deriving DecidableEq

def Setting.ofName? : String → Option Setting
  | "config" => some .config
  | "key-store" => some .keyStore
  | _ => none

inductive Verb where
  | pair
  | reconnect
  | devices
  | forget
  | uniqueId
deriving DecidableEq

namespace Verb

def ofWord? : String → Option Verb
  | "pair" => some .pair
  | "reconnect" => some .reconnect
  | "devices" => some .devices
  | "forget" => some .forget
  | "unique-id" => some .uniqueId
  | _ => none

def allows : Verb → Switch → Bool
  | _, .jsonLogs => true
  | .pair, .yes | .pair, .outOfBand | .uniqueId, .rotate => true
  | _, _ => false

def takesDevice : Verb → Bool
  | .reconnect | .forget => true
  | _ => false

end Verb

/-- What was given at one place. -/
structure Given where
  settingsPath : Option String := none
  keyStorePath : Option String := none
  switches : List Switch := []
  device : Option Uuid := none
deriving DecidableEq

structure Reading where
  /-- What stood before the command, once the command is known. -/
  before : Given := {}
  verb : Option Verb := none
  given : Given := {}
deriving DecidableEq

namespace Reading

def setPath (reading : Reading) (setting : Setting) (path : String) : Except Dismissal Reading :=
  let given := reading.given
  if path = "" then .error .usage
  else
    match setting, given.settingsPath, given.keyStorePath with
    | .config, none, _ => .ok { reading with given := { given with settingsPath := some path } }
    | .keyStore, _, none => .ok { reading with given := { given with keyStorePath := some path } }
    | _, _, _ => .error .usage

def allows (reading : Reading) (switch : Switch) : Bool :=
  match reading.verb with
  | none => switch = .jsonLogs
  | some verb => verb.allows switch

def turnOn (reading : Reading) (switch : Switch) : Except Dismissal Reading :=
  if reading.allows switch ∧ switch ∉ reading.given.switches then
    .ok { reading with given :=
      { reading.given with switches := switch :: reading.given.switches } }
  else .error .usage

/-- An option without a value, by its name. -/
def long (reading : Reading) (name : String) : Except Dismissal Reading :=
  if name = "help" then .error .help
  else if name = "version" ∧ reading.verb = none then .error .version
  else
    match Switch.ofName? name with
    | some switch => reading.turnOn switch
    | none => .error .usage

def short (reading : Reading) (letter : Char) : Except Dismissal Reading :=
  if letter = 'h' then .error .help
  else if letter = 'V' ∧ reading.verb = none then .error .version
  else if letter = 'y' then reading.turnOn .yes
  else .error .usage

/-- A word that is what the command is about. -/
def object (reading : Reading) (word : String) : Except Dismissal Reading :=
  if reading.verb.any Verb.takesDevice ∧ reading.given.device = none then
    match Uuid.ofText? word with
    | some id => .ok { reading with given := { reading.given with device := some id } }
    | none => .error .usage
  else .error .usage

def plain (reading : Reading) (word : String) : Except Dismissal Reading :=
  match reading.verb with
  | some _ => reading.object word
  | none =>
      match Verb.ofWord? word with
      | some verb => .ok { before := reading.given, verb := some verb }
      | none => .error .usage

/-- Help on a command, or on help; but not on anything else. -/
def help : List String → Dismissal
  | [] => .help
  | [word] => if word = "help" ∨ (Verb.ofWord? word).isSome then .help else .usage
  | _ => .usage

def read (reading : Reading) : List String → Except Dismissal Reading
  | [] => .ok reading
  | word :: rest =>
      match Shape.of word with
      | .separator => rest.foldlM object reading
      | .short letters => do read (← letters.foldlM short reading) rest
      | .plain =>
          if word = "help" ∧ reading.verb = none then .error (help rest)
          else do read (← reading.plain word) rest
      | .long name (some value) =>
          match Setting.ofName? name with
          | some setting => do read (← reading.setPath setting value) rest
          | none => .error .usage
      | .long name none =>
          match Setting.ofName? name with
          | none => do read (← reading.long name) rest
          | some setting =>
              match rest with
              | [] => .error .usage
              | value :: rest =>
                  if Shape.of value = .plain then do read (← reading.setPath setting value) rest
                  else .error .usage

def action? (verb : Verb) (given : Given) : Option Invocation.Action :=
  match verb with
  | .pair => some (.pair (given.switches.contains .yes) (given.switches.contains .outOfBand))
  | .reconnect => given.device.map .reconnect
  | .devices => some .devices
  | .forget => given.device.map .forget
  | .uniqueId => some (.uniqueId (given.switches.contains .rotate))

/-- The variable for the key store stands in at either place where the option is
missing, and like the option it may not be empty. -/
def keyStorePath (environment : Environment) (reading : Reading) :
    Except Dismissal (Option String) :=
  match environment.path? "CARLINK_KEY_STORE", reading.before.keyStorePath,
      reading.given.keyStorePath with
  | _, some _, some path => .ok (some path)
  | some "", _, _ => .error .usage
  | stated, before, given => .ok (given.or (before.or stated))

def finish (environment : Environment) (reading : Reading) : Except Dismissal Invocation := do
  match reading.verb.bind fun verb => action? verb reading.given with
  | none => .error .usage
  | some action =>
      pure {
        settingsPath := reading.given.settingsPath.or reading.before.settingsPath
        keyStorePath := ← keyStorePath environment reading
        jsonLogs := reading.before.switches.contains .jsonLogs ||
          reading.given.switches.contains .jsonLogs
        action }

end Reading

end Arguments

/-- The words of a command line, read in an environment. -/
def Invocation.ofWords (environment : Environment) (words : List String) :
    Except Dismissal Invocation := do
  Arguments.Reading.finish environment (← Arguments.Reading.read {} words)

end CarPairing
