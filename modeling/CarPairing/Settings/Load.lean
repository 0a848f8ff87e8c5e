import CarPairing.Files.Disk
import CarPairing.Settings.Settings

/-!
Settings out of files. The file of the user and the file of the project are
merged before they are read as settings; a file that is named stands alone.
-/

namespace CarPairing

inductive SettingsError where
  | config (detail : String)
  | json (detail : String)
  | io (cause : DiskError)
deriving DecidableEq

def SettingsError.message : SettingsError → String
  | .config detail => s!"Configuration error: {detail}"
  | .json detail => s!"JSON error: {detail}"
  | .io cause => s!"I/O error: {cause.message}"

def VerificationMode.parse (text : String) : Except SettingsError VerificationMode :=
  match ofUser text with
  | .ok mode => .ok mode
  | .error other => .error (.config s!"Unknown verification mode: {other}")

namespace Settings

open Json (Value)

variable {δ : Type} [Disk δ]

def readValue (disk : δ) (path : String) : Except SettingsError Value :=
  match Disk.readText disk path with
  | .error _ => .error (.config s!"Failed to read config file {path}")
  | .ok text =>
      match Value.ofText? text with
      | none => .error (.config s!"Failed to parse config file {path}")
      | some value => .ok value

/-- The files that are there, each merged over those before it. -/
def readLayers (disk : δ) : Value → List String → Except SettingsError Value
  | merged, [] => .ok merged
  | merged, path :: rest =>
      if Disk.present disk path then
        match readValue disk path with
        | .error error => .error error
        | .ok value => readLayers disk (merged.merge value) rest
      else readLayers disk merged rest

def ofLayers (disk : δ) (paths : List String) : Except SettingsError Settings :=
  match readLayers disk (.object []) paths with
  | .error error => .error error
  | .ok value =>
      match ofValue? value with
      | some settings => .ok settings
      | none => .error (.config "Invalid configuration")

def ofFile (disk : δ) (path : String) : Except SettingsError Settings :=
  match readValue disk path with
  | .error error => .error error
  | .ok value =>
      match ofValue? value with
      | some settings => .ok settings
      | none => .error (.config s!"Invalid config file {path}")

def userPath? (environment : Environment) : Option String :=
  environment.userFile? "settings.json"

def projectPath (directory : String) : String :=
  Path.join (Path.join directory ".carlink") "settings.json"

/-- The settings of the user and of a project, as the environment has them. -/
def load (disk : δ) (environment : Environment) (project : Option String) :
    Except SettingsError Settings :=
  (ofLayers disk ((userPath? environment).toList ++ (project.map projectPath).toList)).map
    (override environment)

/-- The settings of one file, as the environment has them. -/
def loadFrom (disk : δ) (environment : Environment) (path : String) :
    Except SettingsError Settings :=
  (ofFile disk path).map (override environment)

end Settings

end CarPairing
