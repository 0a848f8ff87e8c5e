import CarPairing.Files.Path
import CarPairing.Table
import CarPairing.Text.Utf8

/-!
The environment of a process. A variable that is no text is as good as unset
where a text is wanted; a path is taken as far as it can be read.
-/

namespace CarPairing

structure Environment where
  bindings : List (String × Bytes) := []
  /-- The home directory of the account, for want of the variable. -/
  accountHome : Option String := none

namespace Environment

def bytes? (environment : Environment) (name : String) : Option Bytes :=
  Table.find? name environment.bindings

def text? (environment : Environment) (name : String) : Option String :=
  (environment.bytes? name).bind Utf8.decode?

def path? (environment : Environment) (name : String) : Option String :=
  (environment.bytes? name).map Utf8.lossy

def home? (environment : Environment) : Option String :=
  match environment.path? "HOME" with
  | none | some "" => environment.accountHome
  | some path => some path

/-- Where the user keeps settings; the variable for it has to be absolute. -/
def configRoot? (environment : Environment) : Option String :=
  match (environment.path? "XDG_CONFIG_HOME").filter Path.isAbsolute with
  | some path => some path
  | none => environment.home?.map fun home => Path.join home ".config"

/-- A file among the settings of the user. -/
def userFile? (environment : Environment) (name : String) : Option String :=
  environment.configRoot?.map fun directory => Path.join (Path.join directory "carlink") name

end Environment

end CarPairing
