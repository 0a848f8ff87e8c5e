import CarPairing.Command.Program
import CarPairing.Files.Tree
import Std.Time.DateTime.Timestamp

/-!
The program on a machine. The files that a command can reach are read into a
tree, the command runs on the tree, and what it changed is written back. Links
between files are followed by the machine and not seen here.
-/

namespace CarPairing.Machine

def variableNames : List String :=
  ["HOME", "XDG_CONFIG_HOME", "CARLINK_KEY_STORE", "CARLINK_LOG_LEVEL", "CARLINK_LOG_JSON",
   "CARLINK_VERIFICATION_MODE", "CARLINK_HANDSHAKE_TIMEOUT_SECS"]

def environment : IO Environment := do
  let bindings ← variableNames.filterMapM fun name => do
    pure ((← IO.getEnv name).map fun value => (name, Utf8.encode value))
  pure { bindings }

/-- What the machine has at a path. -/
def node? (path : String) : IO (Option Node) := do
  let file := (← IO.currentDir) / path
  if ← file.isDir then pure (some .directory)
  else if ← file.pathExists then
    pure (some (.file Tree.newFileMode (← IO.FS.readBinFile file).toList))
  else pure none

/-- Takes over the directories that a path leads through and what it names. -/
def adopt (tree : Tree) (path : String) : IO Tree := do
  let mut tree := tree
  let mut place := if Path.isAbsolute path then [] else tree.workingDirectory
  for segment in Path.segments path.toList do
    let name := String.ofList segment
    if name = ".." then place := place.tail
    else if !Path.namesNothing segment then
      place := name :: place
      if let some node ← node? (Tree.canonical place) then tree := tree.put place node
  pure tree

/-- Makes the machine have what a run has changed. -/
def writeBack (before after : Tree) : IO Unit := do
  for (path, node) in after.nodes do
    if Table.find? path before.nodes ≠ some node then
      match node with
      | .directory => IO.FS.createDirAll path
      | .file _ contents =>
          if let some parent := Path.parent? path then IO.FS.createDirAll parent
          IO.FS.writeBinFile path ⟨contents.toArray⟩
          IO.setAccessRights path { user := { read := true, write := true } }

/-- More than a command draws besides the challenge secret. -/
def spareBytes : Nat := 1024

def entropy (secretSize : Nat) : IO Entropy := do
  let bytes ← IO.getRandomBytes (spareBytes + secretSize).toUSize
  pure { byteAt := fun position => bytes.data.getD position 0 }

/-- Asks until there is an answer. The end of the input is a refusal. -/
partial def ask : IO Bool := do
  IO.eprint "Do both devices show the same code? [Y/n] "
  match (← (← IO.getStdin).getLine).toList with
  | [] => pure false
  | ['\n'] | 'y' :: _ | 'Y' :: _ => pure true
  | 'n' :: _ | 'N' :: _ => pure false
  | _ => ask

/-- A run that stops for want of an answer is done again with the answer: it is
the same run up to there, so only what it prints from there on is new. -/
def converse (run : Option Bool → Ending × Console Tree) : IO (Ending × Console Tree) := do
  let (ending, console) := run none
  IO.print console.output
  if ending = .failed .noTerminal then
    if ← (← IO.getStdin).isTty then
      let (ending, answered) := run (some (← ask))
      IO.print (String.ofList (answered.output.toList.drop console.output.length))
      return (ending, answered)
  pure (ending, console)

def execute (words : List String) : IO Ending := do
  let environment ← environment
  let workingDirectory := (← IO.currentDir).toString
  let surroundings : Surroundings := { environment, workingDirectory := some workingDirectory }
  let mut tree ← adopt { workingDirectory := Tree.placeOf workingDirectory } workingDirectory
  let mut secretSize := 0
  if let .ok invocation := Invocation.ofWords environment words then
    let paths := invocation.settingsPath.toList ++ (Settings.userPath? environment).toList ++
      [Settings.projectPath workingDirectory]
    tree ← paths.foldlM adopt tree
    if let .ok settings := Program.settings surroundings invocation tree then
      secretSize := settings.storage.secretSize
      tree ← (Program.keyStorePath? surroundings invocation settings).toList.foldlM adopt tree
  let before := tree
  let drawn ← entropy secretSize
  let now := (← Std.Time.Timestamp.now).toSecondsSinceUnixEpoch.val
  let (ending, console) ← converse fun consent =>
    Program.run surroundings words { disk := before, entropy := drawn, now, consent }
  writeBack before console.disk
  match ending with
  | .failed error => IO.eprintln error.report
  | .dismissed .usage => Program.help.forM fun line => IO.eprintln line
  | _ => pure ()
  pure ending

end CarPairing.Machine

def main (words : List String) : IO UInt32 := do
  pure (← CarPairing.Machine.execute words).exitCode.toUInt32
