import CarPairing.Command.Error

/-!
What a command works with: a disk, a stream of random bytes, a clock, a place
to print to, and perhaps a user to ask. A command that fails keeps what it has
written, drawn and printed.
-/

namespace CarPairing

structure Console (δ : Type) where
  disk : δ
  entropy : Entropy
  now : Int
  /-- What was printed so far. -/
  output : String := ""
  /-- What the user says when asked; absent if there is no terminal. -/
  consent : Option Bool := none

abbrev Command (δ α : Type) := ExceptT CommandError (StateM (Console δ)) α

namespace Command

variable {δ α : Type}

def printLine (line : String) : Command δ Unit :=
  modify fun console => { console with output := console.output ++ line ++ "\n" }

def draw (take : Entropy → α × Entropy) : Command δ α := do
  let console ← get
  let (value, entropy) := take console.entropy
  set { console with entropy }
  pure value

/-- A value that was come by, or the reason to give up. -/
def require (value : Option α) (reason : CommandError) : Command δ α :=
  match value with
  | some value => pure value
  | none => throw reason

def orFail {ε : Type} (reason : ε → CommandError) : Except ε α → Command δ α
  | .ok value => pure value
  | .error error => throw (reason error)

/-- The key store in a file. -/
def openStore [Disk δ] (path : String) (secretSize : Nat) : Command δ (FileStorage δ) := do
  orFail (.keyStore path) (FileStorage.open (← get).disk path secretSize)

/-- One call on a store, whose disk is the disk of the console. -/
def onStore (call : Entropy → Except StoreError α × FileStorage δ × Entropy) : Command δ α := do
  let console ← get
  let (outcome, storage, entropy) := call console.entropy
  set { console with disk := storage.disk, entropy }
  orFail .store outcome

/-- Steps of a link whose head unit keeps its keys on the disk of the console. -/
def onLink {φ ρ : Type} (stage : Stage) (link : Link φ ρ (FileStorage δ))
    (steps : Link.Step φ ρ (FileStorage δ) α) : Command δ (Link φ ρ (FileStorage δ)) := do
  let (outcome, link) := steps.run link
  modify fun console =>
    { console with disk := link.car.storage.disk, entropy := link.entropy }
  match outcome with
  | .ok _ => pure link
  | .error .waiting => throw (.timedOut stage)
  | .error error => throw (.link error)

/-- Ask the user whether both ends show the same code. -/
def confirm : Command δ Bool := do
  require (← get).consent .noTerminal

end Command

end CarPairing
