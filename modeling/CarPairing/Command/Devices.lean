import CarPairing.Command.Console

/-!
Looking after the paired devices and the id of the head unit.
-/

namespace CarPairing.Command

variable {δ : Type} [Disk δ]

def padRight (width : Nat) (text : String) : String :=
  String.ofList (text.toList.rightpad width ' ')

def padLeft (width : Nat) (text : String) : String :=
  String.ofList (text.toList.leftpad width ' ')

/-- One row: texts from the left, times at the right end of their columns. A cell
that is wider than its column pushes the others on. -/
def row (device key paired lastSeen : String) : String :=
  String.intercalate " " [padRight 38 device, padRight 5 key, padLeft 12 paired, padLeft 12 lastSeen]

def deviceRow (device : PairedDevice) : String :=
  row device.id (if device.key.isSome then "yes" else "no")
    (toString device.firstPaired) (toString device.lastConnected)

/-- The lines that show the devices of a store. -/
def table (store : KeyStore) : List String :=
  match store.paired with
  | [] => ["No paired devices."]
  | devices => row "DEVICE" "KEY" "PAIRED" "LAST SEEN" :: devices.map deviceRow

def list (path : String) (secretSize : Nat) : Command δ Unit := do
  let storage ← openStore path secretSize
  (table storage.store).forM printLine

def forget (path : String) (secretSize : Nat) (deviceId : Uuid) : Command δ Unit := do
  let storage ← openStore path secretSize
  let id := deviceId.toText
  let known ← onStore fun entropy =>
    let (known, storage) := KeyStorage.remove storage id
    (known, storage, entropy)
  if known then printLine s!"Forgot {id}" else throw (.store (.unknownDevice id))

/-- The id of the head unit, a fresh one if it is to be changed. -/
def uniqueId (path : String) (secretSize : Nat) (rotate : Bool) : Command δ Uuid := do
  let storage ← openStore path secretSize
  let id ← onStore (if rotate then storage.rotateId else KeyStorage.uniqueId storage)
  printLine id.toText
  pure id

end CarPairing.Command
