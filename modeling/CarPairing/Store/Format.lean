import CarPairing.Json.Printer
import CarPairing.Store.KeyStore

/-!
The key store as a JSON text. A reader takes an object, or an array of the
fields in order. It asks only for the fields it knows, each once; what else is
there only has to be JSON.
-/

namespace CarPairing

open Json

namespace Json.Document

/-- The members under their names; every name has to be text. -/
def named? : List (List Piece × Document) → Option (List (String × Document))
  | [] => some []
  | (key, document) :: rest => do
      let name ← Piece.text? key
      let rest ← named? rest
      pure ((name, document) :: rest)

/-- A member that is there once at most. -/
def single? (name : String) (members : List (String × Document)) : Option (Option Document) :=
  match members.filter fun member => member.1 = name with
  | [] => some none
  | [(_, document)] => some (some document)
  | _ => none

def string? : Document → Option String
  | .text pieces => Piece.text? pieces
  | _ => none

def optionalString? : Document → Option (Option String)
  | .null => some none
  | document => document.string?.map some

/-- An integer of 64 bits with sign. -/
def int64? : Document → Option Int
  | .number numeral =>
      match numeral.integer? with
      | some value => if value < 0x8000000000000000 then some value else none
      | none => none
  | _ => none

end Json.Document

namespace PairedDevice

def ofFields? (id : Document) (key secret : Option Document) (first last : Document) :
    Option PairedDevice := do
  pure {
    id := ← id.string?
    key := ← (key.getD .null).optionalString?
    secret := ← (secret.getD .null).optionalString?
    firstPaired := ← first.int64?
    lastConnected := ← last.int64? }

def ofDocument? : Document → Option PairedDevice
  | .object members => do
      let members ← Document.named? members
      let id ← Document.single? "device_id" members
      let key ← Document.single? "encryption_key" members
      let secret ← Document.single? "challenge_secret" members
      let first ← Document.single? "first_paired" members
      let last ← Document.single? "last_connected" members
      ofFields? (← id) key secret (← first) (← last)
  | .array [id, key, secret, first, last] => ofFields? id (some key) (some secret) first last
  | _ => none

def toValue (device : PairedDevice) : Value :=
  .object (
    [("device_id", .string device.id)] ++
    (device.key.map fun text => ("encryption_key", Value.string text)).toList ++
    (device.secret.map fun text => ("challenge_secret", Value.string text)).toList ++
    [("first_paired", .number (.integer device.firstPaired)),
     ("last_connected", .number (.integer device.lastConnected))])

end PairedDevice

namespace KeyStore

def uniqueId? : Document → Option (Option Uuid)
  | .null => some none
  | document => (document.string?.bind Uuid.ofText?).map some

def entries? : List (String × Document) → Option (List (String × PairedDevice))
  | [] => some []
  | (id, document) :: rest => do
      let device ← PairedDevice.ofDocument? document
      let rest ← entries? rest
      pure ((id, device) :: rest)

/-- Of two entries under one id the later counts. -/
def devices? : Document → Option (List (String × PairedDevice))
  | .object members => do
      pure (Table.ofWrites (← entries? (← Document.named? members)))
  | _ => none

def ofFields? (uniqueId devices : Option Document) : Option KeyStore := do
  pure {
    uniqueId := ← uniqueId? (uniqueId.getD .null)
    devices := ← devices? (devices.getD (.object [])) }

def ofDocument? : Document → Option KeyStore
  | .object members => do
      let members ← Document.named? members
      let uniqueId ← Document.single? "unique_id" members
      let devices ← Document.single? "devices" members
      ofFields? uniqueId devices
  | .array [] => ofFields? none none
  | .array [uniqueId] => ofFields? (some uniqueId) none
  | .array [uniqueId, devices] => ofFields? (some uniqueId) (some devices)
  | _ => none

def ofText? (text : String) : Option KeyStore :=
  (Document.ofText? text).bind ofDocument?

def toValue (store : KeyStore) : Value :=
  .object (
    (store.uniqueId.map fun id => ("unique_id", Value.string id.toText)).toList ++
    [("devices", .object (store.devices.map fun (id, device) => (id, device.toValue)))])

def toText (store : KeyStore) : String :=
  store.toValue.pretty

variable {δ : Type} [Disk δ]

/-- The store in a file; no file is an empty store. -/
def load (disk : δ) (path : String) : Except StoreError KeyStore :=
  if Disk.present disk path then
    match Disk.readText disk path with
    | .error cause => .error (.io cause)
    | .ok text =>
        match ofText? text with
        | some store => .ok store
        | none => .error (.serialization "Failed to parse key store")
  else .ok {}

def save (store : KeyStore) (disk : δ) (path : String) : Except StoreError Unit × δ :=
  match Disk.replace disk path (Utf8.encode store.toText) with
  | (.ok (), disk) => (.ok (), disk)
  | (.error cause, disk) => (.error (.io cause), disk)

end KeyStore

end CarPairing
