import CarPairing.Files.Disk
import CarPairing.Key
import CarPairing.Table
import CarPairing.Text.Quoted
import CarPairing.Uuid

/-!
The store of paired devices: per device id a session key, a challenge secret
and two times, and the head unit's own id. Key material is kept as hexadecimal
text, as a store that was read may hold any text there.
-/

namespace CarPairing

inductive StoreError where
  | invalidInput (detail : String)
  | unknownDevice (id : String)
  | serialization (detail : String)
  | io (cause : DiskError)
deriving DecidableEq

def StoreError.message : StoreError → String
  | .invalidInput detail => s!"Invalid input: {detail}"
  | .unknownDevice id => s!"Unknown device: {id}"
  | .serialization detail => s!"Serialization error: {detail}"
  | .io cause => s!"IO error: {cause.message}"

/-- What is stored for one device. Times are seconds since 1970. -/
structure PairedDevice where
  id : String
  key : Option String := none
  secret : Option String := none
  firstPaired : Int
  lastConnected : Int
deriving DecidableEq

namespace PairedDevice

def describe (device : PairedDevice) : String :=
  Quoted.record "PairedDevice"
    [("device_id", Quoted.text device.id),
     ("has_encryption_key", toString device.key.isSome),
     ("has_challenge_secret", toString device.secret.isSome),
     ("first_paired", toString device.firstPaired),
     ("last_connected", toString device.lastConnected)]

/-- Older pairings first; of one time, in the order of the ids. -/
def before (left right : PairedDevice) : Bool :=
  left.firstPaired < right.firstPaired ||
    (left.firstPaired == right.firstPaired && left.id ≤ right.id)

end PairedDevice

structure KeyStore where
  uniqueId : Option Uuid := none
  devices : List (String × PairedDevice) := []
deriving DecidableEq

namespace KeyStore

def device? (store : KeyStore) (id : String) : Option PairedDevice :=
  Table.find? id store.devices

/-- The entry of a device, a new one if it has none. -/
def entry (store : KeyStore) (id : String) (now : Int) : PairedDevice :=
  (store.device? id).getD { id, firstPaired := now, lastConnected := now }

def put (store : KeyStore) (id : String) (device : PairedDevice) : KeyStore :=
  { store with devices := Table.insert id device store.devices }

def saveKey (store : KeyStore) (id : String) (key : Bytes) (now : Int) :
    Except StoreError KeyStore :=
  if id = "" then .error (.invalidInput "empty device id")
  else
    match Key.ofBytes key with
    | .error error => .error (.invalidInput error.message)
    | .ok key =>
        .ok (store.put id
          { store.entry id now with key := some (Hex.encode key.bytes), lastConnected := now })

def key? (store : KeyStore) (id : String) : Option Key := do
  let text ← (← store.device? id).key
  (Key.ofBytes (← Hex.decode? text)).toOption

def saveSecret (store : KeyStore) (id : String) (secret : Bytes) (now : Int) :
    Except StoreError KeyStore :=
  if id = "" then .error (.invalidInput "empty device id")
  else if secret = [] then .error (.invalidInput "empty challenge secret")
  else .ok (store.put id { store.entry id now with secret := some (Hex.encode secret) })

def secret? (store : KeyStore) (id : String) : Option Bytes := do
  Hex.decode? (← (← store.device? id).secret)

def paired (store : KeyStore) : List PairedDevice :=
  (store.devices.map Prod.snd).mergeSort PairedDevice.before

/-- Whether the device was there, and the store without it. -/
def remove (store : KeyStore) (id : String) : Bool × KeyStore :=
  ((store.device? id).isSome, { store with devices := Table.erase id store.devices })

/-- A fresh id in place of the one there was. -/
def rotateId (store : KeyStore) (entropy : Entropy) : Uuid × KeyStore × Entropy :=
  let (id, entropy) := Uuid.random entropy
  (id, { store with uniqueId := some id }, entropy)

/-- The id of the head unit, a fresh one at the first use. -/
def takeId (store : KeyStore) (entropy : Entropy) : Uuid × KeyStore × Entropy :=
  match store.uniqueId with
  | some id => (id, store, entropy)
  | none => store.rotateId entropy

def describe (store : KeyStore) : String :=
  Quoted.record "DeviceKeyStore"
    [("unique_id", Quoted.option Uuid.toText store.uniqueId),
     ("devices", "\x7b" ++ String.intercalate ", "
       (store.devices.map fun (id, device) => Quoted.text id ++ ": " ++ device.describe) ++ "\x7d")]

end KeyStore

end CarPairing
