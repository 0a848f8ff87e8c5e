import CarPairing.Json.Printer
import CarPairing.Settings.Environment

/-!
The settings, the JSON values they are read from, and the variables that
override single ones of them.
-/

namespace CarPairing

open Json (Value)

inductive VerificationMode where
  /-- A short code is shown on both screens. -/
  | numeric
  /-- The whole code goes another way. -/
  | outOfBand
deriving DecidableEq

structure ChannelSettings where
  mode : VerificationMode := .numeric
  codeDigits : Nat := 6
  timeoutSeconds : Nat := 30
deriving DecidableEq

structure StorageSettings where
  keyStorePath : Option String := none
  secretSize : Nat := 32
deriving DecidableEq

structure LoggingSettings where
  level : String := "info"
  json : Bool := false
deriving DecidableEq

structure Settings where
  channel : ChannelSettings := {}
  storage : StorageSettings := {}
  logging : LoggingSettings := {}
deriving DecidableEq

namespace VerificationMode

def name : VerificationMode → String
  | .numeric => "numeric"
  | .outOfBand => "out_of_band"

def describe : VerificationMode → String
  | .numeric => "Numeric"
  | .outOfBand => "OutOfBand"

def ofName? (name : String) : Option VerificationMode :=
  if name = "numeric" then some .numeric
  else if name = "out_of_band" then some .outOfBand
  else none

/-- A mode as a user writes it, in any case; or the text it was taken for. -/
def ofUser (text : String) : Except String VerificationMode :=
  let text := text.toLower
  if text = "oob" then .ok .outOfBand
  else
    match ofName? text with
    | some mode => .ok mode
    | none => .error text

/-- A mode is a name, or an object with the name as its only member, and null there. -/
def ofValue? : Value → Option VerificationMode
  | .string name => ofName? name
  | .object [(name, .null)] => ofName? name
  | _ => none

end VerificationMode

namespace Settings

/-- The fields of a record, by name in an object or by place in an array. -/
def fields? (names : List String) : Value → Option (List (Option Value))
  | .object members => some (names.map fun name => Table.find? name members)
  | .array items =>
      if items.length ≤ names.length then
        some (items.map some ++ List.replicate (names.length - items.length) none)
      else none
  | _ => none

/-- A field that may be left out, for its default. -/
def orElse {α : Type} (read? : Value → Option α) (fallback : α) : Option Value → Option α
  | none => some fallback
  | some value => read? value

def natural? (limit : Nat) : Value → Option Nat
  | .number (.integer (.ofNat value)) => if value < limit then some value else none
  | _ => none

def string? : Value → Option String
  | .string text => some text
  | _ => none

def optionalString? : Value → Option (Option String)
  | .null => some none
  | value => (string? value).map some

def bool? : Value → Option Bool
  | .bool value => some value
  | _ => none

end Settings

open Settings

def ChannelSettings.ofValue? (value : Value) : Option ChannelSettings := do
  match ← fields? ["verification_mode", "verification_code_digits", "handshake_timeout_secs"]
      value with
  | [mode, digits, timeout] =>
      pure {
        mode := ← orElse VerificationMode.ofValue? .numeric mode
        codeDigits := ← orElse (natural? 256) 6 digits
        timeoutSeconds := ← orElse (natural? 0x10000000000000000) 30 timeout }
  | _ => none

def StorageSettings.ofValue? (value : Value) : Option StorageSettings := do
  match ← fields? ["key_store_path", "challenge_secret_bytes"] value with
  | [path, size] =>
      pure {
        keyStorePath := ← orElse optionalString? none path
        secretSize := ← orElse (natural? 0x10000000000000000) 32 size }
  | _ => none

def LoggingSettings.ofValue? (value : Value) : Option LoggingSettings := do
  match ← fields? ["level", "json"] value with
  | [level, json] =>
      pure { level := ← orElse string? "info" level, json := ← orElse bool? false json }
  | _ => none

namespace Settings

def ofValue? (value : Value) : Option Settings := do
  match ← fields? ["channel", "storage", "logging"] value with
  | [channel, storage, logging] =>
      pure {
        channel := ← orElse ChannelSettings.ofValue? {} channel
        storage := ← orElse StorageSettings.ofValue? {} storage
        logging := ← orElse LoggingSettings.ofValue? {} logging }
  | _ => none

def natValue (value : Nat) : Value := .number (.integer value)

def toValue (settings : Settings) : Value :=
  .object
    [("channel", .object
      [("verification_mode", .string settings.channel.mode.name),
       ("verification_code_digits", natValue settings.channel.codeDigits),
       ("handshake_timeout_secs", natValue settings.channel.timeoutSeconds)]),
     ("storage", .object
      [("key_store_path", settings.storage.keyStorePath.elim .null .string),
       ("challenge_secret_bytes", natValue settings.storage.secretSize)]),
     ("logging", .object
      [("level", .string settings.logging.level), ("json", .bool settings.logging.json)])]

/-- A number of 64 bits in decimal, with or without a plus sign. -/
def seconds? (text : String) : Option Nat :=
  let digits :=
    match text.toList with
    | '+' :: digits => digits
    | digits => digits
  if digits ≠ [] ∧ digits.all Json.Numeral.isDigit then
    let value := Json.Numeral.natOf digits
    if value < 0x10000000000000000 then some value else none
  else none

/-- Texts that switch something on. -/
def isYes (text : String) : Bool :=
  text == "1" || text == "true" || text == "yes"

/-- Variables go before files. One that cannot be read as its setting is ignored,
but for the log format, where it means no. -/
def override (environment : Environment) (settings : Settings) : Settings :=
  let text? := environment.text?
  { channel := { settings.channel with
      mode := ((text? "CARLINK_VERIFICATION_MODE").bind fun text =>
        (VerificationMode.ofUser text).toOption).getD settings.channel.mode
      timeoutSeconds := ((text? "CARLINK_HANDSHAKE_TIMEOUT_SECS").bind seconds?).getD
        settings.channel.timeoutSeconds }
    storage := { settings.storage with
      keyStorePath := (text? "CARLINK_KEY_STORE").or settings.storage.keyStorePath }
    logging := {
      level := (text? "CARLINK_LOG_LEVEL").getD settings.logging.level
      json := ((text? "CARLINK_LOG_JSON").map isYes).getD settings.logging.json } }

/-- The configured key store, or the user's own. -/
def keyStorePath? (environment : Environment) (settings : Settings) : Option String :=
  settings.storage.keyStorePath.or (environment.userFile? "devices.json")

/-- A log level for the parts of this program, and warnings of all others. -/
def logFilter (level : String) : String :=
  s!"warn,carlink_core={level},carlink_crypto={level},carlink_channel={level},carlink_cli={level},carlink={level}"

end Settings

end CarPairing
