import CarPairing.Proofs.Json.Merging
import CarPairing.Settings.Load
import Mathlib.Tactic.Choose

/-!
The settings one by one: where a file has each, how it is read there, what it is
without one and what the environment makes of it. A file of sections is taken as
settings exactly if each of them is read, and then it says what they are.
-/

namespace CarPairing

open Json (Value)

namespace Settings

structure Field (α : Type) where
  /-- The section of a file, and the member of the section. -/
  group : String
  name : String
  read? : Value → Option α
  /-- The value where no file has one. -/
  fallback : α
  /-- The value that the environment puts before those of the files. -/
  override? : Environment → Option α
  get : Settings → α

namespace Field

variable {α : Type}

def member? (field : Field α) (file : Value) : Option Value :=
  (file.member? field.group).bind (Value.member? field.name)

/-- What a file alone makes of the field. -/
def held? (field : Field α) (file : Value) : Option α :=
  orElse field.read? field.fallback (field.member? file)

end Field

inductive Setting where
  | mode | codeDigits | timeout | keyStore | secretSize | level | json

namespace Setting

abbrev Kind : Setting → Type
  | mode => VerificationMode
  | codeDigits | timeout | secretSize => Nat
  | keyStore => Option String
  | level => String
  | json => Bool

def field : (setting : Setting) → Field setting.Kind
  | mode => {
      group := "channel", name := "verification_mode"
      read? := VerificationMode.ofValue?, fallback := .numeric
      override? := fun environment =>
        (environment.text? "CARLINK_VERIFICATION_MODE").bind fun text =>
          (VerificationMode.ofUser text).toOption
      get := fun settings => settings.channel.mode }
  | codeDigits => {
      group := "channel", name := "verification_code_digits"
      read? := natural? 256, fallback := (6 : Nat)
      override? := fun _ => none
      get := fun settings => settings.channel.codeDigits }
  | timeout => {
      group := "channel", name := "handshake_timeout_secs"
      read? := natural? 0x10000000000000000, fallback := (30 : Nat)
      override? := fun environment =>
        (environment.text? "CARLINK_HANDSHAKE_TIMEOUT_SECS").bind seconds?
      get := fun settings => settings.channel.timeoutSeconds }
  | keyStore => {
      group := "storage", name := "key_store_path"
      read? := optionalString?, fallback := none
      override? := fun environment => (environment.text? "CARLINK_KEY_STORE").map some
      get := fun settings => settings.storage.keyStorePath }
  | secretSize => {
      group := "storage", name := "challenge_secret_bytes"
      read? := natural? 0x10000000000000000, fallback := (32 : Nat)
      override? := fun _ => none
      get := fun settings => settings.storage.secretSize }
  | level => {
      group := "logging", name := "level"
      read? := string?, fallback := "info"
      override? := fun environment => environment.text? "CARLINK_LOG_LEVEL"
      get := fun settings => settings.logging.level }
  | json => {
      group := "logging", name := "json"
      read? := bool?, fallback := false
      override? := fun environment => (environment.text? "CARLINK_LOG_JSON").map isYes
      get := fun settings => settings.logging.json }

end Setting

/-- The sections of a file. -/
def groups : List String :=
  ["channel", "storage", "logging"]

/-- A file that is an object, with objects for sections and a text for the mode. -/
structure Shaped (file : Value) : Prop where
  object : ∃ members, file = .object members
  sections : ∀ group ∈ groups, ∀ value,
    file.member? group = some value → ∃ members, value = .object members
  mode : ∀ value, Setting.mode.field.member? file = some value → ∃ text, value = .string text

section Sections

variable {group : Option Value}
  (object : ∀ value, group = some value → ∃ members, value = .object members)
include object

theorem channel_eq_some_iff (channel : ChannelSettings) :
    orElse ChannelSettings.ofValue? {} group = some channel ↔
      orElse VerificationMode.ofValue? .numeric
        (group.bind (Value.member? "verification_mode")) = some channel.mode ∧
      orElse (natural? 256) 6 (group.bind (Value.member? "verification_code_digits")) =
        some channel.codeDigits ∧
      orElse (natural? 0x10000000000000000) 30
        (group.bind (Value.member? "handshake_timeout_secs")) = some channel.timeoutSeconds := by
  obtain ⟨mode, codeDigits, timeout⟩ := channel
  cases group with
  | none => simp [orElse]
  | some value =>
      obtain ⟨members, rfl⟩ := object value rfl
      simp only [orElse, ChannelSettings.ofValue?, fields?, List.map_cons, List.map_nil,
        Value.member?, Option.bind_eq_bind, Option.bind_some, Option.pure_def,
        Option.bind_eq_some_iff, Option.some.injEq, ChannelSettings.mk.injEq]
      constructor
      · rintro ⟨_, first, _, second, _, third, rfl, rfl, rfl⟩
        exact ⟨first, second, third⟩
      · rintro ⟨first, second, third⟩
        exact ⟨_, first, _, second, _, third, rfl, rfl, rfl⟩

theorem storage_eq_some_iff (storage : StorageSettings) :
    orElse StorageSettings.ofValue? {} group = some storage ↔
      orElse optionalString? none (group.bind (Value.member? "key_store_path")) =
        some storage.keyStorePath ∧
      orElse (natural? 0x10000000000000000) 32
        (group.bind (Value.member? "challenge_secret_bytes")) = some storage.secretSize := by
  obtain ⟨path, size⟩ := storage
  cases group with
  | none => simp [orElse]
  | some value =>
      obtain ⟨members, rfl⟩ := object value rfl
      simp [orElse, StorageSettings.ofValue?, fields?, Value.member?, Option.bind_eq_some_iff]

theorem logging_eq_some_iff (logging : LoggingSettings) :
    orElse LoggingSettings.ofValue? {} group = some logging ↔
      orElse string? "info" (group.bind (Value.member? "level")) = some logging.level ∧
      orElse bool? false (group.bind (Value.member? "json")) = some logging.json := by
  obtain ⟨level, json⟩ := logging
  cases group with
  | none => simp [orElse]
  | some value =>
      obtain ⟨members, rfl⟩ := object value rfl
      simp [orElse, LoggingSettings.ofValue?, fields?, Value.member?, Option.bind_eq_some_iff]

end Sections

theorem ofValue_object (members : List (String × Value)) (settings : Settings) :
    ofValue? (.object members) = some settings ↔
      orElse ChannelSettings.ofValue? {} (Table.find? "channel" members) =
        some settings.channel ∧
      orElse StorageSettings.ofValue? {} (Table.find? "storage" members) =
        some settings.storage ∧
      orElse LoggingSettings.ofValue? {} (Table.find? "logging" members) =
        some settings.logging := by
  obtain ⟨channel, storage, logging⟩ := settings
  simp only [ofValue?, fields?, List.map_cons, List.map_nil, Option.bind_eq_bind,
    Option.bind_some, Option.pure_def, Option.bind_eq_some_iff, Option.some.injEq,
    Settings.mk.injEq]
  constructor
  · rintro ⟨_, first, _, second, _, third, rfl, rfl, rfl⟩
    exact ⟨first, second, third⟩
  · rintro ⟨first, second, third⟩
    exact ⟨_, first, _, second, _, third, rfl, rfl, rfl⟩

section Files

variable {file : Value} (shaped : Shaped file)
include shaped

/-- A file of sections is taken for these settings if each of them is read from it. -/
theorem ofValue_eq_some_iff (settings : Settings) :
    ofValue? file = some settings ↔
      ∀ setting : Setting, setting.field.held? file = some (setting.field.get settings) := by
  obtain ⟨members, rfl⟩ := shaped.object
  have channel :=
    channel_eq_some_iff (shaped.sections "channel" (by simp [groups])) settings.channel
  have storage :=
    storage_eq_some_iff (shaped.sections "storage" (by simp [groups])) settings.storage
  have logging :=
    logging_eq_some_iff (shaped.sections "logging" (by simp [groups])) settings.logging
  rw [ofValue_object]
  constructor
  · rintro ⟨first, second, third⟩ setting
    obtain ⟨mode, codeDigits, timeout⟩ := channel.mp first
    obtain ⟨keyStore, secretSize⟩ := storage.mp second
    obtain ⟨level, json⟩ := logging.mp third
    cases setting with
    | mode => exact mode
    | codeDigits => exact codeDigits
    | timeout => exact timeout
    | keyStore => exact keyStore
    | secretSize => exact secretSize
    | level => exact level
    | json => exact json
  · intro held
    exact ⟨channel.mpr ⟨held .mode, held .codeDigits, held .timeout⟩,
      storage.mpr ⟨held .keyStore, held .secretSize⟩, logging.mpr ⟨held .level, held .json⟩⟩

theorem accepted_iff :
    (∃ settings, ofValue? file = some settings) ↔
      ∀ setting : Setting, ∃ value, setting.field.held? file = some value := by
  constructor
  · rintro ⟨settings, read⟩ setting
    exact ⟨_, (ofValue_eq_some_iff shaped settings).mp read setting⟩
  · intro held
    choose value held using held
    refine ⟨⟨⟨value .mode, value .codeDigits, value .timeout⟩,
      ⟨value .keyStore, value .secretSize⟩, ⟨value .level, value .json⟩⟩, ?_⟩
    apply (ofValue_eq_some_iff shaped _).mpr
    intro setting
    cases setting <;> exact held _

end Files

end Settings

end CarPairing
