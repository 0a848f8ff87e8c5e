import CarPairing.Files.Tree
import CarPairing.Proofs.Settings.Fields
import Mathlib.Data.List.Basic

/-!
Which layer has its way. Files that are settings on their own are settings
together, and of a setting the last of them that has it counts, whatever the others
are about; a variable goes before them all, if it can be read.
-/

namespace CarPairing

open Json (Value)

namespace Settings

/-- A file of sections that is taken as settings. -/
structure Usable (file : Value) : Prop extends Shaped file where
  accepted : ∃ settings, ofValue? file = some settings

theorem usable_empty : Usable (.object []) where
  object := ⟨[], rfl⟩
  sections _ _ _ there := nomatch there
  mode _ there := nomatch there
  accepted := ⟨{}, rfl⟩

theorem Setting.group_mem (setting : Setting) : setting.field.group ∈ groups := by
  cases setting <;> simp [Setting.field, groups]

-- Only a mode can be written as an object.
theorem Setting.read_object {setting : Setting} (other : setting ≠ .mode)
    (members : List (String × Value)) : setting.field.read? (.object members) = none := by
  cases setting with
  | mode => exact absurd rfl other
  | _ => rfl

section Merging

variable {base overlay : Value}

theorem Usable.plain (usable : Usable overlay) {setting : Setting} {value : Value}
    (there : setting.field.member? overlay = some value) (members : List (String × Value)) :
    value ≠ .object members := by
  rintro rfl
  by_cases mode : setting = .mode
  · subst mode
    obtain ⟨text, other⟩ := usable.mode _ there
    cases other
  · obtain ⟨settings, read⟩ := usable.accepted
    have held := (ofValue_eq_some_iff usable.toShaped settings).mp read setting
    rw [Field.held?, there] at held
    change setting.field.read? (.object members) = _ at held
    rw [Setting.read_object mode] at held
    cases held

/-- A setting that the overlay has is the overlay's, any other one that of the base. -/
theorem member_merge (base : Value) (usable : Usable overlay) (distinct : overlay.Distinct)
    (setting : Setting) :
    setting.field.member? (base.merge overlay) =
      (setting.field.member? overlay).or (setting.field.member? base) := by
  have plain : ∀ value, setting.field.member? overlay = some value →
      ∀ members, value ≠ .object members := fun _ there => usable.plain there
  obtain ⟨sections, rfl⟩ := usable.object
  simp only [Field.member?, Value.member_merge base distinct.keys, Value.member_object] at plain ⊢
  cases found : Table.find? setting.field.group sections with
  | none => rfl
  | some group =>
      obtain ⟨members, rfl⟩ := usable.sections _ setting.group_mem group found
      have single : (members.map Prod.fst).Nodup := (distinct.member found).keys
      simp only [found, Option.bind_some, Value.member_object,
        Value.member_merge _ single] at plain ⊢
      cases there : Table.find? setting.field.name members with
      | none => cases base.member? setting.field.group <;> rfl
      | some value => exact congrArg some (Value.merge_plain (plain value there) _)

theorem held_merge (base : Value) (usable : Usable overlay) (distinct : overlay.Distinct)
    (setting : Setting) :
    setting.field.held? (base.merge overlay) =
      if (setting.field.member? overlay).isSome then setting.field.held? overlay
      else setting.field.held? base := by
  simp only [Field.held?, member_merge base usable distinct]
  cases setting.field.member? overlay <;> rfl

theorem sections_merge (below : Shaped base) (shaped : Shaped overlay)
    (distinct : overlay.Distinct) {group : String} (known : group ∈ groups) {value : Value}
    (there : (base.merge overlay).member? group = some value) :
    ∃ members, value = .object members := by
  obtain ⟨members, rfl⟩ := shaped.object
  rw [Value.member_merge base distinct.keys] at there
  split at there
  next => exact below.sections group known value there
  next own found =>
    obtain ⟨inner, rfl⟩ := shaped.sections group known own found
    cases there
    exact Value.merge_object _ inner

theorem Shaped.merge (below : Shaped base) (usable : Usable overlay)
    (distinct : overlay.Distinct) : Shaped (base.merge overlay) where
  object := by
    obtain ⟨members, rfl⟩ := usable.object
    exact Value.merge_object base members
  sections _ known _ there := sections_merge below usable.toShaped distinct known there
  mode := by
    intro value there
    rw [member_merge base usable distinct .mode] at there
    rcases Option.or_eq_some_iff.mp there with own | ⟨-, kept⟩
    · exact usable.mode value own
    · exact below.mode value kept

theorem Usable.merge (below : Usable base) (usable : Usable overlay)
    (distinct : overlay.Distinct) : Usable (base.merge overlay) := by
  have shaped := below.toShaped.merge usable distinct
  refine ⟨shaped, (accepted_iff shaped).mpr ?_⟩
  intro setting
  rw [held_merge base usable distinct]
  split
  · exact (accepted_iff usable.toShaped).mp usable.accepted setting
  · exact (accepted_iff below.toShaped).mp below.accepted setting

end Merging

section Layers

variable {δ : Type} [Disk δ]

/-- The value of a file that is there. -/
def layer? (disk : δ) (path : String) : Option Value :=
  if Disk.present disk path then (readValue disk path).toOption else none

/-- A file that is not there, or one of sections that is taken as settings alone. -/
def Fits (disk : δ) (environment : Environment) (path : String) : Prop :=
  Disk.present disk path = true →
    (∃ settings, loadFrom disk environment path = .ok settings) ∧
    ∀ file, readValue disk path = .ok file → Shaped file

variable {disk : δ} {environment : Environment} {path : String}

theorem readValue_distinct {file : Value} (read : readValue disk path = .ok file) :
    file.Distinct := by
  unfold readValue at read
  split at read
  · cases read
  · split at read
    · cases read
    next taken =>
      cases read
      exact Value.distinct_of_text taken

theorem Fits.usable (fits : Fits disk environment path) (present : Disk.present disk path = true) :
    ∃ file, readValue disk path = .ok file ∧ Usable file := by
  obtain ⟨⟨settings, loaded⟩, shaped⟩ := fits present
  unfold loadFrom ofFile at loaded
  cases read : readValue disk path with
  | error error =>
      rw [read] at loaded
      cases loaded
  | ok file =>
      rw [read] at loaded
      cases taken : ofValue? file with
      | none =>
          simp only [taken] at loaded
          cases loaded
      | some alone => exact ⟨file, rfl, shaped file read, alone, taken⟩

theorem readValue_text {text : String} {file : Value}
    (stored : Disk.read disk path = .ok (Utf8.encode text))
    (written : Value.ofText? text = some file) : readValue disk path = .ok file := by
  simp only [readValue, Disk.readText, stored, Utf8.decode_encode, written]

theorem Usable.fits {file : Value} (usable : Usable file) (read : readValue disk path = .ok file)
    (environment : Environment) : Fits disk environment path := by
  intro _
  obtain ⟨settings, taken⟩ := usable.accepted
  refine ⟨⟨override environment settings, ?_⟩, ?_⟩
  · simp only [loadFrom, ofFile, read, taken]
    rfl
  · intro other same
    rw [read] at same
    cases same
    exact usable.toShaped

-- What is merged so far is usable, and has of each setting what the last file had.
theorem readLayers_fits {paths : List String}
    (fits : ∀ path ∈ paths, Fits disk environment path) {base : Value} (usable : Usable base) :
    ∃ merged, readLayers disk base paths = .ok merged ∧ Usable merged ∧
      ∀ setting : Setting, setting.field.member? merged =
        ((paths.filterMap (layer? disk)).reverse.findSome? setting.field.member?).or
          (setting.field.member? base) := by
  induction paths generalizing base with
  | nil => exact ⟨base, rfl, usable, fun _ => rfl⟩
  | cons path rest ih =>
      obtain ⟨first, others⟩ := List.forall_mem_cons.mp fits
      cases present : Disk.present disk path with
      | false =>
          have absent : layer? disk path = none := by simp [layer?, present]
          obtain ⟨merged, read, told⟩ := ih others usable
          refine ⟨merged, ?_, ?_⟩
          · simp only [readLayers, present, Bool.false_eq_true, if_false]
            exact read
          · rw [List.filterMap_cons_none absent]
            exact told
      | true =>
          obtain ⟨file, found, own⟩ := first.usable present
          have distinct := readValue_distinct found
          have layer : layer? disk path = some file := by
            simp [layer?, present, found, Except.toOption]
          obtain ⟨merged, read, whole, told⟩ := ih others (usable.merge own distinct)
          refine ⟨merged, ?_, whole, ?_⟩
          · simp only [readLayers, present, if_true, found]
            exact read
          · intro setting
            rw [told, member_merge base own distinct, List.filterMap_cons_some layer,
              List.reverse_cons, List.findSome?_append, List.findSome?_singleton, Option.or_assoc]

/-- What the layers come to: the environment goes before the file of the project, this
before the file of the user, and where none has the field there is its default. -/
def Field.layered? {α : Type} (field : Field α) (environment : Environment)
    (own user : Option Value) : Option α :=
  match field.override? environment with
  | some value => some value
  | none =>
      match own.bind field.member? with
      | some value => field.read? value
      | none =>
          match user.bind field.member? with
          | some value => field.read? value
          | none => some field.fallback

theorem get_override (environment : Environment) (settings : Settings) (setting : Setting) :
    setting.field.get (override environment settings) =
      (setting.field.override? environment).getD (setting.field.get settings) := by
  cases setting with
  | keyStore =>
      simp only [Setting.field, override]
      cases environment.text? "CARLINK_KEY_STORE" <;> rfl
  | _ => rfl

-- Of two layers the later is asked first.
theorem findSome_layers {α : Type} (below above : Option String) (member? : Value → Option α) :
    ((below.toList ++ above.toList).filterMap (layer? disk)).reverse.findSome? member? =
      ((above.bind (layer? disk)).bind member?).or ((below.bind (layer? disk)).bind member?) := by
  have single (path : Option String) :
      (path.toList.filterMap (layer? disk)).reverse.findSome? member? =
        (path.bind (layer? disk)).bind member? := by
    cases path with
    | none => rfl
    | some path => cases found : layer? disk path <;> simp [found]
  rw [List.filterMap_append, List.reverse_append, List.findSome?_append, single, single]

theorem layered_of_held {setting : Setting} {merged : Value} {settings : Settings}
    {own user : Option Value}
    (held : setting.field.held? merged = some (setting.field.get settings))
    (members : setting.field.member? merged =
      (own.bind setting.field.member?).or (user.bind setting.field.member?))
    (environment : Environment) :
    setting.field.layered? environment own user =
      some (setting.field.get (override environment settings)) := by
  rw [get_override, Field.layered?]
  cases setting.field.override? environment with
  | some value => rfl
  | none =>
      rw [Field.held?, members] at held
      cases mine : own.bind setting.field.member? with
      | some value =>
          rw [mine] at held
          exact held
      | none =>
          rw [mine, Option.none_or] at held
          cases other : user.bind setting.field.member? with
          | some value =>
              rw [other] at held
              exact held
          | none =>
              rw [other] at held
              exact held

/-- With a file of the user and a file of a project, of which each is missing or fits
alone, there are settings, and each of them is what its variable says, if it has one
that can be read, else what the file of the project has, else what the file of the
user has, else its default, whatever the others are. -/
theorem load_by_precedence (disk : δ) (environment : Environment) (project : Option String)
    (user : ∀ path, userPath? environment = some path → Fits disk environment path)
    (own : ∀ directory, project = some directory →
      Fits disk environment (projectPath directory)) :
    ∃ settings, load disk environment project = .ok settings ∧
      ∀ setting : Setting,
        setting.field.layered? environment ((project.map projectPath).bind (layer? disk))
          ((userPath? environment).bind (layer? disk)) = some (setting.field.get settings) := by
  have fits : ∀ path ∈ (userPath? environment).toList ++ (project.map projectPath).toList,
      Fits disk environment path := by
    intro path member
    rcases List.mem_append.mp member with first | second
    · exact user path (Option.mem_toList.mp first)
    · obtain ⟨directory, named, rfl⟩ := Option.map_eq_some_iff.mp (Option.mem_toList.mp second)
      exact own directory named
  obtain ⟨merged, read, usable, told⟩ := readLayers_fits fits usable_empty
  obtain ⟨settings, taken⟩ := usable.accepted
  refine ⟨override environment settings, ?_, ?_⟩
  · simp only [load, ofLayers, read, taken]
    rfl
  · intro setting
    refine layered_of_held ((ofValue_eq_some_iff usable.toShaped settings).mp taken setting)
      ?_ environment
    rw [told setting, findSome_layers]
    exact Option.or_none

end Layers

section Houses

/-- Settings of a user in `/h` and of a project in `/p`. -/
def house (user own : String) : Tree where
  nodes := [("/h", .directory), ("/h/.config", .directory), ("/h/.config/carlink", .directory),
    ("/h/.config/carlink/settings.json", .file Tree.newFileMode (Utf8.encode user)),
    ("/p", .directory), ("/p/.carlink", .directory),
    ("/p/.carlink/settings.json", .file Tree.newFileMode (Utf8.encode own))]

def userFile : String :=
  "\x7b\"channel\":\x7b\"verification_mode\":\"out_of_band\",\"handshake_timeout_secs\":90\x7d\x7d"

def ownFile : String :=
  "\x7b\"channel\":\x7b\"handshake_timeout_secs\":10\x7d,\"logging\":\x7b\"json\":true\x7d\x7d"

def userValue : Value :=
  .object [("channel", .object [("verification_mode", .string "out_of_band"),
    ("handshake_timeout_secs", natValue 90)])]

def ownValue : Value :=
  .object [("channel", .object [("handshake_timeout_secs", natValue 10)]),
    ("logging", .object [("json", .bool true)])]

theorem ofText_userFile : Value.ofText? userFile = some userValue := by
  cbv

theorem ofText_ownFile : Value.ofText? ownFile = some ownValue := by
  cbv

theorem usable_userValue : Usable userValue where
  object := ⟨_, rfl⟩
  sections := by simp [groups, userValue, Value.member?, Table.find?]
  mode := by simp [userValue, Field.member?, Setting.field, Value.member?, Table.find?]
  accepted := ⟨_, rfl⟩

theorem usable_ownValue : Usable ownValue where
  object := ⟨_, rfl⟩
  sections := by simp [groups, ownValue, Value.member?, Table.find?]
  mode := by simp [ownValue, Field.member?, Setting.field, Value.member?, Table.find?]
  accepted := ⟨_, rfl⟩

theorem house_user_fits (own : String) (environment : Environment) :
    Fits (house userFile own) environment "/h/.config/carlink/settings.json" := by
  have stored : Disk.read (house userFile own) "/h/.config/carlink/settings.json" =
      .ok (Utf8.encode userFile) := rfl
  exact usable_userValue.fits (readValue_text stored ofText_userFile) environment

theorem house_own_read (user : String) :
    readValue (house user ownFile) (projectPath "/p") = .ok ownValue := by
  have stored : Disk.read (house user ownFile) (projectPath "/p") =
      .ok (Utf8.encode ownFile) := rfl
  exact readValue_text stored ofText_ownFile

/-- Both files have a timeout, and the level is the environment's. -/
theorem load_by_precedence_house :
    let environment : Environment :=
      { bindings := [("HOME", Utf8.encode "/h"), ("CARLINK_LOG_LEVEL", Utf8.encode "warn")] }
    let disk := house userFile ownFile
    (∀ path, userPath? environment = some path → Fits disk environment path) ∧
    (∀ directory, some "/p" = some directory → Fits disk environment (projectPath directory)) ∧
    ∃ settings, load disk environment (some "/p") = .ok settings ∧
      ∀ setting : Setting,
        setting.field.layered? environment ((some (projectPath "/p")).bind (layer? disk))
          ((userPath? environment).bind (layer? disk)) = some (setting.field.get settings) := by
  intro environment disk
  have named : userPath? environment = some "/h/.config/carlink/settings.json" := by
    decide +kernel
  have user : ∀ path, userPath? environment = some path → Fits disk environment path := by
    intro path there
    obtain rfl := Option.some.inj (named.symm.trans there)
    exact house_user_fits ownFile environment
  have own : ∀ directory, some "/p" = some directory →
      Fits disk environment (projectPath directory) := by
    intro directory there
    obtain rfl := Option.some.inj there
    exact usable_ownValue.fits (house_own_read userFile) environment
  exact ⟨user, own, load_by_precedence disk environment (some "/p") user own⟩

/-- A variable that is no text is there and does not count: with `0xff` for the log
format, which switches nothing on, the format is still that of the file. -/
theorem unreadable_variable_ignored :
    let environment : Environment := { bindings := [("CARLINK_LOG_JSON", [0xff])] }
    let disk := house userFile ownFile
    userPath? environment = none ∧ Fits disk environment (projectPath "/p") ∧
    environment.bytes? "CARLINK_LOG_JSON" = some [0xff] ∧
    (∀ yes ∈ ["1", "true", "yes"], Utf8.encode yes ≠ [0xff]) ∧
    ∃ settings, load disk environment (some "/p") = .ok settings ∧
      settings.logging.json = true := by
  intro environment disk
  have absent : userPath? environment = none := rfl
  have unread : environment.text? "CARLINK_LOG_JSON" = none := by
    decide +kernel
  have there : Disk.present disk (projectPath "/p") = true := rfl
  have read : readValue disk (projectPath "/p") = .ok ownValue := house_own_read userFile
  let written : Settings := { channel := { timeoutSeconds := 10 }, logging := { json := true } }
  have layers : ofLayers disk [projectPath "/p"] = .ok written := by
    simp only [ofLayers, readLayers, there, if_true, read]
    rfl
  refine ⟨absent, usable_ownValue.fits read environment, rfl, by decide +kernel,
    override environment written, ?_, ?_⟩
  · simp only [load, absent]
    exact congrArg (Except.map (override environment)) layers
  · simp only [override, unread]
    rfl

end Houses

end Settings

end CarPairing
