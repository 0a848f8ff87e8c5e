import CarPairing.Proofs.Json.Printing
import CarPairing.Proofs.Table
import CarPairing.Store.Format

/-!
A store that is printed is read back whole: every entry under its id, with
every text that it may hold. It has to have one entry for an id, as a table has,
and times of 64 bits.
-/

namespace CarPairing

namespace Json

-- A reader of several parts goes on with each part that it has read.
theorem bind_of_some {α β : Type} {first : Option α} {next : α → Option β} {value : α} {last : β}
    (read : first = some value) (rest : next value = some last) : (first >>= next) = some last := by
  rw [read]
  exact rest

theorem chars_piece (character : Char) (read : List Piece) :
    Piece.chars? (Token.piece character :: read) =
      (Piece.chars? read).map (character :: ·) := by
  unfold Token.piece
  split
  · rfl
  · by_cases control : character.toNat < 0x20
    · have high : Piece.isHigh character.toNat = false := by
        simp only [Piece.isHigh, Bool.and_eq_false_iff, decide_eq_false_iff_not]
        omega
      have low : Piece.isLow character.toNat = false := by
        simp only [Piece.isLow, Bool.and_eq_false_iff, decide_eq_false_iff_not]
        omega
      rw [if_pos control, Piece.chars?.eq_def]
      simp [high, low]
    · simp [control, Piece.chars?]

theorem text_pieces (text : String) : Piece.text? (Token.pieces text) = some text := by
  have chars (characters : List Char) :
      Piece.chars? (characters.map Token.piece) = some characters := by
    induction characters with
    | nil => rfl
    | cons character rest ih => simp [chars_piece, ih]
  simp [Piece.text?, Token.pieces, chars]

/-- Documents under names, as they are written. -/
def written (fields : List (String × Document)) : List (List Piece × Document) :=
  fields.map fun (name, document) => (Token.pieces name, document)

theorem named_written (fields : List (String × Document)) :
    Document.named? (written fields) = some fields := by
  induction fields with
  | nil => rfl
  | cons field rest ih =>
      simp only [written] at ih
      simp [written, Document.named?, text_pieces, ih]

theorem optionalString_map (text : Option String) :
    ((text.map fun text => Document.text (Token.pieces text)).getD .null).optionalString? =
      some text := by
  cases text with
  | none => rfl
  | some text => simp [Document.optionalString?, Document.string?, text_pieces]

theorem int64_ofInt {value : Int} (fits : Numeral.Fits value) :
    (Document.number (Numeral.ofInt value)).int64? = some value := by
  simp [Document.int64?, Numeral.integer_ofInt fits, fits.2]

theorem fits_of_int64 {document : Document} {value : Int}
    (read : document.int64? = some value) : Numeral.Fits value := by
  cases document with
  | number numeral =>
      simp only [Document.int64?] at read
      cases found : numeral.integer? with
      | none => simp [found] at read
      | some integer =>
          simp only [found, Option.ite_none_right_eq_some, Option.some.injEq] at read
          obtain ⟨high, rfl⟩ := read
          refine ⟨?_, high⟩
          simp only [Numeral.integer?] at found
          split at found
          · cases found
          · split at found
            · split at found
              · cases found
                omega
              · cases found
            · split at found
              · cases found
                omega
              · cases found
  | _ => simp [Document.int64?] at read

end Json

namespace Uuid

theorem unhyphenate_hyphenate (sizes : List Nat) (digits : List Char) (some_ : sizes ≠ [])
    (sized : digits.length = sizes.foldr (· + ·) 0) :
    unhyphenate? sizes (hyphenate sizes digits) = some digits := by
  induction sizes generalizing digits with
  | nil => exact absurd rfl some_
  | cons size rest ih =>
      cases rest with
      | nil =>
          have whole : digits.length = size := by simpa using sized
          simp [unhyphenate?, hyphenate, ← whole]
      | cons next more =>
          have long : size ≤ digits.length := by
            rw [sized, List.foldr_cons]
            omega
          have tail := ih (digits.drop size) (by simp) (by
            rw [List.length_drop, sized, List.foldr_cons]
            omega)
          have front : (digits.take size).length = size := by simp [long]
          rw [hyphenate, unhyphenate?]
          · rw [List.drop_left' front, List.take_left' front]
            simp [tail]
          · simp
          · simp

theorem ofText_toText (id : Uuid) : ofText? id.toText = some id := by
  have digits : (Hex.encodeChars id.bytes).length = groups.foldr (· + ·) 0 := by
    rw [Hex.length_encodeChars, id.length_bytes]
    rfl
  have length : (hyphenate groups (Hex.encodeChars id.bytes)).length = 36 := by
    simp [hyphenate, groups, digits]
  have hyphenated : ofHyphenated? (hyphenate groups (Hex.encodeChars id.bytes)) = some id := by
    simp [ofHyphenated?, unhyphenate_hyphenate groups _ (by simp [groups]) digits,
      Hex.decode_encodeChars, ofBytes?, id.length_bytes]
  simp [ofText?, toText, ofChars?, length, hyphenated]

end Uuid

open Json

-- A text that may be missing is a member that may be missing.
theorem listed_optional (layout : Layout) (name : String) (text : Option String) :
    Listed layout (text.map fun text => (name, Value.string text)).toList
      (written (text.map fun text => (name, Document.text (Token.pieces text))).toList) := by
  cases text with
  | none => exact .nil
  | some text => exact .cons name (printed_string layout text) .nil

namespace PairedDevice

/-- The times are signed integers of 64 bits. -/
structure Dated (device : PairedDevice) : Prop where
  first : Numeral.Fits device.firstPaired
  last : Numeral.Fits device.lastConnected

def fields (device : PairedDevice) : List (String × Document) :=
  [("device_id", .text (Token.pieces device.id))] ++
  (device.key.map fun text => ("encryption_key", Document.text (Token.pieces text))).toList ++
  (device.secret.map fun text => ("challenge_secret", Document.text (Token.pieces text))).toList ++
  [("first_paired", .number (Numeral.ofInt device.firstPaired)),
   ("last_connected", .number (Numeral.ofInt device.lastConnected))]

def document (device : PairedDevice) : Document :=
  .object (written device.fields)

theorem printed_toValue (layout : Layout) (device : PairedDevice) :
    Printed layout device.toValue device.document := by
  apply Listed.object
  have id : Listed layout.deeper [("device_id", .string device.id)]
      (written [("device_id", .text (Token.pieces device.id))]) :=
    .cons _ (printed_string _ _) .nil
  have times : Listed layout.deeper
      [("first_paired", .number (.integer device.firstPaired)),
        ("last_connected", .number (.integer device.lastConnected))]
      (written [("first_paired", .number (Numeral.ofInt device.firstPaired)),
        ("last_connected", .number (Numeral.ofInt device.lastConnected))]) :=
    .cons _ (printed_integer _ _) (.cons _ (printed_integer _ _) .nil)
  have whole := ((id.append (listed_optional layout.deeper "encryption_key" device.key)).append
    (listed_optional layout.deeper "challenge_secret" device.secret)).append times
  simpa [written, fields] using whole

/-- Each field is there once, or is missing where it may be. -/
theorem single_fields (device : PairedDevice) :
    Document.single? "device_id" device.fields =
        some (some (.text (Token.pieces device.id))) ∧
      Document.single? "encryption_key" device.fields =
        some (device.key.map fun text => .text (Token.pieces text)) ∧
      Document.single? "challenge_secret" device.fields =
        some (device.secret.map fun text => .text (Token.pieces text)) ∧
      Document.single? "first_paired" device.fields =
        some (some (.number (Numeral.ofInt device.firstPaired))) ∧
      Document.single? "last_connected" device.fields =
        some (some (.number (Numeral.ofInt device.lastConnected))) := by
  obtain ⟨id, key, secret, firstPaired, lastConnected⟩ := device
  cases key <;> cases secret <;> exact ⟨rfl, rfl, rfl, rfl, rfl⟩

theorem ofDocument_document (device : PairedDevice) (dated : device.Dated) :
    ofDocument? device.document = some device := by
  obtain ⟨id, key, secret, first, last⟩ := device.single_fields
  have read : ofFields? (.text (Token.pieces device.id))
      (device.key.map fun text => .text (Token.pieces text))
      (device.secret.map fun text => .text (Token.pieces text))
      (.number (Numeral.ofInt device.firstPaired)) (.number (Numeral.ofInt device.lastConnected)) =
        some device := by
    apply bind_of_some (text_pieces device.id)
    apply bind_of_some (optionalString_map device.key)
    apply bind_of_some (optionalString_map device.secret)
    apply bind_of_some (int64_ofInt dated.first)
    apply bind_of_some (int64_ofInt dated.last)
    rfl
  apply bind_of_some (named_written device.fields)
  apply bind_of_some id
  apply bind_of_some key
  apply bind_of_some secret
  apply bind_of_some first
  apply bind_of_some last
  exact read

theorem dated_of_fields {id : Document} {key secret : Option Document} {first last : Document}
    {device : PairedDevice} (read : ofFields? id key secret first last = some device) :
    device.Dated := by
  simp only [ofFields?, Option.bind_eq_bind, Option.bind_eq_some_iff, Option.pure_def,
    Option.some.injEq] at read
  obtain ⟨_, -, _, -, _, -, firstPaired, one, lastConnected, two, rfl⟩ := read
  exact ⟨fits_of_int64 one, fits_of_int64 two⟩

theorem dated_of_document {document : Document} {device : PairedDevice}
    (read : ofDocument? document = some device) : device.Dated := by
  unfold ofDocument? at read
  split at read
  · simp only [Option.bind_eq_bind, Option.bind_eq_some_iff] at read
    obtain ⟨_, -, _, -, _, -, _, -, _, -, _, -, _, -, _, -, _, -, fields⟩ := read
    exact dated_of_fields fields
  · exact dated_of_fields read
  · cases read

end PairedDevice

namespace KeyStore

/-- A store as a table can be: one entry for an id, and times of 64 bits. -/
structure Sound (store : KeyStore) : Prop where
  distinct : (store.devices.map Prod.fst).Nodup
  dated : ∀ entry ∈ store.devices, entry.2.Dated

def entries (store : KeyStore) : List (String × Document) :=
  store.devices.map fun (id, device) => (id, device.document)

def fields (store : KeyStore) : List (String × Document) :=
  (store.uniqueId.map fun id => ("unique_id", Document.text (Token.pieces id.toText))).toList ++
  [("devices", .object (written store.entries))]

theorem listed_entries (layout : Layout) (devices : List (String × PairedDevice)) :
    Listed layout (devices.map fun (id, device) => (id, device.toValue))
      (written (devices.map fun (id, device) => (id, device.document))) := by
  induction devices with
  | nil => exact .nil
  | cons entry rest ih => exact .cons entry.1 (entry.2.printed_toValue layout) ih

theorem printed_toValue (layout : Layout) (store : KeyStore) :
    Printed layout store.toValue (.object (written store.fields)) := by
  apply Listed.object
  have devices : Listed layout.deeper
      [("devices", .object (store.devices.map fun (id, device) => (id, device.toValue)))]
      (written [("devices", .object (written store.entries))]) :=
    .cons _ (listed_entries _ store.devices).object .nil
  have whole := (listed_optional layout.deeper "unique_id" (store.uniqueId.map Uuid.toText)).append
    devices
  simpa [written, fields, Function.comp_def] using whole

theorem entries_read (devices : List (String × PairedDevice))
    (dated : ∀ entry ∈ devices, entry.2.Dated) :
    entries? (devices.map fun (id, device) => (id, device.document)) = some devices := by
  induction devices with
  | nil => rfl
  | cons entry rest ih =>
      obtain ⟨first, others⟩ := List.forall_mem_cons.mp dated
      simp [entries?, PairedDevice.ofDocument_document entry.2 first, ih others]

theorem single_fields (store : KeyStore) :
    Document.single? "unique_id" store.fields =
        some (store.uniqueId.map fun id => .text (Token.pieces id.toText)) ∧
      Document.single? "devices" store.fields = some (some (.object (written store.entries))) := by
  obtain ⟨uniqueId, devices⟩ := store
  cases uniqueId <;> exact ⟨rfl, rfl⟩

theorem uniqueId_map (id : Option Uuid) :
    uniqueId? ((id.map fun id => Document.text (Token.pieces id.toText)).getD .null) =
      some id := by
  cases id with
  | none => rfl
  | some id => simp [uniqueId?, Document.string?, text_pieces, Uuid.ofText_toText]

/-- A store that is written is read back whole. -/
theorem ofText_toText (store : KeyStore) (sound : store.Sound) :
    ofText? store.toText = some store := by
  obtain ⟨id, table⟩ := store.single_fields
  have devices : devices? (.object (written store.entries)) = some store.devices := by
    simp [devices?, named_written, entries, entries_read store.devices sound.dated,
      Table.ofWrites_distinct _ sound.distinct]
  have read : ofFields? (store.uniqueId.map fun id => .text (Token.pieces id.toText))
      (some (.object (written store.entries))) = some store := by
    apply bind_of_some (uniqueId_map store.uniqueId)
    apply bind_of_some devices
    rfl
  rw [ofText?, toText, ofText_pretty (store.printed_toValue (.indented 0)), Option.bind_some]
  apply bind_of_some (named_written store.fields)
  apply bind_of_some id
  apply bind_of_some table
  exact read

theorem dated_of_entries {members : List (String × Document)}
    {devices : List (String × PairedDevice)} (read : entries? members = some devices) :
    ∀ entry ∈ devices, entry.2.Dated := by
  induction members generalizing devices with
  | nil =>
      cases read
      exact fun _ member => absurd member List.not_mem_nil
  | cons member rest ih =>
      simp only [entries?, Option.bind_eq_bind, Option.bind_eq_some_iff, Option.pure_def,
        Option.some.injEq] at read
      obtain ⟨device, first, others, later, rfl⟩ := read
      exact List.forall_mem_cons.mpr ⟨PairedDevice.dated_of_document first, ih later⟩

theorem sound_of_fields {uniqueId devices : Option Document} {store : KeyStore}
    (read : ofFields? uniqueId devices = some store) : store.Sound := by
  simp only [ofFields?, Option.bind_eq_bind, Option.bind_eq_some_iff, Option.pure_def,
    Option.some.injEq] at read
  obtain ⟨_, -, table, made, rfl⟩ := read
  cases document : devices.getD (.object []) with
  | object members =>
      rw [document] at made
      simp only [devices?, Option.bind_eq_bind, Option.bind_eq_some_iff, Option.pure_def,
        Option.some.injEq] at made
      obtain ⟨named, -, entries, found, rfl⟩ := made
      obtain ⟨distinct, origin⟩ := Table.ofWrites_table entries
      exact ⟨distinct, fun entry member => dated_of_entries found entry (origin entry member)⟩
  | _ =>
      rw [document] at made
      cases made

/-- Every store that is read is sound. -/
theorem sound_of_text {text : String} {store : KeyStore} (read : ofText? text = some store) :
    store.Sound := by
  obtain ⟨document, -, read⟩ := Option.bind_eq_some_iff.mp read
  unfold ofDocument? at read
  split at read
  · simp only [Option.bind_eq_bind, Option.bind_eq_some_iff] at read
    obtain ⟨_, -, _, -, _, -, fields⟩ := read
    exact sound_of_fields fields
  · exact sound_of_fields read
  · exact sound_of_fields read
  · exact sound_of_fields read
  · cases read

theorem sound_empty : ({} : KeyStore).Sound :=
  ⟨List.nodup_nil, fun _ member => absurd member List.not_mem_nil⟩

theorem sound_of_load {δ : Type} [Disk δ] {disk : δ} {path : String} {store : KeyStore}
    (loaded : load disk path = .ok store) : store.Sound := by
  unfold load at loaded
  split at loaded
  · split at loaded
    · cases loaded
    · split at loaded
      next read =>
        cases loaded
        exact sound_of_text read
      · cases loaded
  · cases loaded
    exact sound_empty

section Changes

variable {store : KeyStore} (sound : store.Sound)
include sound

theorem Sound.put {device : PairedDevice} (dated : device.Dated) (id : String) :
    (store.put id device).Sound where
  distinct := Table.insert_distinct id device sound.distinct
  dated entry member := by
    rcases Table.mem_insert member with rfl | kept
    · exact dated
    · exact sound.dated entry kept

theorem Sound.entry {now : Int} (timely : Numeral.Fits now) (id : String) :
    (store.entry id now).Dated := by
  unfold KeyStore.entry
  cases found : store.device? id with
  | none => exact ⟨timely, timely⟩
  | some device => exact sound.dated _ (Table.mem_of_find found)

theorem Sound.saveKey {now : Int} (timely : Numeral.Fits now) {id : String} {key : Bytes}
    {after : KeyStore} (saved : store.saveKey id key now = .ok after) : after.Sound := by
  unfold KeyStore.saveKey at saved
  split at saved
  · cases saved
  · split at saved
    · cases saved
    · cases saved
      refine sound.put ?_ id
      exact ⟨(sound.entry timely id).first, timely⟩

theorem Sound.saveSecret {now : Int} (timely : Numeral.Fits now) {id : String} {secret : Bytes}
    {after : KeyStore} (saved : store.saveSecret id secret now = .ok after) : after.Sound := by
  unfold KeyStore.saveSecret at saved
  split at saved
  · cases saved
  · split at saved
    · cases saved
    · cases saved
      refine sound.put ?_ id
      exact ⟨(sound.entry timely id).first, (sound.entry timely id).last⟩

theorem Sound.remove (id : String) : (store.remove id).2.Sound where
  distinct := Table.erase_distinct id sound.distinct
  dated entry member := sound.dated entry (Table.mem_erase member)

theorem Sound.rotateId (entropy : Entropy) : (store.rotateId entropy).2.1.Sound :=
  ⟨sound.distinct, sound.dated⟩

theorem Sound.takeId (entropy : Entropy) : (store.takeId entropy).2.1.Sound := by
  unfold KeyStore.takeId
  split
  · exact sound
  · exact sound.rotateId entropy

end Changes

end KeyStore

end CarPairing
