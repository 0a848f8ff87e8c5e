import CarPairing.Proofs.Store.Keeping
import CarPairing.Proofs.Store.Listing
import Mathlib.Data.List.Induction

/-!
What a key store knows of a device, told from the calls alone: of the accepted
saves since the device was last removed the first made its entry, the last of a
kind is what is given out, and the last key is when it was last connected. Calls
on other devices do not come into it.
-/

namespace CarPairing

namespace KeyStore

/-- The calls on a key store, with the random bytes that an id is drawn from. -/
inductive Call where
  | saveKey (id : String) (key : Bytes) (now : Int)
  | saveSecret (id : String) (secret : Bytes) (now : Int)
  | remove (id : String)
  | takeId (entropy : Entropy)
  | rotateId (entropy : Entropy)

/-- Takes over a store that was made, or keeps the old one. -/
def accept (store : KeyStore) : Except StoreError KeyStore → Except StoreError Unit × KeyStore
  | .ok after => (.ok (), after)
  | .error error => (.error error, store)

def perform (call : Call) (store : KeyStore) : Except StoreError Unit × KeyStore :=
  match call with
  | .saveKey id key now => store.accept (store.saveKey id key now)
  | .saveSecret id secret now => store.accept (store.saveSecret id secret now)
  | .remove id => (.ok (), (store.remove id).2)
  | .takeId entropy => (.ok (), (store.takeId entropy).2.1)
  | .rotateId entropy => (.ok (), (store.rotateId entropy).2.1)

def performAll (calls : List Call) (store : KeyStore) : KeyStore :=
  calls.foldl (fun store call => (perform call store).2) store

/-- What an accepted save brings to the entry of its device. -/
inductive Save where
  | key (bytes : Bytes) (now : Int)
  | secret (bytes : Bytes) (now : Int)

namespace Save

def time : Save → Int
  | key _ now | secret _ now => now

def key? : Save → Option Bytes
  | key bytes _ => some bytes
  | secret _ _ => none

def secret? : Save → Option Bytes
  | key _ _ => none
  | secret bytes _ => some bytes

/-- Only with a key a device counts as connected. -/
def connected? : Save → Option Int
  | key _ now => some now
  | secret _ _ => none

def write (device : PairedDevice) : Save → PairedDevice
  | key bytes now => { device with key := some (Hex.encode bytes), lastConnected := now }
  | secret bytes _ => { device with secret := some (Hex.encode bytes) }

end Save

namespace Call

/-- A save for a device with a name, of a key of the right length or of a secret. -/
def Accepted : Call → Prop
  | saveKey id key _ => id ≠ "" ∧ key.length = Key.size
  | saveSecret id secret _ => id ≠ "" ∧ secret ≠ []
  | _ => True

instance : DecidablePred Accepted
  | saveKey id key _ => inferInstanceAs (Decidable (id ≠ "" ∧ key.length = Key.size))
  | saveSecret id secret _ => inferInstanceAs (Decidable (id ≠ "" ∧ secret ≠ []))
  | remove _ | takeId _ | rotateId _ => inferInstanceAs (Decidable True)

def About (id : String) : Call → Prop
  | saveKey other _ _ | saveSecret other _ _ | remove other => other = id
  | _ => False

def removes (id : String) : Call → Bool
  | remove other => other = id
  | _ => false

/-- What the call, if it is accepted, saves for the device. -/
def brings? (id : String) : Call → Option Save
  | saveKey other key now => if other = id then some (.key key now) else none
  | saveSecret other secret now => if other = id then some (.secret secret now) else none
  | _ => none

end Call

/-- The accepted saves for the device since it was last removed, latest first. -/
def saves (id : String) (calls : List Call) : List Save :=
  ((calls.filter fun call => call.Accepted).reverse.takeWhile
    fun call => !call.removes id).filterMap (Call.brings? id)

def lastKey? (id : String) (calls : List Call) : Option Bytes :=
  (saves id calls).findSome? Save.key?

def lastSecret? (id : String) (calls : List Call) : Option Bytes :=
  (saves id calls).findSome? Save.secret?

/-- The time of the save that made the entry. -/
def created? (id : String) (calls : List Call) : Option Int :=
  (saves id calls).getLast?.map Save.time

def connected? (id : String) (calls : List Call) : Option Int :=
  ((saves id calls).findSome? Save.connected?).or (created? id calls)

/-- The entry that the saves for a device come to. -/
def recorded? (id : String) (saves : List Save) : Option PairedDevice :=
  saves.getLast?.map fun first => {
    id
    key := (saves.findSome? Save.key?).map Hex.encode
    secret := (saves.findSome? Save.secret?).map Hex.encode
    firstPaired := first.time
    lastConnected := (saves.findSome? Save.connected?).getD first.time }

theorem recorded_cons (id : String) (save : Save) (saves : List Save) :
    recorded? id (save :: saves) = some (save.write ((recorded? id saves).getD
      { id, firstPaired := save.time, lastConnected := save.time })) := by
  cases ended : saves.getLast? with
  | none =>
      obtain rfl := List.getLast?_eq_none_iff.mp ended
      cases save <;> rfl
  | some first =>
      have last : (save :: saves).getLast? = some first := by
        rw [List.getLast?_cons, ended]
        rfl
      cases save <;> simp only [recorded?, last, ended] <;> rfl

theorem saves_refused (id : String) (calls : List Call) {call : Call} (refused : ¬call.Accepted) :
    saves id (calls ++ [call]) = saves id calls := by
  simp [saves, refused]

theorem saves_accepted (id : String) (calls : List Call) {call : Call}
    (accepted : call.Accepted) : saves id (calls ++ [call]) =
      if call.removes id then [] else (call.brings? id).toList ++ saves id calls := by
  have kept : (calls ++ [call]).filter (fun call => call.Accepted) =
      calls.filter (fun call => call.Accepted) ++ [call] := by
    simp [List.filter_append, accepted]
  rw [saves, kept, List.reverse_append, List.reverse_singleton, List.singleton_append]
  cases removed : call.removes id with
  | true => simp [removed]
  | false => cases brought : call.brings? id <;> simp [removed, brought, saves]

theorem eq_saveKey_of_brings {id : String} {call : Call} {bytes : Bytes} {now : Int}
    (brought : call.brings? id = some (.key bytes now)) : call = .saveKey id bytes now := by
  cases call with
  | saveKey other key time =>
      simp only [Call.brings?, Option.ite_none_right_eq_some, Option.some.injEq,
        Save.key.injEq] at brought
      obtain ⟨rfl, rfl, rfl⟩ := brought
      rfl
  | saveSecret other secret time => simp [Call.brings?] at brought
  | _ => cases brought

-- A key that is not of 32 bytes is not accepted.
theorem length_lastKey {id : String} {calls : List Call} {bytes : Bytes}
    (last : lastKey? id calls = some bytes) : bytes.length = 32 := by
  obtain ⟨save, member, keyed⟩ := List.exists_of_findSome?_eq_some last
  obtain ⟨call, since, brought⟩ := List.mem_filterMap.mp member
  have accepted : call.Accepted := by
    have told := List.mem_reverse.mp ((List.takeWhile_sublist _).mem since)
    simpa using (List.mem_filter.mp told).2
  cases save with
  | secret => cases keyed
  | key =>
      cases keyed
      obtain rfl := eq_saveKey_of_brings brought
      exact accepted.2

section Step

variable (store : KeyStore)

theorem saveKey_accepted {id : String} {key : Bytes} (now : Int) (named : id ≠ "")
    (sized : key.length = Key.size) : store.saveKey id key now =
      .ok (store.put id ((Save.key key now).write (store.entry id now))) :=
  store.saveKey_exact ⟨key, sized⟩ now named

theorem saveKey_refused {id : String} {key : Bytes} (now : Int)
    (refused : ¬(id ≠ "" ∧ key.length = Key.size)) :
    ∃ error, store.saveKey id key now = .error error := by
  by_cases named : id = ""
  · exact ⟨_, if_pos named⟩
  · have sized : ¬key.length = 32 := fun sized => refused ⟨named, sized⟩
    exact ⟨.invalidInput (CryptoError.invalidKeyLength Key.size key.length).message, by
      rw [saveKey, if_neg named, Key.ofBytes, dif_neg sized]⟩

theorem saveSecret_refused {id : String} {secret : Bytes} (now : Int)
    (refused : ¬(id ≠ "" ∧ secret ≠ [])) :
    ∃ error, store.saveSecret id secret now = .error error := by
  by_cases named : id = ""
  · exact ⟨_, if_pos named⟩
  · obtain rfl : secret = [] := Classical.byContradiction fun filled => refused ⟨named, filled⟩
    exact ⟨_, store.saveSecret_empty now named⟩

theorem device_remove (id other : String) :
    (store.remove id).2.device? other = if other = id then none else store.device? other :=
  Table.find_erase id other store.devices

theorem perform_refused {call : Call} (refused : ¬call.Accepted) :
    ∃ error, perform call store = (.error error, store) := by
  cases call with
  | saveKey id key now =>
      obtain ⟨error, failed⟩ := store.saveKey_refused now refused
      exact ⟨error, by rw [perform, failed, accept]⟩
  | saveSecret id secret now =>
      obtain ⟨error, failed⟩ := store.saveSecret_refused now refused
      exact ⟨error, by rw [perform, failed, accept]⟩
  | remove => exact absurd trivial refused
  | takeId => exact absurd trivial refused
  | rotateId => exact absurd trivial refused

/-- All that an accepted call does to the entry of a device: it is erased, or takes
what is saved for it, or stays. -/
theorem perform_accepted {call : Call} (accepted : call.Accepted) :
    (perform call store).1 = .ok () ∧ ∀ id, (perform call store).2.device? id =
      if call.removes id then none
      else match call.brings? id with
        | none => store.device? id
        | some save => some (save.write (store.entry id save.time)) := by
  cases call with
  | saveKey other key now =>
      rw [perform, store.saveKey_accepted now accepted.1 accepted.2, accept]
      refine ⟨rfl, fun id => ?_⟩
      rw [device_put]
      by_cases same : id = other
      · subst same
        simp [Call.removes, Call.brings?, Save.time]
      · simp [Call.removes, Call.brings?, same, Ne.symm same]
  | saveSecret other secret now =>
      rw [perform, store.saveSecret_exact now accepted.1 accepted.2, accept]
      refine ⟨rfl, fun id => ?_⟩
      rw [withSecret, device_put]
      by_cases same : id = other
      · subst same
        simp [Call.removes, Call.brings?, Save.time, Save.write]
      · simp [Call.removes, Call.brings?, same, Ne.symm same]
  | remove other =>
      refine ⟨rfl, fun id => ?_⟩
      simp [perform, device_remove, Call.removes, Call.brings?, eq_comm]
  | takeId entropy =>
      refine ⟨rfl, fun id => ?_⟩
      simp [perform, device_takeId, Call.removes, Call.brings?]
  | rotateId entropy =>
      refine ⟨rfl, fun id => ?_⟩
      simp [perform, Call.removes, Call.brings?]
      rfl

end Step

section Labels

variable {store : KeyStore}

theorem Labelled.put (labelled : Labelled store) {id : String} {device : PairedDevice}
    (own : device.id = id) : Labelled (store.put id device) where
  distinct := Table.insert_distinct _ _ labelled.distinct
  own entry member := by
    rcases Table.mem_insert member with rfl | old
    · exact own
    · exact labelled.own entry old

theorem Labelled.entry (labelled : Labelled store) (id : String) (now : Int) :
    (store.entry id now).id = id := by
  unfold KeyStore.entry
  cases found : store.device? id with
  | none => rfl
  | some device => exact labelled.own (id, device) (Table.mem_of_find found)

theorem Labelled.same {after : KeyStore} (labelled : Labelled store)
    (devices : after.devices = store.devices) : Labelled after where
  distinct := devices ▸ labelled.distinct
  own := devices ▸ labelled.own

theorem Labelled.perform (labelled : Labelled store) (call : Call) :
    Labelled (perform call store).2 := by
  by_cases accepted : call.Accepted
  · cases call with
    | saveKey id key now =>
        rw [KeyStore.perform, store.saveKey_accepted now accepted.1 accepted.2]
        exact labelled.put (labelled.entry id now)
    | saveSecret id secret now =>
        rw [KeyStore.perform, store.saveSecret_exact now accepted.1 accepted.2]
        exact labelled.put (labelled.entry id now)
    | remove id =>
        exact { distinct := Table.erase_distinct id labelled.distinct
                own := fun entry member => labelled.own entry (Table.mem_erase member) }
    | takeId entropy => exact labelled.same (store.devices_takeId entropy)
    | rotateId => exact labelled.same rfl
  · obtain ⟨error, refused⟩ := store.perform_refused accepted
    rw [refused]
    exact labelled

end Labels

theorem performAll_snoc (calls : List Call) (call : Call) (store : KeyStore) :
    performAll (calls ++ [call]) store = (perform call (performAll calls store)).2 := by
  simp only [performAll, List.foldl_append, List.foldl_cons, List.foldl_nil]

theorem labelled_performAll (calls : List Call) : Labelled (performAll calls {}) := by
  induction calls using List.reverseRecOn with
  | nil => exact ⟨List.nodup_nil, fun _ member => absurd member List.not_mem_nil⟩
  | append_singleton calls call ih =>
      rw [performAll_snoc]
      exact ih.perform call

/-- The entry of a device is what the accepted saves since its last removal come to. -/
theorem device_performAll (calls : List Call) (id : String) :
    (performAll calls {}).device? id = recorded? id (saves id calls) := by
  induction calls using List.reverseRecOn with
  | nil => rfl
  | append_singleton calls call ih =>
      rw [performAll_snoc]
      by_cases accepted : call.Accepted
      · rw [((performAll calls {}).perform_accepted accepted).2, saves_accepted id calls accepted]
        cases call.removes id with
        | true => rfl
        | false =>
            cases call.brings? id with
            | none => exact ih
            | some save =>
                have recorded := recorded_cons id save (saves id calls)
                rw [← ih] at recorded
                exact recorded.symm
      · obtain ⟨error, refused⟩ := (performAll calls {}).perform_refused accepted
        rw [refused, saves_refused id calls accepted]
        exact ih

-- Nothing was saved for a device that has no entry.
theorem saves_of_absent {id : String} {calls : List Call}
    (absent : (performAll calls {}).device? id = none) : saves id calls = [] := by
  rw [device_performAll, recorded?, Option.map_eq_none_iff] at absent
  exact List.getLast?_eq_none_iff.mp absent

section Readings

variable (calls : List Call) (id : String)

-- The texts of an entry spell the last key and the last secret.
theorem texts_performAll :
    ((performAll calls {}).device? id).bind PairedDevice.key =
        (lastKey? id calls).map Hex.encode ∧
      ((performAll calls {}).device? id).bind PairedDevice.secret =
        (lastSecret? id calls).map Hex.encode := by
  cases found : (performAll calls {}).device? id with
  | none =>
      rw [lastKey?, lastSecret?, saves_of_absent found]
      exact ⟨rfl, rfl⟩
  | some device =>
      rw [device_performAll, recorded?, Option.map_eq_some_iff] at found
      obtain ⟨first, -, rfl⟩ := found
      exact ⟨rfl, rfl⟩

theorem key_performAll :
    ((performAll calls {}).key? id).map Key.bytes = lastKey? id calls := by
  have read : (performAll calls {}).key? id =
      (((performAll calls {}).device? id).bind PairedDevice.key).bind fun text =>
        (Hex.decode? text).bind fun bytes => (Key.ofBytes bytes).toOption := by
    rw [Option.bind_assoc]
    rfl
  rw [read, (texts_performAll calls id).1]
  cases last : lastKey? id calls with
  | none => rfl
  | some bytes =>
      simp only [Option.map_some, Option.bind_some, Hex.decode_encode, Key.ofBytes,
        dif_pos (length_lastKey last)]
      rfl

theorem secret_performAll : (performAll calls {}).secret? id = lastSecret? id calls := by
  have read : (performAll calls {}).secret? id =
      (((performAll calls {}).device? id).bind PairedDevice.secret).bind Hex.decode? := by
    rw [Option.bind_assoc]
    rfl
  rw [read, (texts_performAll calls id).2]
  cases lastSecret? id calls with
  | none => rfl
  | some secret => exact Hex.decode_encode secret

theorem firstPaired_performAll :
    ((performAll calls {}).device? id).map PairedDevice.firstPaired = created? id calls := by
  rw [device_performAll, recorded?, Option.map_map]
  rfl

theorem lastConnected_performAll :
    ((performAll calls {}).device? id).map PairedDevice.lastConnected = connected? id calls := by
  rw [device_performAll, recorded?, Option.map_map, connected?, created?]
  cases ended : (saves id calls).getLast? with
  | none =>
      rw [List.getLast?_eq_none_iff.mp ended]
      rfl
  | some first => cases (saves id calls).findSome? Save.connected? <;> rfl

end Readings

-- What a call does, it does to the one device that it names.
theorem perform_apart (store : KeyStore) {call : Call} {id : String} (apart : ¬call.About id) :
    (perform call store).2.device? id = store.device? id := by
  by_cases accepted : call.Accepted
  · have idle : call.removes id = false ∧ call.brings? id = none := by
      cases call with
      | saveKey other => exact ⟨rfl, if_neg apart⟩
      | saveSecret other => exact ⟨rfl, if_neg apart⟩
      | remove other => exact ⟨decide_eq_false apart, rfl⟩
      | takeId => exact ⟨rfl, rfl⟩
      | rotateId => exact ⟨rfl, rfl⟩
    rw [(store.perform_accepted accepted).2, idle.1, idle.2]
    rfl
  · obtain ⟨error, refused⟩ := store.perform_refused accepted
    rw [refused]

theorem perform_ok_iff (store : KeyStore) (call : Call) :
    (perform call store).1 = .ok () ↔ call.Accepted := by
  constructor
  · intro done
    apply Classical.byContradiction
    intro unaccepted
    obtain ⟨error, refused⟩ := store.perform_refused unaccepted
    rw [refused] at done
    cases done
  · intro accepted
    exact (store.perform_accepted accepted).1

theorem perform_error (store : KeyStore) {call : Call} {error : StoreError}
    (failed : (perform call store).1 = .error error) : (perform call store).2 = store := by
  have unaccepted : ¬call.Accepted := by
    intro accepted
    rw [(store.perform_accepted accepted).1] at failed
    cases failed
  obtain ⟨error, refused⟩ := store.perform_refused unaccepted
  rw [refused]

/-- After any calls on an empty store: a device has the key and the secret of the
last accepted saves since it was last removed, was first paired at the first of
these and last connected at the last key among them, or when it was first paired;
a call is refused and changes nothing, or changes no device but its own; an entry
is about the device it is kept under; and the listing has every device of the store
once, in strictly ascending order of first pairing and id, however the entries lie. -/
theorem remembers_history (calls : List Call) :
    let store := performAll calls {}
    (∀ id, (store.key? id).map Key.bytes = lastKey? id calls ∧
      store.secret? id = lastSecret? id calls ∧
      (store.device? id).map PairedDevice.firstPaired = created? id calls ∧
      (store.device? id).map PairedDevice.lastConnected = connected? id calls) ∧
    (∀ call, ((perform call store).1 = .ok () ↔ call.Accepted) ∧
      (∀ error, (perform call store).1 = .error error → (perform call store).2 = store) ∧
      ∀ id, ¬call.About id → (perform call store).2.device? id = store.device? id) ∧
    (∀ id device, (id, device) ∈ store.devices → device.id = id) ∧
    store.paired.Pairwise PairedDevice.Precedes ∧ (store.paired.map PairedDevice.id).Nodup ∧
    (∀ device, device ∈ store.paired ↔ store.device? device.id = some device) ∧
    ∀ order, order.Perm store.devices →
      KeyStore.paired { store with devices := order } = store.paired := by
  intro store
  have labelled : Labelled store := labelled_performAll calls
  refine ⟨fun id => ⟨key_performAll calls id, secret_performAll calls id,
    firstPaired_performAll calls id, lastConnected_performAll calls id⟩, ?calls,
    fun id device member => labelled.own (id, device) member, labelled.paired_ascending,
    labelled.ids_nodup, labelled.mem_paired, ?orders⟩
  case calls =>
    intro call
    exact ⟨store.perform_ok_iff call, fun error failed => store.perform_error failed,
      fun id apart => store.perform_apart apart⟩
  case orders =>
    intro order same
    exact labelled.paired_reordered ⟨rfl, same⟩

-- The key went with the removal, and the new one is too short to count.
example :
    let calls : List Call := [.saveKey "d" (List.replicate 32 7) 1, .remove "d",
      .saveSecret "d" [8] 3, .saveKey "d" [9] 4]
    lastKey? "d" calls = none ∧ lastSecret? "d" calls = some [8] ∧
      created? "d" calls = some 3 ∧ connected? "d" calls = some 3 := by
  decide

end KeyStore

end CarPairing
