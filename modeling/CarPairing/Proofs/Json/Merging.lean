import CarPairing.Json.Value
import CarPairing.Proofs.Table

/-!
Values merged over each other. In every value that is read from a text an object
has one member for a key; with such a value on top, each member of two objects
that are merged is told by the members of that key alone, as deep as both sides
are objects, and to merge the same value again changes nothing.
-/

namespace CarPairing.Json

namespace Value

/-- Every object of the value has one member for a key. -/
inductive Distinct : Value → Prop where
  | null : Distinct .null
  | bool (value : Bool) : Distinct (.bool value)
  | number (number : Number) : Distinct (.number number)
  | string (text : String) : Distinct (.string text)
  | array {items : List Value} (inner : ∀ item ∈ items, Distinct item) : Distinct (.array items)
  | object {members : List (String × Value)} (keys : (members.map Prod.fst).Nodup)
      (inner : ∀ member ∈ members, Distinct member.2) : Distinct (.object members)

end Value

namespace Document

-- The later of two members with one key has taken the place of the other.
theorem distinct_ofWrites {members : List (String × Value)}
    (inner : ∀ member ∈ members, member.2.Distinct) :
    (Value.object (Table.ofWrites members)).Distinct := by
  obtain ⟨keys, origin⟩ := Table.ofWrites_table members
  exact .object keys fun member there => inner member (origin member there)

mutual

theorem value_distinct : (document : Document) → ∀ {room : Nat} {value : Value},
    document.value? room = some value → value.Distinct
  | .null, room, value, read => by
      cases read
      exact .null
  | .bool flag, room, value, read => by
      cases read
      exact .bool flag
  | .number numeral, room, value, read => by
      obtain ⟨number, -, rfl⟩ := Option.map_eq_some_iff.mp read
      exact .number number
  | .text pieces, room, value, read => by
      obtain ⟨text, -, rfl⟩ := Option.map_eq_some_iff.mp read
      exact .string text
  | .array items, room, value, read => by
      cases room with
      | zero => cases read
      | succ room =>
          obtain ⟨values, found, rfl⟩ := Option.map_eq_some_iff.mp read
          exact .array (values_distinct items found)
  | .object members, room, value, read => by
      cases room with
      | zero => cases read
      | succ room =>
          obtain ⟨found, each, rfl⟩ := Option.map_eq_some_iff.mp read
          exact distinct_ofWrites (members_distinct members each)

theorem values_distinct : (items : List Document) → ∀ {room : Nat} {values : List Value},
    values? room items = some values → ∀ value ∈ values, value.Distinct
  | [], room, values, read => by
      cases read
      exact fun _ member => absurd member List.not_mem_nil
  | item :: rest, room, values, read => by
      unfold values? at read
      split at read
      next value others first later =>
        cases read
        exact List.forall_mem_cons.mpr ⟨value_distinct item first, values_distinct rest later⟩
      next => cases read

theorem members_distinct : (members : List (List Piece × Document)) →
    ∀ {room : Nat} {found : List (String × Value)},
    members? room members = some found → ∀ member ∈ found, member.2.Distinct
  | [], room, found, read => by
      cases read
      exact fun _ member => absurd member List.not_mem_nil
  | member :: rest, room, found, read => by
      unfold members? at read
      split at read
      next value others first later =>
        cases read
        exact List.forall_mem_cons.mpr ⟨member_distinct member first, members_distinct rest later⟩
      next => cases read

theorem member_distinct : (member : List Piece × Document) → ∀ {room : Nat}
    {found : String × Value}, member? room member = some found → found.2.Distinct
  | (key, document), room, found, read => by
      unfold member? at read
      split at read
      next name value _ inside =>
        cases read
        exact value_distinct document inside
      next => cases read

end

end Document

namespace Value

theorem distinct_of_text {text : String} {value : Value} (read : ofText? text = some value) :
    value.Distinct := by
  unfold ofText? at read
  split at read
  next document _ => exact document.value_distinct read
  next => cases read

theorem merge_null (overlay : Value) : merge .null overlay = overlay := by
  cases overlay <;> rfl

theorem merge_plain {overlay : Value} (plain : ∀ members, overlay ≠ .object members)
    (base : Value) : merge base overlay = overlay := by
  cases overlay with
  | object members => exact absurd rfl (plain members)
  | _ => rfl

theorem merge_object (base : Value) (overlay : List (String × Value)) :
    ∃ members, merge base (.object overlay) = .object members := by
  cases base <;> exact ⟨_, rfl⟩

-- What a member comes to is settled when the overlay comes to its key, which it does once.
theorem find_mergeMembers (members : List (String × Value)) {overlay : List (String × Value)}
    (keys : (overlay.map Prod.fst).Nodup) (key : String) :
    Table.find? key (mergeMembers members overlay) =
      match Table.find? key overlay with
      | none => Table.find? key members
      | some value => some (merge ((Table.find? key members).getD .null) value) := by
  induction overlay generalizing members with
  | nil => rfl
  | cons member rest ih =>
      obtain ⟨name, value⟩ := member
      simp only [List.map_cons, List.nodup_cons] at keys
      rw [mergeMembers, ih _ keys.2, mergeMember, Table.find_insert]
      by_cases same : key = name
      · subst same
        have absent : Table.find? key rest = none := Table.find_eq_none_iff.mpr keys.1
        simp [absent, Table.find?]
      · simp [same, Table.find?, Ne.symm same]

theorem member_object (members : List (String × Value)) (name : String) :
    (Value.object members).member? name = Table.find? name members :=
  rfl

/-- A member of an object over any value. -/
theorem member_merge (base : Value) {overlay : List (String × Value)}
    (keys : (overlay.map Prod.fst).Nodup) (name : String) :
    (merge base (.object overlay)).member? name =
      match Table.find? name overlay with
      | none => base.member? name
      | some value => some (merge ((base.member? name).getD .null) value) := by
  cases base with
  | object members => exact find_mergeMembers members keys name
  | _ =>
      change Table.find? name overlay = _
      cases Table.find? name overlay with
      | none => rfl
      | some value => exact congrArg some (merge_null value).symm

theorem Distinct.keys {members : List (String × Value)}
    (distinct : (Value.object members).Distinct) : (members.map Prod.fst).Nodup := by
  cases distinct with
  | object keys _ => exact keys

theorem Distinct.inner {members : List (String × Value)}
    (distinct : (Value.object members).Distinct) : ∀ member ∈ members, member.2.Distinct := by
  cases distinct with
  | object _ inner => exact inner

theorem Distinct.member {value inner : Value} (distinct : value.Distinct) {key : String}
    (there : value.member? key = some inner) : inner.Distinct := by
  cases value with
  | object members => exact distinct.inner _ (Table.mem_of_find there)
  | _ => cases there

section Keeping

-- Each write puts in the place of a member, or of none, what that member has become.
theorem distinct_mergeMembers {overlay : List (String × Value)}
    (each : ∀ member ∈ overlay, ∀ base : Value, base.Distinct → (merge base member.2).Distinct)
    {members : List (String × Value)} (below : (object members).Distinct) :
    (object (mergeMembers members overlay)).Distinct := by
  induction overlay generalizing members with
  | nil => exact below
  | cons member rest ih =>
      obtain ⟨key, value⟩ := member
      obtain ⟨first, later⟩ := List.forall_mem_cons.mp each
      have old : ((Table.find? key members).getD .null).Distinct := by
        cases found : Table.find? key members with
        | none => exact .null
        | some own => exact below.member found
      refine ih later (.object (Table.insert_distinct key _ below.keys) ?_)
      intro entry there
      rcases Table.mem_insert there with rfl | kept
      · exact first _ old
      · exact below.inner entry kept

theorem Distinct.merge {base overlay : Value} (below : base.Distinct)
    (distinct : overlay.Distinct) : (base.merge overlay).Distinct := by
  induction distinct generalizing base with
  | object keys inner ih =>
      cases base with
      | object members => exact distinct_mergeMembers (fun member there _ => ih member there) below
      | _ => exact .object keys inner
  | null => exact .null
  | bool value => exact .bool value
  | number number => exact .number number
  | string text => exact .string text
  | array inner => exact .array inner

end Keeping

section Repeating

-- Members whose keys are all new are merged into nulls, and stand at the end.
theorem mergeMembers_apart (members : List (String × Value)) {overlay : List (String × Value)}
    (apart : ((members ++ overlay).map Prod.fst).Nodup) :
    mergeMembers members overlay = members ++ overlay := by
  induction overlay generalizing members with
  | nil => exact (List.append_nil members).symm
  | cons member rest ih =>
      obtain ⟨key, value⟩ := member
      have absent : key ∉ members.map Prod.fst := by
        intro present
        rw [List.map_append, List.nodup_append] at apart
        exact apart.2.2 key present key List.mem_cons_self rfl
      have added : mergeMember members (key, value) = members ++ [(key, value)] := by
        rw [mergeMember, Table.find_eq_none_iff.mpr absent, Option.getD_none, merge_null,
          Table.insert_absent key value members absent]
      rw [mergeMembers, added, ih _ (by simpa using apart), List.append_assoc,
        List.singleton_append]

theorem merge_empty {overlay : Value} (distinct : overlay.Distinct) :
    merge (.object []) overlay = overlay := by
  cases overlay with
  | object members => exact congrArg object (mergeMembers_apart [] distinct.keys)
  | _ => rfl

-- Where every member has been merged in before, there is nothing left to do.
theorem mergeMembers_settled {members overlay : List (String × Value)}
    (settled : ∀ member ∈ overlay, ∃ own,
      Table.find? member.1 members = some own ∧ merge own member.2 = own) :
    mergeMembers members overlay = members := by
  induction overlay with
  | nil => rfl
  | cons member rest ih =>
      obtain ⟨key, value⟩ := member
      obtain ⟨⟨own, found, same⟩, later⟩ := List.forall_mem_cons.mp settled
      have unmoved : mergeMember members (key, value) = members := by
        rw [mergeMember, found, Option.getD_some, same, Table.insert_found found]
      rw [mergeMembers, unmoved, ih later]

/-- An overlay that is merged in a second time changes nothing. -/
theorem merge_again (base : Value) {overlay : Value} (distinct : overlay.Distinct) :
    merge (merge base overlay) overlay = merge base overlay := by
  induction distinct generalizing base with
  | @object others keys inner ih =>
      -- The first merge has left under each key a merge with what the overlay has there.
      obtain ⟨members, merged⟩ := merge_object base others
      have settled : ∀ member ∈ others, ∃ own,
          Table.find? member.1 members = some own ∧ merge own member.2 = own := by
        intro member there
        have told := member_merge base keys member.1
        rw [merged, member_object, Table.find_of_mem keys there] at told
        exact ⟨_, told, ih member there _⟩
      rw [merged]
      exact congrArg object (mergeMembers_settled settled)
  | _ => rfl

-- A value is what it comes to when it is merged into null.
theorem merge_self {value : Value} (distinct : value.Distinct) : merge value value = value := by
  have again := merge_again .null distinct
  rwa [merge_null] at again

end Repeating

section Paths

def isObject : Value → Bool
  | .object _ => true
  | _ => false

def keys : Value → List String
  | .object members => members.map Prod.fst
  | _ => []

/-- What stands at the end of a path of keys. -/
def descend? : List String → Value → Option Value
  | [], value => some value
  | key :: rest, value => (value.member? key).bind (descend? rest)

/-- An object with the keys of two. Under a key that only the base has, it has what the base
has; under a key of the overlay the merge of the two, if both are objects, and else what the
overlay has. -/
structure Combines (base overlay merged : Value) : Prop where
  keys (key : String) : key ∈ merged.keys ↔ key ∈ base.keys ∨ key ∈ overlay.keys
  kept {key : String} {value : Value} (own : base.member? key = some value)
    (alone : key ∉ overlay.keys) : merged.member? key = some value
  taken {key : String} {value : Value} (own : overlay.member? key = some value)
    (plain : value.isObject = false ∨
      ∀ old, base.member? key = some old → old.isObject = false) :
    merged.member? key = some value
  joined {key : String} {below above : List (String × Value)}
    (old : base.member? key = some (.object below))
    (new : overlay.member? key = some (.object above)) :
    merged.member? key = some ((Value.object below).merge (.object above))

theorem member_eq_none_iff {value : Value} {key : String} :
    value.member? key = none ↔ key ∉ value.keys := by
  cases value with
  | object members => exact Table.find_eq_none_iff
  | _ => exact iff_of_true rfl List.not_mem_nil

theorem mem_keys_iff {value : Value} {key : String} :
    key ∈ value.keys ↔ ∃ inner, value.member? key = some inner := by
  rw [← Option.ne_none_iff_exists', Ne, member_eq_none_iff, Decidable.not_not]

theorem merge_flat {base : Value} (flat : base.isObject = false) (overlay : Value) :
    merge base overlay = overlay := by
  cases base with
  | object members => cases flat
  | _ => cases overlay <;> rfl

theorem merge_onto_flat (base : Value) {overlay : Value} (flat : overlay.isObject = false) :
    merge base overlay = overlay := by
  apply merge_plain
  rintro members rfl
  cases flat

theorem combines_merge (base : Value) {overlay : List (String × Value)}
    (keys : (overlay.map Prod.fst).Nodup) :
    Combines base (.object overlay) (merge base (.object overlay)) where
  keys key := by
    simp only [mem_keys_iff, member_merge base keys, member_object]
    cases Table.find? key overlay <;> simp
  kept {key value} own alone := by
    rw [member_merge base keys, Table.find_eq_none_iff.mpr alone]
    exact own
  taken {key value} own plain := by
    rw [member_object] at own
    rw [member_merge base keys, own]
    refine congrArg some ?_
    rcases plain with flat | flat
    · exact merge_onto_flat _ flat
    · cases old : base.member? key with
      | none => exact merge_null value
      | some old' => exact merge_flat (flat old' old) value
  joined {key below above} old new := by
    rw [member_object] at new
    rw [member_merge base keys, new, old]
    rfl

theorem Distinct.descend {value inner : Value} {path : List String} (distinct : value.Distinct)
    (there : value.descend? path = some inner) : inner.Distinct := by
  induction path generalizing value with
  | nil =>
      cases there
      exact distinct
  | cons key rest ih =>
      obtain ⟨next, first, below⟩ := Option.bind_eq_some_iff.mp there
      exact ih (distinct.member first) below

/-- At the end of a path that leads through both, there is the merge of what they have there. -/
theorem descend_merge {base overlay below above : Value} {path : List String}
    (distinct : overlay.Distinct) (old : base.descend? path = some below)
    (new : overlay.descend? path = some above) :
    (base.merge overlay).descend? path = some (below.merge above) := by
  induction path generalizing base overlay with
  | nil =>
      cases old
      cases new
      rfl
  | cons key rest ih =>
      obtain ⟨lower, first, behind⟩ := Option.bind_eq_some_iff.mp old
      obtain ⟨upper, own, beyond⟩ := Option.bind_eq_some_iff.mp new
      cases overlay with
      | object members =>
          have step : (base.merge (.object members)).member? key = some (lower.merge upper) := by
            rw [member_object] at own
            rw [member_merge base distinct.keys, own, first]
            rfl
          rw [descend?, step]
          exact ih (distinct.member own) behind beyond
      | _ => cases own

end Paths

end Value

end CarPairing.Json
