import CarPairing.Proofs.Store.Reloading

/-!
The listing of a store: older pairings first, and of one time in the order of the
ids. With every entry under its own id no two of them compare the same, so the
order in which a map gives its entries out is not seen in the listing.
-/

namespace CarPairing

namespace PairedDevice

/-- Strictly before the other in a listing. -/
def Precedes (one other : PairedDevice) : Prop :=
  one.firstPaired < other.firstPaired ∨ one.firstPaired = other.firstPaired ∧ one.id < other.id

theorem before_iff (one other : PairedDevice) :
    before one other = true ↔ one.firstPaired < other.firstPaired ∨
      one.firstPaired = other.firstPaired ∧ one.id ≤ other.id := by
  simp [before]

theorem before_trans (one two three : PairedDevice) (first : before one two = true)
    (second : before two three = true) : before one three = true := by
  rw [before_iff] at first second ⊢
  rcases first with earlier | ⟨same, ids⟩
  · left
    omega
  · rcases second with later | ⟨same', ids'⟩
    · left
      omega
    · exact .inr ⟨same.trans same', String.le_trans ids ids'⟩

theorem before_total (one other : PairedDevice) :
    (before one other || before other one) = true := by
  rw [Bool.or_eq_true, before_iff, before_iff]
  rcases Int.lt_trichotomy one.firstPaired other.firstPaired with earlier | same | later
  · exact .inl (.inl earlier)
  · rcases String.le_total one.id other.id with up | down
    · exact .inl (.inr ⟨same, up⟩)
    · exact .inr (.inr ⟨same.symm, down⟩)
  · exact .inr (.inl later)

theorem precedes_of_before {one other : PairedDevice} (ordered : before one other = true)
    (different : one.id ≠ other.id) : Precedes one other := by
  rcases (before_iff one other).mp ordered with earlier | ⟨same, ids⟩
  · exact .inl earlier
  · refine .inr ⟨same, ?_⟩
    apply Classical.byContradiction
    intro unordered
    exact different (String.le_antisymm ids (String.not_lt.mp unordered))

end PairedDevice

open PairedDevice

namespace KeyStore

/-- One entry for an id, and it is about the device of that id. -/
structure Labelled (store : KeyStore) : Prop where
  distinct : (store.devices.map Prod.fst).Nodup
  own : ∀ entry ∈ store.devices, entry.2.id = entry.1

theorem paired_perm (store : KeyStore) : store.paired.Perm (store.devices.map Prod.snd) :=
  List.mergeSort_perm _ _

theorem Labelled.mem_paired {store : KeyStore} (labelled : Labelled store)
    (device : PairedDevice) :
    device ∈ store.paired ↔ store.device? device.id = some device := by
  rw [store.paired_perm.mem_iff, device?, Table.find_eq_some_iff labelled.distinct, List.mem_map]
  constructor
  · rintro ⟨entry, member, rfl⟩
    rw [labelled.own entry member]
    exact member
  · intro member
    exact ⟨_, member, rfl⟩

theorem Labelled.ids_nodup {store : KeyStore} (labelled : Labelled store) :
    (store.paired.map PairedDevice.id).Nodup := by
  rw [(store.paired_perm.map PairedDevice.id).nodup_iff, List.map_map]
  have ids : store.devices.map (PairedDevice.id ∘ Prod.snd) = store.devices.map Prod.fst :=
    List.map_congr_left labelled.own
  rw [ids]
  exact labelled.distinct

/-- Of two devices in the listing the first is older, or as old and of the smaller id. -/
theorem Labelled.paired_ascending {store : KeyStore} (labelled : Labelled store) :
    store.paired.Pairwise Precedes := by
  have ordered : store.paired.Pairwise fun one other => before one other = true :=
    List.pairwise_mergeSort before_trans before_total _
  have different : store.paired.Pairwise fun one other => one.id ≠ other.id :=
    List.pairwise_map.mp labelled.ids_nodup
  exact (ordered.and different).imp fun both => precedes_of_before both.1 both.2

theorem Labelled.reordered {one other : KeyStore} (labelled : Labelled other)
    (reordered : Reordered one other) : Labelled one where
  distinct := (reordered.devices.map Prod.fst).nodup_iff.mpr labelled.distinct
  own entry member := labelled.own entry (reordered.devices.mem_iff.mp member)

theorem not_precedes_both {one other : PairedDevice} (forth : Precedes one other)
    (back : Precedes other one) : one = other := by
  exfalso
  rcases forth with earlier | ⟨same, ids⟩
  · rcases back with later | ⟨same', ids'⟩ <;> omega
  · rcases back with later | ⟨same', ids'⟩
    · omega
    · exact String.lt_asymm ids ids'

-- Two ascending lists of the same devices are the same list.
theorem Labelled.paired_reordered {one other : KeyStore} (labelled : Labelled other)
    (reordered : Reordered one other) : one.paired = other.paired := by
  apply List.Perm.eq_of_pairwise (fun _ _ _ _ => not_precedes_both)
    (labelled.reordered reordered).paired_ascending labelled.paired_ascending
  exact (one.paired_perm.trans (reordered.devices.map Prod.snd)).trans other.paired_perm.symm

end KeyStore

end CarPairing
