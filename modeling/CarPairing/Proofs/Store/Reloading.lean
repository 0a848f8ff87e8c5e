import CarPairing.Proofs.Store.Format
import CarPairing.Proofs.Store.Keeping

/-!
A key store that is written to a file and read from it again. A map is written in
an order of its own; whichever that is, the store that is read has the same id and
the same entry for every key.
-/

namespace CarPairing

namespace KeyStore

/-- The same id and the same entries, in whatever order. -/
structure Reordered (one other : KeyStore) : Prop where
  uniqueId : one.uniqueId = other.uniqueId
  devices : one.devices.Perm other.devices

theorem Reordered.sound {one other : KeyStore} (reordered : Reordered one other)
    (sound : other.Sound) : one.Sound where
  distinct := (reordered.devices.map Prod.fst).nodup_iff.mpr sound.distinct
  dated entry member := sound.dated entry (reordered.devices.mem_iff.mp member)

-- Who asks for a device does not see the order.
theorem Reordered.device {one other : KeyStore} (reordered : Reordered one other)
    (distinct : (other.devices.map Prod.fst).Nodup) (id : String) :
    one.device? id = other.device? id :=
  Table.find_perm distinct reordered.devices id

section Disk

variable {δ : Type} [Disk δ] {path : String}

-- Nothing but the disk can keep a store from being saved.
theorem save_replaced {disk after : δ} (store : KeyStore)
    (taken : Disk.replace disk path (Utf8.encode store.toText) = (.ok (), after)) :
    store.save disk path = (.ok (), after) := by
  rw [save, taken]

/-- A store with one entry for a key and times of 64 bits, written in any order to
a disk that takes the text and gives back what it took, is read back with the same
id and, for every key, the same entry with every text in it. -/
theorem load_save_exact (lasting : Disk.Lasting δ path) (store written : KeyStore)
    (sound : store.Sound) (order : Reordered written store) (disk after : δ)
    (taken : Disk.replace disk path (Utf8.encode written.toText) = (.ok (), after)) :
    written.save disk path = (.ok (), after) ∧
      ∃ loaded, load after path = .ok loaded ∧ loaded.uniqueId = store.uniqueId ∧
        (∀ id, loaded.device? id = store.device? id) ∧ loaded.devices.Perm store.devices := by
  have holds := lasting disk after _ taken
  have loaded : load after path = .ok written :=
    load_text holds.present holds.read (written.ofText_toText (order.sound sound))
  exact ⟨save_replaced written taken, written, loaded, order.uniqueId,
    order.device sound.distinct, order.devices⟩

end Disk

/-- Texts with all that has to be escaped, one of them a key, and the first and the
last of all times. -/
def ragged : KeyStore where
  uniqueId := some Uuid.nil
  devices :=
    [("", { id := "\"\\/\t\x00", key := some "", secret := some "\x7f\u2028😀",
            firstPaired := -0x8000000000000000, lastConnected := 0x7fffffffffffffff }),
      ("\n\"", { id := "", firstPaired := 0, lastConnected := 0 })]

theorem sound_ragged : ragged.Sound where
  distinct := by decide
  dated := by
    intro entry member
    simp only [ragged, List.mem_cons, List.not_mem_nil, or_false] at member
    rcases member with rfl | rfl <;> constructor <;> simp [Json.Numeral.Fits]

theorem load_save_exact_ragged :
    let written : KeyStore := { ragged with devices := ragged.devices.reverse }
    ragged.Sound ∧ Reordered written ragged ∧
      ∃ after, Disk.replace ({} : Tree) "/k" (Utf8.encode written.toText) = (.ok (), after) ∧
        written.save ({} : Tree) "/k" = (.ok (), after) ∧
        ∃ loaded, load after "/k" = .ok loaded ∧ loaded.uniqueId = ragged.uniqueId ∧
          (∀ id, loaded.device? id = ragged.device? id) ∧
          loaded.devices.Perm ragged.devices := by
  intro written
  have order : Reordered written ragged := ⟨rfl, List.reverse_perm _⟩
  obtain ⟨after, taken, -⟩ :=
    Tree.replace_root ({} : Tree) (Utf8.encode written.toText) (by decide)
  exact ⟨sound_ragged, order, after, taken,
    load_save_exact (Tree.lasting "/k") ragged written sound_ragged order {} after taken⟩

end KeyStore

end CarPairing
