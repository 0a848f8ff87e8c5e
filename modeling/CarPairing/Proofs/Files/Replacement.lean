import CarPairing.Files.Tree

/-!
What a file holds after it is replaced. In the file tree it has the contents
that were asked for, and so it has on a disk that refuses some replacements and
makes the others as the disk it is built on.
-/

namespace CarPairing

namespace Disk

variable {δ : Type} [Disk δ]

/-- The file is what it was. -/
structure Kept (path : String) (before after : δ) : Prop where
  present : Disk.present after path = Disk.present before path
  read : Disk.read after path = Disk.read before path

theorem Kept.refl (path : String) (disk : δ) : Kept path disk disk := ⟨rfl, rfl⟩

/-- The file has these contents. -/
structure Holds (path : String) (contents : Bytes) (disk : δ) : Prop where
  present : Disk.present disk path = true
  read : Disk.read disk path = .ok contents

/-- A file that was replaced without an error has the contents asked for. Of a
replacement that failed nothing is said: the file may be as it was, or have the
new contents, or a part of them. -/
def Lasting (δ : Type) [Disk δ] (path : String) : Prop :=
  ∀ (disk after : δ) (contents : Bytes),
    Disk.replace disk path contents = (.ok (), after) → Holds path contents after

/-- The file can be given these contents, one after the other. -/
def Takes (path : String) : List Bytes → δ → Prop
  | [], _ => True
  | contents :: rest, disk =>
      (Disk.replace disk path contents).1 = .ok () ∧
        Takes path rest (Disk.replace disk path contents).2

/-- The file can be written, whatever is written to it and however often. -/
def Writable (path : String) (disk : δ) : Prop :=
  ∀ writes, Takes path writes disk

theorem Writable.replaced {path : String} {disk : δ} (writable : Writable path disk)
    (contents : Bytes) : (Disk.replace disk path contents).1 = .ok () :=
  (writable [contents]).1

theorem Writable.later {path : String} {disk : δ} (writable : Writable path disk)
    (contents : Bytes) : Writable path (Disk.replace disk path contents).2 :=
  fun writes => (writable (contents :: writes)).2

end Disk

namespace Tree

variable {tree : Tree} {place : Place}

theorem node_put_eq (node : Node) (other : Place) :
    (tree.put place node).node? other =
      if other ≠ [] ∧ canonical other = canonical place then some node else tree.node? other := by
  by_cases root : other = []
  · simp [node?, root]
  · simp [node?, root, put, Table.find_insert]

theorem node_put (tree : Tree) (place : Place) (node : Node) (below : place ≠ []) :
    (tree.put place node).node? place = some node := by
  rw [node_put_eq, if_pos ⟨below, rfl⟩]

theorem directory_put (node : Node) {other : Place} (file : tree.node? place ≠ some .directory)
    (there : tree.node? other = some .directory) :
    (tree.put place node).node? other = some .directory := by
  have apart : ¬(other ≠ [] ∧ canonical other = canonical place) := by
    rintro ⟨below, same⟩
    by_cases root : place = []
    · exact file (by simp [node?, root])
    · simp only [node?, below, root, if_false, same] at there file
      exact file there
  rw [node_put_eq, if_neg apart, there]

/-- Only directories are gone through, so a way is still there after a file is
put where there was no directory. -/
theorem enter_put (node : Node) {other next : Place} {name : String}
    (file : tree.node? place ≠ some .directory) (entered : tree.enter other name = .ok next) :
    (tree.put place node).enter other name = .ok next := by
  cases there : tree.node? other with
  | none => simp [enter, there] at entered
  | some found =>
      cases found with
      | file mode contents => simp [enter, there] at entered
      | directory =>
          simp only [enter, there] at entered
          simp only [enter, directory_put node file there, entered]

theorem walk_put (node : Node) {other goal : Place} {names : List String}
    (file : tree.node? place ≠ some .directory) (walked : tree.walk other names = .ok goal) :
    (tree.put place node).walk other names = .ok goal := by
  induction names generalizing other with
  | nil => exact walked
  | cons name rest ih =>
      cases entered : tree.enter other name with
      | error error => simp [walk, entered] at walked
      | ok next =>
          simp only [walk, entered] at walked
          simp only [walk, enter_put node file entered, ih walked]

theorem locate_put (node : Node) {path : String} (file : tree.node? place ≠ some .directory)
    (located : tree.locate path = .ok place) :
    (tree.put place node).locate path = .ok place := by
  have unmoved : (tree.put place node).start path = tree.start path := rfl
  cases started : tree.start path with
  | error error => simp [locate, started] at located
  | ok origin =>
      simp only [locate, started] at located
      simp only [locate, unmoved, started, walk_put node file located]

theorem node_put_same (node : Node) (file : tree.node? place ≠ some .directory) :
    (tree.put place node).node? place = some node := by
  have below : place ≠ [] := by
    rintro rfl
    exact file (by simp [node?])
  exact node_put tree place node below

/-- A path leads to a file with these contents. -/
def Stands (path : String) (contents : Bytes) (tree : Tree) : Prop :=
  ∃ place mode, tree.locate path = .ok place ∧ tree.node? place = some (.file mode contents)

theorem Stands.holds {path : String} {contents : Bytes} (stands : Stands path contents tree) :
    Disk.Holds path contents tree := by
  obtain ⟨place, mode, located, found⟩ := stands
  constructor
  · simp [Disk.present, present, lookup, located, found]
  · simp [Disk.read, read, lookup, located, found]

theorem stands_put {path : String} (mode : Nat) (contents : Bytes)
    (file : tree.node? place ≠ some .directory) (located : tree.locate path = .ok place) :
    Stands path contents (tree.put place (.file mode contents)) :=
  ⟨place, mode, locate_put _ file located, node_put_same _ file⟩

theorem stands_write {path : String} {contents : Bytes} {after : Tree}
    (written : tree.write path contents = .ok after) : Stands path contents after := by
  unfold write at written
  split at written
  · cases written
  · cases located : tree.locate path with
    | error error => simp [located] at written
    | ok place =>
        simp only [located] at written
        split at written
        · cases written
        · rename_i mode old found
          cases written
          exact stands_put mode contents (by simp [found]) located
        · rename_i missing
          cases written
          exact stands_put newFileMode contents (by simp [missing]) located

theorem stands_setMode {path : String} {contents : Bytes} {mode : Nat} {after : Tree}
    (stands : Stands path contents tree) (changed : tree.setMode path mode = .ok after) :
    Stands path contents after := by
  obtain ⟨place, old, located, found⟩ := stands
  simp only [setMode, located, found, Except.ok.injEq] at changed
  exact changed ▸ stands_put mode contents (by simp [found]) located

theorem lasting (path : String) : Disk.Lasting Tree path := by
  intro tree after contents replaced
  change tree.replace path contents = (.ok (), after) at replaced
  unfold replace at replaced
  split at replaced
  · cases replaced
  · rename_i made ready
    cases written : made.write path contents with
    | error error => simp [written] at replaced
    | ok middle =>
        simp only [written] at replaced
        cases changed : middle.setMode path ownerOnlyMode with
        | error error => simp [changed] at replaced
        | ok last =>
            simp only [changed, Prod.mk.injEq, true_and] at replaced
            exact replaced ▸ (stands_setMode (stands_write written) changed).holds

end Tree

/-- A disk on which chosen replacements are refused, by their number from 0. A
refused replacement changes nothing. -/
structure RefusingDisk (δ : Type) where
  disk : δ
  refused : List Nat := []
  asked : Nat := 0

namespace RefusingDisk

variable {δ : Type} [Disk δ]

instance : Disk (RefusingDisk δ) where
  present disk path := Disk.present disk.disk path
  read disk path := Disk.read disk.disk path
  makeDirectories disk path :=
    let (outcome, after) := Disk.makeDirectories disk.disk path
    (outcome, { disk with disk := after })
  replace disk path contents :=
    let counted := { disk with asked := disk.asked + 1 }
    if disk.asked ∈ disk.refused then (.error (.other "refused"), counted)
    else
      let (outcome, after) := Disk.replace disk.disk path contents
      (outcome, { counted with disk := after })

theorem lasting {path : String} (lasts : Disk.Lasting δ path) :
    Disk.Lasting (RefusingDisk δ) path := by
  intro disk after contents replaced
  by_cases refused : disk.asked ∈ disk.refused
  · simp [Disk.replace, refused] at replaced
  · simp only [Disk.replace, refused, if_false, Prod.mk.injEq] at replaced
    obtain ⟨outcome, rfl⟩ := replaced
    have holds := lasts disk.disk _ contents (Prod.ext outcome rfl)
    exact ⟨holds.present, holds.read⟩

end RefusingDisk

end CarPairing
