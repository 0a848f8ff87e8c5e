import CarPairing.Table

/-!
Tables with one entry for a key. Writing and erasing keep them so, a sequence of
writes makes one, and of entries under different keys it makes just these.
-/

namespace CarPairing.Table

variable {α : Type}

theorem insert_absent (key : String) (value : α) (table : List (String × α))
    (absent : key ∉ table.map Prod.fst) : insert key value table = table ++ [(key, value)] := by
  induction table with
  | nil => rfl
  | cons entry rest ih =>
      obtain ⟨name, old⟩ := entry
      simp only [List.map_cons, List.mem_cons, not_or] at absent
      obtain ⟨different, others⟩ := absent
      simp [insert, Ne.symm different, ih others]

theorem mem_insert {key : String} {value : α} {table : List (String × α)} {entry : String × α}
    (member : entry ∈ insert key value table) : entry = (key, value) ∨ entry ∈ table := by
  induction table with
  | nil => simpa [insert] using member
  | cons first rest ih =>
      obtain ⟨name, old⟩ := first
      by_cases same : name = key
      · simp [insert, same] at member
        rcases member with fresh | kept
        · exact Or.inl fresh
        · exact Or.inr (List.mem_cons_of_mem _ kept)
      · simp [insert, same] at member
        rcases member with rfl | later
        · exact Or.inr List.mem_cons_self
        · rcases ih later with fresh | kept
          · exact Or.inl fresh
          · exact Or.inr (List.mem_cons_of_mem _ kept)

theorem insert_distinct {table : List (String × α)} (key : String) (value : α)
    (distinct : (table.map Prod.fst).Nodup) : ((insert key value table).map Prod.fst).Nodup := by
  induction table with
  | nil => simp [insert]
  | cons first rest ih =>
      obtain ⟨name, old⟩ := first
      simp only [List.map_cons, List.nodup_cons] at distinct
      by_cases same : name = key
      · subst same
        simpa [insert] using distinct
      · have absent : name ∉ (insert key value rest).map Prod.fst := by
          intro present
          obtain ⟨entry, member, named⟩ := List.mem_map.mp present
          rcases mem_insert member with rfl | kept
          · exact same named.symm
          · exact distinct.1 (List.mem_map.mpr ⟨entry, kept, named⟩)
        simp only [insert, if_neg same, List.map_cons, List.nodup_cons]
        exact ⟨absent, ih distinct.2⟩

theorem mem_erase {key : String} {table : List (String × α)} {entry : String × α}
    (member : entry ∈ erase key table) : entry ∈ table := by
  induction table with
  | nil => exact member
  | cons first rest ih =>
      by_cases same : first.1 = key
      · simp [erase, same] at member
        exact List.mem_cons_of_mem _ (ih member)
      · simp [erase, same] at member
        rcases member with rfl | later
        · exact List.mem_cons_self
        · exact List.mem_cons_of_mem _ (ih later)

theorem erase_distinct {table : List (String × α)} (key : String)
    (distinct : (table.map Prod.fst).Nodup) : ((erase key table).map Prod.fst).Nodup := by
  induction table with
  | nil => exact distinct
  | cons first rest ih =>
      simp only [List.map_cons, List.nodup_cons] at distinct
      by_cases same : first.1 = key
      · simpa [erase, same] using ih distinct.2
      · have absent : first.1 ∉ (erase key rest).map Prod.fst := by
          intro present
          obtain ⟨entry, member, named⟩ := List.mem_map.mp present
          exact distinct.1 (List.mem_map.mpr ⟨entry, mem_erase member, named⟩)
        simp only [erase, if_neg same, List.map_cons, List.nodup_cons]
        exact ⟨absent, ih distinct.2⟩

theorem erase_absent {key : String} {table : List (String × α)}
    (absent : find? key table = none) : erase key table = table := by
  induction table with
  | nil => rfl
  | cons first rest ih =>
      obtain ⟨name, old⟩ := first
      by_cases same : name = key
      · simp [find?, same] at absent
      · simp only [find?, if_neg same] at absent
        simp only [erase, if_neg same, ih absent]

-- What is kept under an id is one of the entries.
theorem mem_of_find {key : String} {value : α} {table : List (String × α)}
    (found : find? key table = some value) : (key, value) ∈ table := by
  induction table with
  | nil => cases found
  | cons first rest ih =>
      obtain ⟨name, old⟩ := first
      by_cases same : name = key
      · simp [find?, same] at found
        simp [same, found]
      · simp [find?, same] at found
        exact List.mem_cons_of_mem _ (ih found)

theorem find_of_mem {table : List (String × α)} {key : String} {value : α}
    (distinct : (table.map Prod.fst).Nodup) (member : (key, value) ∈ table) :
    find? key table = some value := by
  induction table with
  | nil => exact absurd member List.not_mem_nil
  | cons first rest ih =>
      obtain ⟨name, old⟩ := first
      simp only [List.map_cons, List.nodup_cons] at distinct
      rcases List.mem_cons.mp member with same | later
      · cases same
        exact if_pos rfl
      · have different : name ≠ key := by
          rintro rfl
          exact distinct.1 (List.mem_map.mpr ⟨_, later, rfl⟩)
        rw [find?, if_neg different]
        exact ih distinct.2 later

theorem find_eq_none_iff {key : String} {table : List (String × α)} :
    find? key table = none ↔ key ∉ table.map Prod.fst := by
  induction table with
  | nil => simp [find?]
  | cons first rest ih =>
      by_cases same : first.1 = key
      · simp [find?, same]
      · simp only [find?, if_neg same, ih, List.map_cons, List.mem_cons, not_or]
        exact (and_iff_right (Ne.symm same)).symm

-- Writing what is there already.
theorem insert_found {key : String} {value : α} {table : List (String × α)}
    (found : find? key table = some value) : insert key value table = table := by
  induction table with
  | nil => cases found
  | cons first rest ih =>
      obtain ⟨name, old⟩ := first
      by_cases same : name = key
      · subst same
        simp only [find?, if_true, Option.some.injEq] at found
        subst found
        exact if_pos rfl
      · simp only [find?, if_neg same] at found
        simp only [insert, if_neg same, ih found]

theorem find_eq_some_iff {table : List (String × α)} (distinct : (table.map Prod.fst).Nodup)
    (key : String) (value : α) : find? key table = some value ↔ (key, value) ∈ table :=
  ⟨mem_of_find, find_of_mem distinct⟩

-- The order of the entries is not seen by who asks for keys.
theorem find_perm {table other : List (String × α)} (distinct : (table.map Prod.fst).Nodup)
    (order : other.Perm table) (key : String) : find? key other = find? key table := by
  have distinct' : (other.map Prod.fst).Nodup := (order.map Prod.fst).nodup_iff.mpr distinct
  apply Option.ext
  intro value
  rw [find_eq_some_iff distinct', find_eq_some_iff distinct, order.mem_iff]

/-- A table made by writes has one entry for a key, and each is one that was written. -/
theorem ofWrites_table (writes : List (String × α)) :
    ((ofWrites writes).map Prod.fst).Nodup ∧ ∀ entry ∈ ofWrites writes, entry ∈ writes := by
  have made (table : List (String × α)) (distinct : (table.map Prod.fst).Nodup) :
      ((writes.foldl (fun table write => insert write.1 write.2 table) table).map Prod.fst).Nodup ∧
        ∀ entry ∈ writes.foldl (fun table write => insert write.1 write.2 table) table,
          entry ∈ table ∨ entry ∈ writes := by
    induction writes generalizing table with
    | nil => exact ⟨distinct, fun _ member => Or.inl member⟩
    | cons write rest ih =>
        obtain ⟨nodup, origin⟩ := ih (insert write.1 write.2 table)
          (insert_distinct write.1 write.2 distinct)
        refine ⟨nodup, ?_⟩
        intro entry member
        rcases origin entry member with early | late
        · rcases mem_insert early with rfl | old
          · exact Or.inr List.mem_cons_self
          · exact Or.inl old
        · exact Or.inr (List.mem_cons_of_mem _ late)
  obtain ⟨nodup, origin⟩ := made [] List.nodup_nil
  exact ⟨nodup, fun entry member => (origin entry member).resolve_left List.not_mem_nil⟩

-- Writes under different keys are the table that they make.
theorem ofWrites_distinct (writes : List (String × α)) (distinct : (writes.map Prod.fst).Nodup) :
    ofWrites writes = writes := by
  have added (table : List (String × α)) (fresh : ((table ++ writes).map Prod.fst).Nodup) :
      writes.foldl (fun table write => insert write.1 write.2 table) table = table ++ writes := by
    clear distinct
    induction writes generalizing table with
    | nil => simp
    | cons write rest ih =>
        obtain ⟨key, value⟩ := write
        have absent : key ∉ table.map Prod.fst := by
          intro present
          rw [List.map_append, List.nodup_append] at fresh
          exact fresh.2.2 key present key (by simp) rfl
        have later := ih (table ++ [(key, value)]) (by simpa using fresh)
        simpa [insert_absent key value table absent] using later
  exact added [] distinct

end CarPairing.Table
