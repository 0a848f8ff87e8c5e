/-!
Finite maps from text, as lists of entries in the order in which the keys first
came. Writing a key that is there keeps its place.
-/

namespace CarPairing.Table

variable {α : Type}

def find? (key : String) : List (String × α) → Option α
  | [] => none
  | (name, value) :: rest => if name = key then some value else find? key rest

def insert (key : String) (value : α) : List (String × α) → List (String × α)
  | [] => [(key, value)]
  | (name, old) :: rest =>
      if name = key then (key, value) :: rest else (name, old) :: insert key value rest

def erase (key : String) : List (String × α) → List (String × α)
  | [] => []
  | (name, value) :: rest =>
      if name = key then erase key rest else (name, value) :: erase key rest

/-- The table of a sequence of writes: of two with one key the later counts. -/
def ofWrites (writes : List (String × α)) : List (String × α) :=
  writes.foldl (fun table (key, value) => insert key value table) []

theorem find_insert (key other : String) (value : α) (table : List (String × α)) :
    find? other (insert key value table) =
      if other = key then some value else find? other table := by
  induction table with
  | nil => simp [insert, find?, eq_comm]
  | cons entry rest ih =>
      obtain ⟨name, old⟩ := entry
      by_cases same : name = key
      · subst same
        by_cases hit : name = other
        · simp [insert, find?, hit]
        · simp [insert, find?, hit, Ne.symm hit]
      · by_cases hit : name = other
        · subst hit
          simp [insert, find?, same]
        · simp [insert, find?, same, hit, ih]

theorem find_erase (key other : String) (table : List (String × α)) :
    find? other (erase key table) = if other = key then none else find? other table := by
  induction table with
  | nil => simp [erase, find?]
  | cons entry rest ih =>
      obtain ⟨name, old⟩ := entry
      by_cases same : name = key
      · subst same
        by_cases hit : name = other
        · subst hit
          simpa [erase] using ih
        · simp [erase, find?, ih, hit, Ne.symm hit]
      · by_cases hit : name = other
        · subst hit
          simp [erase, find?, same]
        · simp [erase, find?, same, hit, ih]

end CarPairing.Table
