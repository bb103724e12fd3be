/-! # Maps with text keys

`TextMap` keeps its entries in ascending order of their keys, which for text is the order of code
points.

Main statements: a binding is found under its key (`find?_insert_self`) and leaves the others as they
are (`find?_insert_of_ne`).
-/

namespace Membrane

/-- A map from texts, with its entries in ascending order of keys when built by `insert`. -/
structure TextMap (α : Type) where
  entries : List (String × α)

namespace TextMap

variable {α : Type}

def empty : TextMap α := ⟨[]⟩

instance : EmptyCollection (TextMap α) := ⟨empty⟩

/-- The value at a key. -/
def find? (m : TextMap α) (key : String) : Option α := m.entries.lookup key

/-- Adds an entry at its place in the order, or replaces the one with the same key. -/
def insertEntry (key : String) (value : α) : List (String × α) → List (String × α)
  | [] => [(key, value)]
  | (k, v) :: rest =>
      if key = k then (key, value) :: rest
      else if key < k then (key, value) :: (k, v) :: rest
      else (k, v) :: insertEntry key value rest

/-- Binds a key to a value. -/
def insert (m : TextMap α) (key : String) (value : α) : TextMap α :=
  ⟨insertEntry key value m.entries⟩

/-- The map with the given entries; of two entries with one key the later counts. -/
def ofList (entries : List (String × α)) : TextMap α :=
  entries.foldl (fun m (key, value) => m.insert key value) empty

/-- An entry is found under its key, and the others are as before. -/
private theorem lookup_insertEntry (key other : String) (value : α) (entries : List (String × α)) :
    (insertEntry key value entries).lookup other =
      if other = key then some value else entries.lookup other := by
  induction entries with
  | nil =>
    by_cases h : other = key
    · simp [insertEntry, h]
    · have h' : (other == key) = false := beq_eq_false_iff_ne.mpr h
      simp [insertEntry, List.lookup_cons, h, h']
  | cons head rest ih =>
    obtain ⟨k, v⟩ := head
    unfold insertEntry
    split
    · next hk =>
      subst hk
      by_cases h : other = key
      · simp [h]
      · have h' : (other == key) = false := beq_eq_false_iff_ne.mpr h
        simp [List.lookup_cons, h, h']
    · next hk =>
      split
      · by_cases h : other = key
        · simp [h]
        · have h' : (other == key) = false := beq_eq_false_iff_ne.mpr h
          simp [List.lookup_cons, h, h']
      · rw [List.lookup_cons, ih, List.lookup_cons]
        by_cases h : other = key
        · have h' : (other == k) = false := beq_eq_false_iff_ne.mpr (h ▸ hk)
          simp [h, h ▸ h']
        · simp [h]

/-- What is inserted is found. -/
theorem find?_insert_self (m : TextMap α) (key : String) (value : α) :
    (m.insert key value).find? key = some value := by
  simp [find?, insert, lookup_insertEntry]

/-- Inserting an entry leaves the others. -/
theorem find?_insert_of_ne (m : TextMap α) {key other : String} (value : α) (h : other ≠ key) :
    (m.insert key value).find? other = m.find? other := by
  simp [find?, insert, lookup_insertEntry, h]

end TextMap

end Membrane
