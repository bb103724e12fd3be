/-! # Slot tables

A table of named slots in the order of their first use. A name is *unset*, *live* with a value, or
*deleted*; a deleted name keeps its place in the order and is remembered as deleted until it is
bound again or removed.

The slots are a map by name, and the order is a list of names beside it. That the two are in step is
carried by the type: no name stands twice in the order (`nodup_names`), and the names in the order
are those that have a slot (`perm_names`).

Main statements, with `t.names` for the names in order:

* `names_setLive`, `names_markDeleted`: a new name goes to the end, a known one keeps its place;
  `names_remove`: a removed name is gone.
* `state_setLive`, `state_markDeleted`, `state_remove` and their `_of_ne` companions: an operation
  decides the state of its own name and leaves every other name as it was.
* `length_liveNames`: the live names are as many as `liveCount` says.
* `slots_setLive`, `slots_remove`, `liveNames_eq`: seen together (`t.slots`), map and order are one
  list of named slots, in which a slot is put in its place or filtered out.
-/

namespace Membrane

/-- What a slot in the table holds. -/
inductive Slot (α : Type) where
  | live (a : α)
  | deleted
  deriving DecidableEq, Repr

namespace Slot

variable {α : Type}

/-- What a live slot holds. -/
def live? : Slot α → Option α
  | .live a => some a
  | .deleted => none

def isLive : Slot α → Bool
  | .live _ => true
  | .deleted => false

end Slot

/-- Named slots in the order of their first use: a map by name, and beside it the order. -/
structure SlotTable (α : Type) where
  /-- The slot of each name, in no order that counts. -/
  contents : List (String × Slot α)
  /-- The names in the order of their first use, deleted ones included. -/
  names : List String
  nodup_names : names.Nodup
  perm_names : (contents.map (·.1)).Perm names

namespace SlotTable

variable {α : Type}

def empty : SlotTable α := ⟨[], [], .nil, .nil⟩

/-- The state of a name; `none` when it is unset. -/
def state (t : SlotTable α) (name : String) : Option (Slot α) := t.contents.lookup name

/-- The value of a live name. -/
def get? (t : SlotTable α) (name : String) : Option α := (t.state name).bind Slot.live?

/-- The name was deleted and not bound since. -/
def isDeleted (t : SlotTable α) (name : String) : Bool :=
  match t.state name with
  | some .deleted => true
  | _ => false

/-! ### Map and order in step -/

/-- The names in the order are those that have a slot. -/
theorem mem_names_iff {t : SlotTable α} {name : String} :
    name ∈ t.names ↔ (t.state name).isSome := by
  rw [← t.perm_names.mem_iff, state, List.lookup_isSome_iff]
  simp only [List.mem_map, beq_iff_eq]
  exact exists_congr fun entry => and_congr_right fun _ => eq_comm

/-- Without the slot of a name, what is left is in step with the other names. -/
private theorem perm_others (t : SlotTable α) (name : String) :
    ((t.contents.filter (·.1 != name)).map (·.1)).Perm (t.names.filter (· != name)) := by
  simpa [List.filter_map, Function.comp_def] using t.perm_names.filter (· != name)

/-- A slot that replaces another leaves the names as they are. -/
private theorem perm_replaced (t : SlotTable α) {name : String} (slot : Slot α)
    (hknown : name ∈ t.names) :
    (((name, slot) :: t.contents.filter (·.1 != name)).map (·.1)).Perm t.names := by
  have hothers := t.perm_others name
  rw [← t.nodup_names.erase_eq_filter] at hothers
  exact (hothers.cons name).trans (List.perm_cons_erase hknown).symm

/-- A slot under a new name adds that name. -/
private theorem perm_added (t : SlotTable α) {name : String} (slot : Slot α)
    (hnew : name ∉ t.names) :
    (((name, slot) :: t.contents.filter (·.1 != name)).map (·.1)).Perm (t.names ++ [name]) := by
  have hothers : t.contents.filter (·.1 != name) = t.contents := by
    refine List.filter_eq_self.2 fun entry hentry => bne_iff_ne.2 fun heq => hnew ?_
    exact heq ▸ t.perm_names.mem_iff.1 (List.mem_map_of_mem hentry)
  rw [hothers]
  exact (t.perm_names.cons name).trans (List.perm_append_singleton name t.names).symm

/-- Gives a name a slot in place of the one that it has. A name that has none goes to the end of the
order. -/
def put (t : SlotTable α) (name : String) (slot : Slot α) : SlotTable α where
  contents := (name, slot) :: t.contents.filter (·.1 != name)
  names := if (t.state name).isSome then t.names else t.names ++ [name]
  nodup_names := by
    split
    · exact t.nodup_names
    · next hnew =>
      rw [← mem_names_iff] at hnew
      exact List.nodup_append.2 ⟨t.nodup_names, by simp, by rintro x hx y hy rfl; simp_all⟩
  perm_names := by
    split
    · next hknown => exact t.perm_replaced slot (mem_names_iff.2 hknown)
    · next hnew => exact t.perm_added slot (mt mem_names_iff.1 hnew)

/-- Binds a name, whatever its state was. -/
def setLive (t : SlotTable α) (name : String) (a : α) : SlotTable α := t.put name (.live a)

/-- Marks a name as deleted, whatever its state was. -/
def markDeleted (t : SlotTable α) (name : String) : SlotTable α := t.put name .deleted

/-- An unset name is not among the names. -/
private theorem filter_names_of_unset {t : SlotTable α} {name : String}
    (hunset : ¬(t.state name).isSome) : t.names.filter (· != name) = t.names := by
  refine List.filter_eq_self.2 fun other hother => bne_iff_ne.2 ?_
  rintro rfl
  exact hunset (mem_names_iff.1 hother)

/-- Forgets a name, so that it is unset. The order is only touched when the name had a slot. -/
def remove (t : SlotTable α) (name : String) : SlotTable α where
  contents := t.contents.filter (·.1 != name)
  names := if (t.state name).isSome then t.names.filter (· != name) else t.names
  nodup_names := by
    split
    · exact t.nodup_names.sublist List.filter_sublist
    · exact t.nodup_names
  perm_names := by
    split
    · exact t.perm_others name
    · next hunset => exact filter_names_of_unset hunset ▸ t.perm_others name

/-- The live names, in order. -/
def liveNames (t : SlotTable α) : List String := t.names.filter fun name => (t.get? name).isSome

/-- The number of live names. -/
def liveCount (t : SlotTable α) : Nat := (t.contents.filter (·.2.isLive)).length

/-! ### Names in order -/

/-- A name that is not in use yet comes last. -/
theorem names_put (t : SlotTable α) (name : String) (slot : Slot α) :
    (t.put name slot).names = if name ∈ t.names then t.names else t.names ++ [name] := by
  simp only [put, ← mem_names_iff]

/-- A name that is set keeps its place, or comes last. -/
theorem names_setLive (t : SlotTable α) (name : String) (a : α) :
    (t.setLive name a).names = if name ∈ t.names then t.names else t.names ++ [name] :=
  t.names_put name _

/-- A name that is marked as deleted keeps its place, or comes last. -/
theorem names_markDeleted (t : SlotTable α) (name : String) :
    (t.markDeleted name).names = if name ∈ t.names then t.names else t.names ++ [name] :=
  t.names_put name _

/-- A removed name loses its place. -/
theorem names_remove (t : SlotTable α) (name : String) :
    (t.remove name).names = t.names.filter (· != name) := by
  unfold remove
  split
  · rfl
  · next hunset => exact (filter_names_of_unset hunset).symm

/-! ### States -/

/-- Nothing is found under a name that is filtered out. -/
private theorem lookup_filter_ne (name other : String) (slots : List (String × Slot α)) :
    (slots.filter (·.1 != name)).lookup other =
      if other = name then none else slots.lookup other := by
  induction slots with
  | nil => simp
  | cons head rest ih =>
    obtain ⟨n, s⟩ := head
    by_cases h : n = name
    · subst h
      by_cases g : other = n
      · simpa [List.filter_cons, g] using ih
      · have g' : (other == n) = false := by simpa using g
        simp [ih, List.lookup_cons, g, g']
    · by_cases g : other = n
      · subst g
        simp [h]
      · have g' : (other == n) = false := by simpa using g
        simp [List.lookup_cons, h, ih, g']

/-- A slot that is put under a name is in use there, and the others are as before. -/
theorem state_put (t : SlotTable α) (name other : String) (slot : Slot α) :
    (t.put name slot).state other = if other = name then some slot else t.state other := by
  simp only [state, put, List.lookup_cons, lookup_filter_ne]
  by_cases h : other = name
  · simp [h]
  · simp [h, beq_false_of_ne h]

/-- A slot that is set is live. -/
@[simp] theorem state_setLive (t : SlotTable α) (name : String) (a : α) :
    (t.setLive name a).state name = some (.live a) := by
  simp [setLive, state_put]

/-- Setting a slot leaves the others. -/
theorem state_setLive_of_ne (t : SlotTable α) {name other : String} (a : α) (h : other ≠ name) :
    (t.setLive name a).state other = t.state other := by
  simp [setLive, state_put, h]

/-- A slot that is marked as deleted holds the mark. -/
@[simp] theorem state_markDeleted (t : SlotTable α) (name : String) :
    (t.markDeleted name).state name = some .deleted := by
  simp [markDeleted, state_put]

/-- Marking a slot leaves the others. -/
theorem state_markDeleted_of_ne (t : SlotTable α) {name other : String} (h : other ≠ name) :
    (t.markDeleted name).state other = t.state other := by
  simp [markDeleted, state_put, h]

/-- A slot that is removed is unset. -/
@[simp] theorem state_remove (t : SlotTable α) (name : String) :
    (t.remove name).state name = none := by
  simp [state, remove, lookup_filter_ne]

/-- Removing a slot leaves the others. -/
theorem state_remove_of_ne (t : SlotTable α) {name other : String} (h : other ≠ name) :
    (t.remove name).state other = t.state other := by
  simp [state, remove, lookup_filter_ne, h]

/-- A slot in use is deleted or live. -/
theorem isDeleted_of_state {t : SlotTable α} {name : String} {slot : Slot α}
    (h : t.state name = some slot) : t.isDeleted name = !slot.isLive := by
  unfold isDeleted
  rw [h]
  cases slot <;> rfl

/-- A deleted slot is in use, with the mark of the deletion. -/
theorem state_of_isDeleted {t : SlotTable α} {name : String} (h : t.isDeleted name) :
    t.state name = some .deleted := by
  unfold isDeleted at h
  split at h
  · assumption
  · cases h

/-- An unset slot is not deleted. -/
theorem isDeleted_of_unused {t : SlotTable α} {name : String} (h : t.state name = none) :
    t.isDeleted name = false := by
  unfold isDeleted
  rw [h]

/-- Something is found exactly in a live slot. -/
theorem get?_eq_some_iff {t : SlotTable α} {name : String} {a : α} :
    t.get? name = some a ↔ t.state name = some (.live a) := by
  unfold get?
  rcases t.state name with _ | slot
  · simp
  · cases slot <;> simp [Slot.live?]

/-- A name without a live slot was never used, or it is deleted. -/
theorem state_of_get?_none {t : SlotTable α} {name : String} (h : t.get? name = none) :
    t.state name = none ∨ t.state name = some .deleted := by
  unfold get? at h
  cases hstate : t.state name with
  | none => exact .inl rfl
  | some slot =>
    cases slot with
    | live a =>
      rw [hstate] at h
      cases h
    | deleted => exact .inr rfl

/-! ### Live names -/

/-- Each slot is found under its name. -/
private theorem state_of_mem {t : SlotTable α} {entry : String × Slot α}
    (h : entry ∈ t.contents) : t.state entry.1 = some entry.2 := by
  obtain ⟨before, after, hcontents⟩ := List.append_of_mem h
  have hnodup := t.perm_names.nodup_iff.2 t.nodup_names
  rw [hcontents, List.map_append, List.map_cons, List.nodup_append] at hnodup
  refine List.lookup_eq_some_iff.2 ⟨before, after, hcontents, fun p hp => bne_iff_ne.2 ?_⟩
  exact (hnodup.2.2 _ (List.mem_map_of_mem hp) _ List.mem_cons_self).symm

/-- There are as many live names as live slots. -/
@[simp] theorem length_liveNames (t : SlotTable α) : t.liveNames.length = t.liveCount := by
  have hlive : t.contents.filter ((fun name => (t.get? name).isSome) ∘ (·.1)) =
      t.contents.filter (·.2.isLive) := by
    refine List.filter_congr fun entry hentry => ?_
    rw [Function.comp_apply, get?, state_of_mem hentry]
    cases entry.2 <;> rfl
  calc t.liveNames.length
      = ((t.contents.map (·.1)).filter fun name => (t.get? name).isSome).length :=
        (t.perm_names.filter _).length_eq.symm
    _ = t.liveCount := by rw [List.filter_map, List.length_map, hlive, liveCount]

/-! ### Map and order together -/

/-- The named slots in order. -/
def slots (t : SlotTable α) : List (String × Slot α) :=
  t.names.filterMap fun name => (t.state name).map (name, ·)

/-- Puts a slot in the place of the one with the same name, or at the end. -/
def putSlot (name : String) (slot : Slot α) : List (String × Slot α) → List (String × Slot α)
  | [] => [(name, slot)]
  | (n, s) :: rest => if name = n then (name, slot) :: rest else (n, s) :: putSlot name slot rest

section Slots

variable {name : String} {slot : Slot α} {states : String → Option (Slot α)} {names : List String}

/-- A list of names with their states has the state of each name in it. -/
private theorem lookup_filterMap :
    (names.filterMap fun n => (states n).map (n, ·)).lookup name =
      if name ∈ names then states name else none := by
  induction names with
  | nil => rfl
  | cons n rest ih =>
    by_cases hname : name = n
    · subst hname
      cases hstate : states name with
      | none => simp [hstate, ih]
      | some slot => simp [hstate]
    · cases hstate : states n with
      | none => simp [hstate, ih, hname]
      | some slot => simp [hstate, ih, hname, List.lookup_cons, beq_false_of_ne hname]

/-- A state that changes outside the list leaves it. -/
private theorem filterMap_update (hnew : name ∉ names) :
    names.filterMap (fun n => (if n = name then some slot else states n).map (n, ·)) =
      names.filterMap fun n => (states n).map (n, ·) := by
  induction names with
  | nil => rfl
  | cons n rest ih =>
    obtain ⟨hne, hrest⟩ := not_or.1 (mt List.mem_cons.2 hnew)
    rw [List.filterMap_cons, List.filterMap_cons, ih hrest, if_neg (Ne.symm hne)]

/-- A slot that is put into the list is put under its name, or comes last. -/
private theorem putSlot_filterMap (hnodup : names.Nodup)
    (hstates : ∀ n ∈ names, (states n).isSome) :
    putSlot name slot (names.filterMap fun n => (states n).map (n, ·)) =
      (if name ∈ names then names else names ++ [name]).filterMap
        fun n => (if n = name then some slot else states n).map (n, ·) := by
  induction names with
  | nil => simp [putSlot]
  | cons n rest ih =>
    -- every name has a slot, so the first of them heads both lists
    obtain ⟨hfresh, hrest⟩ := List.nodup_cons.1 hnodup
    obtain ⟨old, hold⟩ := Option.isSome_iff_exists.1 (hstates n List.mem_cons_self)
    by_cases hname : name = n
    · subst hname
      simp [hold, putSlot, filterMap_update hfresh]
    · have hlater := ih hrest fun m hm => hstates m (List.mem_cons_of_mem _ hm)
      by_cases hmem : name ∈ rest <;>
        simpa [hold, putSlot, hname, Ne.symm hname, hmem] using hlater

end Slots

/-- The slots in their order hold the states. -/
theorem lookup_slots (t : SlotTable α) (name : String) : t.slots.lookup name = t.state name := by
  rw [slots, lookup_filterMap]
  split
  · rfl
  · next hunset =>
    rw [mem_names_iff, Option.not_isSome_iff_eq_none] at hunset
    exact hunset.symm

/-- A slot is put where the one before it was. -/
theorem slots_put (t : SlotTable α) (name : String) (slot : Slot α) :
    (t.put name slot).slots = putSlot name slot t.slots := by
  have hstates : ∀ n ∈ t.names, (t.state n).isSome := fun n => mem_names_iff.1
  rw [slots, slots, putSlot_filterMap t.nodup_names hstates, names_put]
  simp only [state_put]

/-- Setting a slot puts it into the list of slots. -/
theorem slots_setLive (t : SlotTable α) (name : String) (a : α) :
    (t.setLive name a).slots = putSlot name (.live a) t.slots :=
  t.slots_put name _

/-- Removing a slot strikes it from the list of slots. -/
theorem slots_remove (t : SlotTable α) (name : String) :
    (t.remove name).slots = t.slots.filter (·.1 != name) := by
  rw [slots, slots, names_remove, List.filterMap_filter, List.filter_filterMap]
  congr 1
  funext n
  by_cases hname : n = name
  · subst hname
    cases t.state n <;> simp [Option.filter_some]
  · rw [state_remove_of_ne t hname]
    cases t.state n <;> simp [Option.filter_some, hname]

/-- The live names are those of the live slots. -/
theorem liveNames_eq (t : SlotTable α) : t.liveNames = (t.slots.filter (·.2.isLive)).map (·.1) := by
  rw [liveNames, slots, List.filter_filterMap, List.map_filterMap, ← List.filterMap_eq_filter]
  congr 1
  funext n
  cases hstate : t.state n with
  | none => simp [Option.guard, get?, hstate]
  | some slot =>
    cases slot <;>
      simp [Option.guard, get?, hstate, Option.filter_some, Slot.live?, Slot.isLive]

end SlotTable

end Membrane
