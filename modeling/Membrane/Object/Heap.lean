import Membrane.Object.Descriptor
import Membrane.Object.SlotTable

/-! # Script objects and their heap

An object has a sort, a table of its own slots and a prototype. The heap holds the objects by
identity; a prototype is always older than the object that links to it
(`Heap.OlderPrototypes`), so `Heap.chain`, which follows at most as many links as there are older
objects, is the whole prototype chain.

Main statements: a new object is found under its identity (`object?_create_self`) and leaves the
others as they are (`object?_create_of_some`); changing an object shows under its own identity
(`object?_modify_self`) and nowhere else (`object?_modify_of_ne`). So what is there after either was
there before, or is the new or the changed object (`object?_create_cases`, `object?_modify_cases`).
Likewise a change of a cell shows in this cell alone (`cell_setCell_self`, `cell_setCell_of_ne`).
-/

namespace Membrane

/-- The sorts of script objects. -/
inductive ObjectSort where
  | plain
  /-- Dense elements beside the named slots. -/
  | array (elements : Array ScriptValue)
  /-- A function with a body of its own. -/
  | function (name : String) (body : ScriptValue → List ScriptValue → Program .script)
  /-- The methods of one name, bound to an instance or, for static methods, to none. -/
  | methods (group : MethodGroup) (target : Option HostRef)
  /-- A host instance. -/
  | wrapper (target : HostRef)
  /-- A host type. -/
  | typeReference (type : TypeId)

/-- A script object. -/
structure ScriptObject where
  sort : ObjectSort
  slots : SlotTable Descriptor
  prototype : Option ObjectId

namespace ScriptObject

/-- An object without slots. -/
def make (sort : ObjectSort) (prototype : Option ObjectId) : ScriptObject :=
  ⟨sort, .empty, prototype⟩

end ScriptObject

/-- The script objects by identity, and the cells that their slots share. -/
structure Heap where
  created : Array ScriptObject
  /-- Functions that stand for host methods, by owner and key. -/
  bound : List ((Nat × String) × ScriptObject)
  /-- What writes change of shared descriptors, by the number of the cell: the value, or the shadow if
  there is one. -/
  cells : List (Nat × Option ScriptValue)

namespace Heap

def empty : Heap := ⟨#[], [], []⟩

/-- The number of objects. -/
def count (h : Heap) : Nat := h.created.size + h.bound.length

/-- The identities of all objects. -/
def ids (h : Heap) : List ObjectId :=
  (List.range h.created.size).map .created ++ h.bound.map fun entry => .bound entry.1.1 entry.1.2

/-- The object with an identity. -/
def object? (h : Heap) : ObjectId → Option ScriptObject
  | .created index => h.created[index]?
  | .bound owner key => h.bound.lookup (owner, key)

/-- Puts an object in the place of the one with the same identity. -/
def set (h : Heap) (id : ObjectId) (o : ScriptObject) : Heap :=
  match id with
  | .created index => { h with created := h.created.setIfInBounds index o }
  | .bound owner key => { h with bound := ((owner, key), o) :: h.bound.filter (·.1 != (owner, key)) }

/-- Adds an object with a new identity. -/
def create (h : Heap) (o : ScriptObject) : ObjectId × Heap :=
  (.created h.created.size, { h with created := h.created.push o })

/-- Changes one object. -/
def modify (h : Heap) (id : ObjectId) (f : ScriptObject → ScriptObject) : Heap :=
  match h.object? id with
  | some o => h.set id (f o)
  | none => h

/-- The contents of a cell. -/
def cell (h : Heap) (index : Nat) : Option ScriptValue := (h.cells.lookup index).join

/-- Changes the contents of a cell. -/
def setCell (h : Heap) (index : Nat) (contents : Option ScriptValue) : Heap :=
  { h with cells := (index, contents) :: h.cells.filter (·.1 != index) }

/-- Adds a cell with a new number. -/
def addCell (h : Heap) (contents : Option ScriptValue) : Nat × Heap :=
  (h.cells.length, h.setCell h.cells.length contents)

/-- The prototype of an object. -/
def prototype? (h : Heap) (id : ObjectId) : Option ObjectId := (h.object? id).bind (·.prototype)

/-- The place of an object in the order of age: a function bound to a slot is as old as the slot's
owner, but younger than everything that its owner links to. -/
def age : ObjectId → Nat
  | .created index => index
  | .bound owner _ => owner

/-- An object followed by its prototypes, for at most `steps` objects. -/
def chainWithin (h : Heap) : Nat → ObjectId → List ObjectId
  | 0, _ => []
  | steps + 1, id =>
      id :: match h.prototype? id with
        | some p => chainWithin h steps p
        | none => []

/-- An object followed by its prototype chain. -/
def chain (h : Heap) (id : ObjectId) : List ObjectId := h.chainWithin (age id + 1) id

/-- Prototypes are older than the objects that link to them. -/
def OlderPrototypes (h : Heap) : Prop :=
  ∀ id o p, h.object? id = some o → o.prototype = some p → age p < age id

/-! ### Identities -/

/-- There are as many names of objects as objects. -/
theorem length_ids (h : Heap) : h.ids.length = h.count := by
  simp [ids, count]

/-- Every object is among those that are listed. -/
theorem mem_ids {h : Heap} {id : ObjectId} {o : ScriptObject} (hid : h.object? id = some o) :
    id ∈ h.ids := by
  cases id with
  | created index =>
    have hlt : index < h.created.size := (Array.getElem?_eq_some_iff.1 hid).1
    exact List.mem_append_left _ (List.mem_map_of_mem (List.mem_range.2 hlt))
  | bound owner key =>
    obtain ⟨before, after, hbound, -⟩ := List.lookup_eq_some_iff.1 hid
    have hmem : ((owner, key), o) ∈ h.bound := by rw [hbound]; simp
    exact List.mem_append_right _ (List.mem_map_of_mem hmem)

/-! ### Reading after writing -/

/-- A new object leaves those that exist. -/
theorem object?_create_of_some (h : Heap) (o : ScriptObject) {id : ObjectId} {q : ScriptObject}
    (hid : h.object? id = some q) : (h.create o).2.object? id = some q := by
  cases id with
  | created index =>
    have hlt : index < h.created.size := by
      simp only [object?] at hid
      exact (Array.getElem?_eq_some_iff.1 hid).1
    simpa [object?, create, Array.getElem?_push, Nat.ne_of_lt hlt] using hid
  | bound owner key => simpa [object?, create] using hid

/-- A new object stands under its own name. -/
theorem object?_create_self (h : Heap) (o : ScriptObject) :
    (h.create o).2.object? (h.create o).1 = some o := by
  simp [object?, create]

/-- What is there once an object is made is the new one, or was there before. -/
theorem object?_create_cases {h : Heap} {o q : ScriptObject} {id : ObjectId}
    (hq : (h.create o).2.object? id = some q) :
    (id = (h.create o).1 ∧ q = o) ∨ h.object? id = some q := by
  by_cases hid : id = (h.create o).1
  · subst hid
    exact .inl ⟨rfl, Option.some.inj (hq.symm.trans (h.object?_create_self o))⟩
  · cases id with
    | created index =>
      have hne : index ≠ h.created.size := fun heq => hid (heq ▸ rfl)
      exact .inr (by simpa [object?, create, Array.getElem?_push, hne] using hq)
    | bound owner key => exact .inr hq

/-- Replacing an entry leaves the others. -/
private theorem lookup_replaced {α β : Type} [BEq α] [LawfulBEq α] (entries : List (α × β))
    {key other : α} (hne : other ≠ key) :
    (entries.filter (·.1 != key)).lookup other = entries.lookup other := by
  induction entries with
  | nil => rfl
  | cons head rest ih =>
    obtain ⟨k, b⟩ := head
    by_cases hk : k = key
    · subst hk
      have hlookup : (other == k) = false := beq_eq_false_iff_ne.mpr hne
      simp [List.lookup_cons, hlookup, ih]
    · have hkeep : (k != key) = true := by simpa using hk
      simp only [List.filter_cons, hkeep, if_true, List.lookup_cons, ih]

/-- An object that is replaced is the new one. -/
theorem object?_set_self {h : Heap} {id : ObjectId}
    (hid : (h.object? id).isSome) (p : ScriptObject) : (h.set id p).object? id = some p := by
  cases id with
  | created index =>
    have hlt : index < h.created.size := by
      simpa [object?] using hid
    simp [object?, set, hlt]
  | bound owner key => simp [object?, set]

/-- Replacing an object leaves the others. -/
theorem object?_set_of_ne {h : Heap} {id other : ObjectId} (p : ScriptObject)
    (hne : other ≠ id) : (h.set id p).object? other = h.object? other := by
  cases id with
  | created index =>
    cases other with
    | created j =>
      have hj : index ≠ j := fun e => hne (by rw [e])
      simp [object?, set, hj]
    | bound owner key => rfl
  | bound owner key =>
    cases other with
    | created j => rfl
    | bound owner' key' =>
      have hkey : (owner', key') ≠ (owner, key) := fun e => hne (by cases e; rfl)
      have hlookup : ((owner', key') == (owner, key)) = false := beq_eq_false_iff_ne.mpr hkey
      show List.lookup (owner', key') (((owner, key), p) :: _) = _
      rw [List.lookup_cons, hlookup]
      exact lookup_replaced h.bound hkey

/-- An object that is changed, if there is one. -/
theorem object?_modify_self (h : Heap) (id : ObjectId) (f : ScriptObject → ScriptObject) :
    (h.modify id f).object? id = (h.object? id).map f := by
  unfold modify
  split
  · next o ho => rw [ho, object?_set_self (by simp [ho]) (f o), Option.map_some]
  · next ho => rw [ho]; rfl

/-- Changing an object leaves the others. -/
theorem object?_modify_of_ne (h : Heap) {id other : ObjectId} (f : ScriptObject → ScriptObject)
    (hne : other ≠ id) : (h.modify id f).object? other = h.object? other := by
  unfold modify
  split
  · exact object?_set_of_ne _ hne
  · rfl

/-- What is there after a change is the changed object, or another one that was there before. -/
theorem object?_modify_cases {h : Heap} {id other : ObjectId} {f : ScriptObject → ScriptObject}
    {q : ScriptObject} (hq : (h.modify id f).object? other = some q) :
    (other = id ∧ ∃ o, h.object? id = some o ∧ f o = q) ∨
      (other ≠ id ∧ h.object? other = some q) := by
  by_cases hid : other = id
  · subst hid
    rw [object?_modify_self] at hq
    exact .inl ⟨rfl, Option.map_eq_some_iff.1 hq⟩
  · exact .inr ⟨hid, by rwa [object?_modify_of_ne h f hid] at hq⟩

/-- A cell holds what it was set to. -/
theorem cell_setCell_self (h : Heap) (index : Nat) (contents : Option ScriptValue) :
    (h.setCell index contents).cell index = contents := by
  simp [cell, setCell]

/-- Setting a cell leaves the others. -/
theorem cell_setCell_of_ne (h : Heap) {index other : Nat} (contents : Option ScriptValue)
    (hne : other ≠ index) : (h.setCell index contents).cell other = h.cell other := by
  have hkey : (other == index) = false := beq_eq_false_iff_ne.mpr hne
  simp only [cell, setCell, List.lookup_cons, hkey, lookup_replaced h.cells hne]

/-- A change of an object leaves the cells as they are. -/
theorem cells_modify (h : Heap) (id : ObjectId) (f : ScriptObject → ScriptObject) :
    (h.modify id f).cells = h.cells := by
  unfold modify
  split
  · cases id <;> rfl
  · rfl

/-- Changing an object leaves the cells. -/
theorem cell_modify (h : Heap) (id : ObjectId) (f : ScriptObject → ScriptObject) (index : Nat) :
    (h.modify id f).cell index = h.cell index := by
  rw [cell, cells_modify, ← cell]

/-- A change adds no object. -/
theorem size_modify (h : Heap) (id : ObjectId) (f : ScriptObject → ScriptObject) :
    (h.modify id f).created.size = h.created.size := by
  unfold modify
  split
  · cases id <;> simp [set]
  · rfl

end Heap

end Membrane
