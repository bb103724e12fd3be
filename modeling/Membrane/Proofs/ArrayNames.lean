import Membrane.Proofs.ScriptArrays
import Membrane.Proofs.ScriptObjects

/-!
# Names of script arrays

A name of a script array is the length, or it denotes an index (`Name.DenotesIndex`) and so an element,
or it has a slot of its own. An index below `2 ^ 32` has many spellings, with a plus sign and with zeros
in front, and they are all names of one element. A shared descriptor that stands under several names
makes them names of one value (`Engine.SharesCell`). Apart from that different names are different
properties: a write under one of them leaves the other property as it is, unless it runs host code
(`Realm.RunsSetter`). So it does not change what is read there, unless the read runs something itself
(`Realm.RunsGetter`).

## Key results

- `Name.index?_eq_some_iff`: which texts denote an index
- `Realm.ownProperty_after_put`: what a write leaves of the property under another name
- `Realm.get_after_put`: what a write does to reads under all names
-/

namespace Membrane

/-! ### Spellings of an index -/

/-- The text is an index below `2 ^ 32` in decimal digits, with a plus sign in front of them perhaps. -/
def Name.DenotesIndex (name : String) (i : ℕ) : Prop :=
  i < 2 ^ 32 ∧ (IsNumeral name.toList i ∨ ∃ digits, name.toList = '+' :: digits ∧ IsNumeral digits i)

namespace Name

variable {name : String} {digits : List Char} {i j : ℕ}

/-- A plus sign is no digit. -/
private theorem not_isNumeral_plus : ¬ IsNumeral ('+' :: digits) i :=
  fun h => absurd (h.isDigit '+' List.mem_cons_self) (by decide)

/-- A name denotes an index as the numeral that is left without a plus sign in front. -/
private theorem denotesIndex_iff_numeral :
    DenotesIndex name i ↔ i < 2 ^ 32 ∧
      IsNumeral (match name.toList with | '+' :: rest => rest | digits => digits) i := by
  unfold DenotesIndex
  refine and_congr_right fun _ => ?_
  split
  · next rest hplus =>
    simp [hplus, not_isNumeral_plus]
  · next hplain =>
    refine ⟨fun h => h.resolve_right ?_, .inl⟩
    rintro ⟨digits, hplus, -⟩
    exact hplain digits hplus

/-- Elements are addressed by the texts that denote an index, and by no others. -/
theorem index?_eq_some_iff : index? name = some i ↔ DenotesIndex name i := by
  rw [denotesIndex_iff_numeral, isNumeral_iff, index?, Nat.one_shiftLeft]
  simp only [Option.ite_none_right_eq_some, Bool.and_eq_true, decide_eq_true_eq, Option.some.injEq]
  constructor
  · rintro ⟨⟨hdigits, hbound⟩, rfl⟩
    exact ⟨hbound, hdigits, rfl⟩
  · rintro ⟨hbound, hdigits, rfl⟩
    exact ⟨⟨hdigits, hbound⟩, rfl⟩

/-- A text denotes one index at most. -/
theorem DenotesIndex.unique (hi : DenotesIndex name i) (hj : DenotesIndex name j) : i = j :=
  Option.some.inj ((index?_eq_some_iff.2 hi).symm.trans (index?_eq_some_iff.2 hj))

end Name

/-! ### Elements -/

namespace Realm

open Action

variable {elements : Array ScriptValue} {i j : ℕ} {value : ScriptValue}

/-- An element that is assigned stands at its index. -/
theorem getElem?_assigned_self (elements : Array ScriptValue) (i : ℕ) (value : ScriptValue) :
    (assigned elements i value)[i]? = some value := by
  -- an array that is too short grows up to the element first
  have hroom : i < (if elements.size ≤ i then resize elements (i + 1) else elements).size := by
    split
    · rw [size_resize]
      omega
    · omega
  rw [assigned, Array.getElem?_setIfInBounds_self_of_lt hroom]

/-- The other elements stay as they are, and those that the array grows by are undefined. -/
theorem getElem?_assigned_of_ne (elements : Array ScriptValue) (value : ScriptValue) (hne : j ≠ i) :
    (assigned elements i value)[j]? = elements[j]? ∨
      elements[j]? = none ∧ (assigned elements i value)[j]? = some .undefined := by
  rw [assigned, Array.getElem?_setIfInBounds_ne (Ne.symm hne)]
  split
  · next hbeyond =>
    have hgrown : ¬ i + 1 ≤ elements.size := by omega
    -- what the array grows by is undefined, and was not there before
    by_cases hj : j < elements.size
    · simp [resize, hgrown, Array.getElem?_append_left, hj]
    · rw [resize, if_neg hgrown, Array.getElem?_append_right (by omega), Array.getElem?_replicate]
      have hnone : elements[j]? = none := by simpa using hj
      split
      · exact .inr ⟨hnone, rfl⟩
      · exact .inl hnone.symm
  · exact .inl rfl

/-! ### Requests and reads -/

variable {R : Realm} {s t : Store} {id : ObjectId} {name a b : String} {d : Descriptor}

/-- A request for an element looks among the elements. -/
theorem ownProperty_element (E : Engine) (helements : s.elements? id = some elements)
    (hindex : Name.index? name = some i) :
    E.ownProperty s id name = (elements[i]?.map fun v => ⟨.plain v, none⟩, s) := by
  have hsort := Store.elements?_eq_some_iff.1 helements
  simp only [Engine.ownProperty, hsort, Name.beq_length_of_index? hindex, hindex]
  rfl

/-- What a request finds in an array depends on the elements, or on what stands in the slot of the
name. -/
theorem ownProperty_congr (E : Engine) (helements : s.elements? id = some elements)
    (helements' : t.elements? id = some elements) (hname : name ≠ "length")
    (hslot : (t.slots id).get? name = (s.slots id).get? name) :
    (E.ownProperty t id name).1 = (E.ownProperty s id name).1 := by
  -- an element is found by its index, everything else in its slot
  cases hindex : Name.index? name with
  | some i =>
    rw [ownProperty_element E helements hindex, ownProperty_element E helements' hindex]
  | none =>
    rw [E.ownProperty_slot (Store.not_isHostObject_of_elements? helements)
        ((Store.isSlotName_iff helements).2 ⟨hname, hindex⟩),
      E.ownProperty_slot (Store.not_isHostObject_of_elements? helements')
        ((Store.isSlotName_iff helements').2 ⟨hname, hindex⟩)]
    simp only [Engine.tableSlot, hslot]

/-- A request for a property of an object of a script leaves the store as it is. -/
theorem ownProperty_eq (E : Engine) (hscript : ¬ s.isHostObject id) (name : String) :
    E.ownProperty s id name = ((E.ownProperty s id name).1, s) :=
  Prod.ext rfl (Engine.ownProperty_of_other E hscript name).1

/-- A read goes through the descriptor that the request finds. -/
theorem get_of_found (R : Realm) (hscript : ¬ s.isHostObject id) {handle : Handle}
    (hfound : (R.toEngine.ownProperty s id name).1 = some handle)
    (habsent : handle.descriptor.isAbsent = false) :
    R.get id name s = R.read handle.descriptor s := by
  have hown := ownProperty_eq R.toEngine hscript name
  rw [hfound] at hown
  exact get_of_own hown habsent

/-- A property that neither the object nor any behind it has is read as undefined. -/
theorem get_of_lacks (R : Realm) (hbehind : R.toEngine.NothingBehind s id name)
    (hlacks : R.toEngine.lacks s id name) : (R.get id name s).1 = .ok .undefined := by
  obtain ⟨cache, hget, -⟩ := getFrom_of_lacks R (hbehind.lacks hlacks)
  show (R.getFrom name (id :: (s.heap.chain id).tail) s).1 = _
  rw [hget]

/-- A read of the property runs a getter, or host code. -/
def RunsGetter (R : Realm) (s : Store) (id : ObjectId) (name : String) : Prop :=
  ∃ handle job, (R.toEngine.ownProperty s id name).1 = some handle ∧
    R.ReadsBy s handle.descriptor job

/-- What a read runs is no mark of an absent property. -/
private theorem isAbsent_of_readsBy {job : Job} (h : R.ReadsBy s d job) : d.isAbsent = false := by
  cases h <;> rfl

/-- A read that runs nothing depends on the descriptor and its cell alone. -/
theorem read_congr_of_idle (R : Realm) (hidle : ∀ job, ¬ R.ReadsBy s d job)
    (hcell : ∀ cell, d.cell? = some cell → t.heap.cell cell = s.heap.cell cell) :
    (R.read d t).1 = (R.read d s).1 := by
  -- what is left without a job is read off the descriptor or its cell
  cases d with
  | data value flags => rfl
  | accessor get flags => exact absurd .accessor (hidle _)
  | absent => rfl
  | field member target => exact absurd .field (hidle _)
  | count target =>
    cases hcount : (R.types.entry? target.type).bind (·.count) with
    | some count => exact absurd (.count hcount) (hidle _)
    | none =>
      simp only [read, countOf, hcount]
      rfl
  -- a property is idle behind a value, and without a getter
  | property member target shadow =>
    cases shadow with
    | some shadow => rfl
    | none =>
      simp only [read, readProperty]
      cases hget : member.get with
      | some get => exact absurd (.property hget) (hidle _)
      | none => rfl
  | sharedData cell flags =>
    simp only [read, bind_apply, getStore, hcell cell rfl]
    rfl
  | sharedProperty member target cell =>
    simp only [read, bind_apply, getStore, hcell cell rfl, readProperty]
    cases hshadow : s.heap.cell cell with
    | some shadow => rfl
    | none =>
      cases hget : member.get with
      | some get => exact absurd (.sharedProperty hshadow hget) (hidle _)
      | none => rfl
  | index member target key =>
    simp only [read]
    cases hget : member.get with
    | none => rfl
    | some get =>
      cases hkey : R.indexKey member key with
      | ok k => exact absurd (.index hget hkey) (hidle _)
      | error e => rfl

/-! ### What a write leaves -/

/-- A write under `a` goes to a cell that the property `b` shares. -/
def SharesCell (R : Realm) (s : Store) (id : ObjectId) (a b : String) : Prop :=
  ∃ handle handle' cell, (R.toEngine.ownProperty s id a).1 = some handle ∧
    handle.descriptor.isWritable ∧ handle.descriptor.cell? = some cell ∧
    (R.toEngine.ownProperty s id b).1 = some handle' ∧ handle'.descriptor.cell? = some cell

/-- The spellings of one index are names of one element. -/
theorem get_after_put_of_same (R : Realm) (helements : s.elements? id = some elements)
    (ha : Name.index? a = some i) (hb : Name.index? b = some i) (value : ScriptValue)
    (strict : Bool) :
    R.get id b (R.put id a value strict s).2 = (.ok value, (R.put id a value strict s).2) := by
  have helements' : (s.setElements id (assigned elements i value)).elements? id =
      some (assigned elements i value) := Store.elements?_setElements_self helements
  have hown := ownProperty_element R.toEngine helements' hb
  rw [put_element helements ha]
  rw [getElem?_assigned_self, Option.map_some] at hown
  exact get_of_own hown rfl

/-- What stands in the slot of a name that is no element. -/
private theorem get?_of_cell? (E : Engine) (hscript : ¬ s.isHostObject id) {handle : Handle} {cell : ℕ}
    (hfound : (E.ownProperty s id name).1 = some handle)
    (hcell : handle.descriptor.cell? = some cell) :
    s.isSlotName id name ∧ (s.slots id).get? name = some handle.descriptor := by
  -- only what stands in a slot can be shared through a cell
  obtain hname | ⟨elements, helements, rfl | ⟨i, hi⟩⟩ := Store.name_cases hscript name
  · rw [E.ownProperty_slot hscript hname] at hfound
    obtain ⟨d, hslot, rfl⟩ := Option.map_eq_some_iff.1 hfound
    exact ⟨hname, hslot⟩
  · -- the length and the elements are made on request, and not shared
    have hsort := Store.elements?_eq_some_iff.1 helements
    simp only [Engine.ownProperty, hsort, beq_self_eq_true, if_true] at hfound
    cases hfound
    cases hcell
  · rw [ownProperty_element E helements hi] at hfound
    obtain ⟨v, -, rfl⟩ := Option.map_eq_some_iff.1 hfound
    cases hcell

/-- Names that share a cell are names of one value. -/
theorem get_after_put_of_shared (R : Realm) (hscript : ¬ s.isHostObject id)
    (hshares : R.SharesCell s id a b) {value : ScriptValue} (hsetter : ¬ R.RunsSetter s id a value)
    {strict : Bool} (hok : R.put id a value strict s = (.ok (), t)) :
    R.get id b t = (.ok value, t) := by
  obtain ⟨handle, handle', cell, hfound, hwritable, hcell, hfound', hcell'⟩ := hshares
  obtain ⟨hname, hslot⟩ := get?_of_cell? R.toEngine hscript hfound hcell
  have hwrite := R.slotWrite_put hscript hname hsetter strict
  rw [hok, hslot] at hwrite
  -- of what a write can come to, only a write to the shared cell is left
  generalize hr : (Outcome.ok () : Outcome BridgeError Unit) = outcome at hwrite
  cases hwrite with
  | readOnly hd hreadOnly =>
    cases hd
    cases hwritable.symm.trans hreadOnly
  | refused hd hmember hw hfailed => exact absurd hr.symm hfailed
  | slot hkept hunshared => cases hcell.symm.trans (hunshared _ rfl)
  | @cell d c hd hw hc =>
    cases hd
    cases hcell.symm.trans hc
    have hleft : (R.toEngine.ownProperty (s.setCell cell (some value)) id b).1 = some handle' := by
      obtain ⟨hname', hslot'⟩ := get?_of_cell? R.toEngine hscript hfound' hcell'
      rw [R.ownProperty_slot hscript hname'] at hfound'
      rw [R.ownProperty_slot (s := s.setCell cell (some value)) hscript hname']
      exact hfound'
    rw [get_of_found R (s := s.setCell cell (some value)) hscript hleft
      (Descriptor.isAbsent_of_cell? hcell')]
    exact R.read_of_cell hcell' (s.heap.cell_setCell_self cell (some value))

/-- A write that runs no setter leaves the property under another name as it is, apart from elements
that the array grows by. -/
theorem ownProperty_after_put (R : Realm) (helements : s.elements? id = some elements)
    (ha : a ≠ "length") (hb : b ≠ "length") (hne : a ≠ b)
    (hindex : ∀ i, Name.index? a = some i → Name.index? b ≠ some i) {value : ScriptValue}
    (hsetter : ¬ R.RunsSetter s id a value) (strict : Bool) :
    let found := (R.toEngine.ownProperty s id b).1
    let left := (R.toEngine.ownProperty (R.put id a value strict s).2 id b).1
    left = found ∨ found = none ∧ left = some ⟨.plain .undefined, none⟩ := by
  have hscript := Store.not_isHostObject_of_elements? helements
  obtain hname | ⟨-, -, rfl | ⟨i, hi⟩⟩ := Store.name_cases hscript a
  · have hwrite := R.slotWrite_put hscript hname hsetter strict
    generalize R.put id a value strict s = r at hwrite ⊢
    left
    -- whatever the write leaves under `a`, the slot of `b` is another one
    cases hwrite with
    | readOnly => rfl
    | refused => rfl
    | @slot d hkept hunshared =>
      refine ownProperty_congr _ helements ((s.elements?_modifySlots id _).trans helements) hb ?_
      have hthere := Store.isSome_of_elements? helements
      rw [Store.slots_modifySlots_self s _ hthere, SlotTable.get?,
        SlotTable.state_setLive_of_ne _ d (Ne.symm hne)]
      rfl
    | cell => exact ownProperty_congr _ helements helements hb rfl
  · exact absurd rfl ha
  · rw [put_element helements hi]
    have helements' : (s.setElements id (assigned elements i value)).elements? id =
        some (assigned elements i value) := Store.elements?_setElements_self helements
    cases hj : Name.index? b with
    | some j =>
      -- the array may grow up to the element that is written, and past the one that is read
      have hji : j ≠ i := by
        rintro rfl
        exact hindex j hi hj
      rw [ownProperty_element _ helements hj, ownProperty_element _ helements' hj]
      obtain heq | ⟨hnone, hundefined⟩ := getElem?_assigned_of_ne elements value hji
      · exact .inl (by rw [heq])
      · exact .inr ⟨by rw [hnone]; rfl, by rw [hundefined]; rfl⟩
    | none =>
      left
      -- the elements and the slots do not meet
      rw [R.ownProperty_slot hscript ((Store.isSlotName_iff helements).2 ⟨hb, hj⟩),
        R.ownProperty_slot (Store.not_isHostObject_of_elements? helements')
          ((Store.isSlotName_iff helements').2 ⟨hb, hj⟩)]
      simp only [Engine.tableSlot, Store.slots_setElements]

/-- A write that runs no setter leaves the cell of a property that shares no cell with the one that is
written. -/
theorem cell_after_put (R : Realm) (helements : s.elements? id = some elements) (ha : a ≠ "length")
    {value : ScriptValue} (hsetter : ¬ R.RunsSetter s id a value) (strict : Bool)
    (hshares : ¬ R.SharesCell s id a b) {handle : Handle} {cell : ℕ}
    (hfound : (R.toEngine.ownProperty s id b).1 = some handle)
    (hcell : handle.descriptor.cell? = some cell) :
    (R.put id a value strict s).2.heap.cell cell = s.heap.cell cell := by
  have hscript := Store.not_isHostObject_of_elements? helements
  -- a write under a name with a slot, of the length, or of an element
  obtain hname | ⟨-, -, rfl | ⟨i, hi⟩⟩ := Store.name_cases hscript a
  · have hwrite := R.slotWrite_put hscript hname hsetter strict
    have hown := congrArg Prod.fst (R.ownProperty_slot hscript hname)
    rw [Engine.tableSlot] at hown
    generalize R.put id a value strict s = r at hwrite ⊢
    cases hwrite with
    | readOnly => rfl
    | refused => rfl
    | slot => exact s.heap.cell_modify id _ cell
    -- the cell that is written to is another one, or the two names would share it
    | @cell d c hd hwritable hc =>
      refine s.heap.cell_setCell_of_ne (some value) ?_
      rintro rfl
      rw [hd, Option.map_some] at hown
      exact hshares ⟨_, handle, cell, hown, hwritable, hc, hfound, hcell⟩
  · exact absurd rfl ha
  · rw [put_element helements hi]
    exact s.heap.cell_modify id _ cell

/-- A write that runs no setter changes no other object. -/
theorem changesOnly_put (R : Realm) (helements : s.elements? id = some elements) (ha : a ≠ "length")
    {value : ScriptValue} (hsetter : ¬ R.RunsSetter s id a value) (strict : Bool) :
    Store.ChangesOnly R.types id s (R.put id a value strict s).2 := by
  have hscript := Store.not_isHostObject_of_elements? helements
  obtain hname | ⟨-, -, rfl | ⟨i, hi⟩⟩ := Store.name_cases hscript a
  · have hwrite := R.slotWrite_put hscript hname hsetter strict
    generalize R.put id a value strict s = r at hwrite ⊢
    -- a slot and a cell are all that a write without a setter changes
    cases hwrite with
    | readOnly => exact Store.changesOnly_refl _ _ _
    | refused => exact Store.changesOnly_refl _ _ _
    | slot => exact Store.changesOnly_modifyObject _ _ fun _ => rfl
    | cell => exact ⟨fun _ _ => rfl, fun _ => rfl, .refl _ _⟩
  · exact absurd rfl ha
  · rw [put_element helements hi]
    exact Store.changesOnly_modifyObject _ _ fun _ => rfl

/-- An array stays one when it is written to without running a setter. -/
theorem isSome_elements?_put (R : Realm) (helements : s.elements? id = some elements)
    (ha : a ≠ "length") {value : ScriptValue} (hsetter : ¬ R.RunsSetter s id a value)
    (strict : Bool) : ((R.put id a value strict s).2.elements? id).isSome := by
  have hscript := Store.not_isHostObject_of_elements? helements
  have hthere : (s.elements? id).isSome := by rw [helements]; rfl
  obtain hname | ⟨-, -, rfl | ⟨i, hi⟩⟩ := Store.name_cases hscript a
  · have hwrite := R.slotWrite_put hscript hname hsetter strict
    generalize R.put id a value strict s = r at hwrite ⊢
    -- no write to a slot or to a cell changes the sort of the array
    cases hwrite with
    | readOnly => exact hthere
    | refused => exact hthere
    | slot => rwa [s.elements?_modifySlots]
    | cell => exact hthere
  · exact absurd rfl ha
  · rw [put_element helements hi, Store.elements?_setElements_self helements]
    rfl

/-- Reads and writes of a script array, under names other than that of the length, where no object
behind the array has the property that is read, and the write runs no setter of a host member. The
spellings of one index are names of one element, and names that share a cell are names of one value: it
is read back under all of them. A write under any other name leaves the property as it is. So it does not
change what is read, unless a getter or host code is run for that, which can find something new then. -/
theorem get_after_put (R : Realm) {s : Store} {id : ObjectId} (harray : (s.elements? id).isSome)
    {a b : String} (ha : a ≠ "length") (hb : b ≠ "length")
    (hbehind : R.toEngine.NothingBehind s id b) {value : ScriptValue}
    (hsetter : ¬ R.RunsSetter s id a value) (strict : Bool) :
    let t := (R.put id a value strict s).2
    (∀ i, Name.DenotesIndex a i → Name.DenotesIndex b i → R.get id b t = (.ok value, t)) ∧
    (R.SharesCell s id a b → (R.put id a value strict s).1 = .ok () → R.get id b t = (.ok value, t)) ∧
    (a ≠ b → (∀ i, Name.DenotesIndex a i → ¬ Name.DenotesIndex b i) → ¬ R.SharesCell s id a b →
      (¬ R.RunsGetter s id b → (R.get id b t).1 = (R.get id b s).1) ∧
      (∀ handle job, (R.toEngine.ownProperty s id b).1 = some handle →
        R.ReadsBy s handle.descriptor job →
        R.get id b s = R.read handle.descriptor s ∧ R.get id b t = R.read handle.descriptor t)) := by
  intro t
  obtain ⟨elements, helements⟩ := Option.isSome_iff_exists.1 harray
  have hscript := Store.not_isHostObject_of_elements? helements
  simp only [← Name.index?_eq_some_iff]
  refine ⟨fun i hi hj => R.get_after_put_of_same helements hi hj value strict,
    fun hshares hok => R.get_after_put_of_shared hscript hshares hsetter (Prod.ext hok rfl),
    fun hne hindex hshares => ?_⟩
  -- under the name that is read there stands what stood there before the write
  have hleft := R.ownProperty_after_put helements ha hb hne hindex hsetter strict
  obtain ⟨elements', helements'⟩ :=
    Option.isSome_iff_exists.1 (R.isSome_elements?_put helements ha hsetter strict)
  have hscript' : ¬ t.isHostObject id := Store.not_isHostObject_of_elements? helements'
  -- what is found and not absent is read before and after the write
  have hread (handle : Handle) (hfound : (R.toEngine.ownProperty s id b).1 = some handle)
      (habsent : handle.descriptor.isAbsent = false) :
      R.get id b s = R.read handle.descriptor s ∧ R.get id b t = R.read handle.descriptor t := by
    refine ⟨R.get_of_found hscript hfound habsent, R.get_of_found hscript' ?_ habsent⟩
    obtain heq | ⟨hnone, -⟩ := hleft
    · exact heq.trans hfound
    · cases hfound.symm.trans hnone
  constructor
  · intro hidle
    -- nothing is read, or what was found
    by_cases hlacks : R.toEngine.lacks s id b
    · rw [R.get_of_lacks hbehind hlacks]
      obtain heq | ⟨-, hundefined⟩ := hleft
      · refine R.get_of_lacks ((R.changesOnly_put helements ha hsetter strict).nothingBehind hbehind) ?_
        rwa [Engine.lacks, heq]
      · -- the array has grown by the element, and this is undefined as the missing one was
        rw [R.get_of_found hscript' hundefined rfl]
        rfl
    · obtain ⟨handle, hfound, habsent⟩ : ∃ handle, (R.toEngine.ownProperty s id b).1 = some handle ∧
          handle.descriptor.isAbsent = false := by
        unfold Engine.lacks at hlacks
        cases hfound : (R.toEngine.ownProperty s id b).1 with
        | none => simp [hfound] at hlacks
        | some handle => exact ⟨handle, rfl, by simpa [hfound] using hlacks⟩
      obtain ⟨hbefore, hafter⟩ := hread handle hfound habsent
      rw [hbefore, hafter]
      exact R.read_congr_of_idle (fun job hjob => hidle ⟨handle, job, hfound, hjob⟩)
        fun cell hcell => R.cell_after_put helements ha hsetter strict hshares hfound hcell
  · exact fun handle job hfound hjob => hread handle hfound (isAbsent_of_readsBy hjob)

/-- Nothing lies behind an array whose prototypes lack the property. -/
private theorem nothingBehind_of_lacks {E : Engine}
    (hchain : (s.heap.chain id).tail = [Store.arrayPrototype, Store.objectPrototype])
    (harray : E.lacks s Store.arrayPrototype name) (hobject : E.lacks s Store.objectPrototype name) :
    E.NothingBehind s id name := by
  intro p hp _
  rw [hchain] at hp
  obtain rfl | hp := List.mem_cons.1 hp
  · exact harray
  · obtain rfl := List.mem_singleton.1 hp
    exact hobject

/-- An engine without host types. -/
def typeless : Engine := ⟨.empty, .default, .byCost⟩

/-- An array with a value under the name `tag`. -/
def tagged : Store :=
  ((typeless.realm 0).put (.created 3) "tag" (.string "kept") true
    (Store.initial.newArray [.boolean true]).2).2

/-- The same array with this value under the name `label` as well. -/
def labelled : Store :=
  ((typeless.realm 0).define (.created 3) "label" (.sharedData 0 .all)
    (typeless.handOut tagged (.created 3) "tag").2).2

/-- The value with two names stays there when an element is put beyond the end, and changes under both
when it is written under one of them. -/
theorem get_after_put_beyond_end :
    let R := typeless.realm 0
    let id := ObjectId.created 3
    let t := (R.put id "+5" .null true labelled).2
    let u := (R.put id "tag" .null true labelled).2
    ((typeless.handOut tagged id "tag").1 = some (.sharedData 0 .all) ∧
      (labelled.elements? id).isSome ∧ typeless.NothingBehind labelled id "label" ∧
      ¬ R.RunsSetter labelled id "+5" .null ∧ ¬ R.RunsSetter labelled id "tag" .null) ∧
    R.get id "5" t = (.ok .null, t) ∧ (R.get id "label" t).1 = .ok (.string "kept") ∧
      R.get id "label" u = (.ok .null, u) := by
  intro R id t u
  have hbehind (name : String) : typeless.NothingBehind labelled id name :=
    nothingBehind_of_lacks rfl rfl rfl
  have helements : labelled.elements? id = some #[.boolean true] := rfl
  have hindex : Name.index? "+5" = some 5 := by decide +kernel
  have hfive : Name.DenotesIndex "5" 5 := Name.index?_eq_some_iff.1 (by decide +kernel)
  have hlabel (i : ℕ) : ¬ Name.DenotesIndex "label" i := by
    rw [← Name.index?_eq_some_iff, show Name.index? "label" = none by decide +kernel]
    simp
  -- there is no element under the first name, and a value in a cell under the others
  have hmissing : (typeless.ownProperty labelled id "+5").1 = none := by
    rw [ownProperty_element typeless helements hindex]
    rfl
  have htag : (typeless.ownProperty labelled id "tag").1 =
      some ⟨.sharedData 0 .all, some (id, "tag")⟩ := rfl
  have hfound : (typeless.ownProperty labelled id "label").1 =
      some ⟨.sharedData 0 .all, some (id, "label")⟩ := rfl
  have hsetter : ¬ R.RunsSetter labelled id "+5" .null := by
    rintro ⟨handle, job, hhandle, -⟩
    cases hmissing.symm.trans hhandle
  have hsetter' : ¬ R.RunsSetter labelled id "tag" .null := by
    rintro ⟨handle, job, hhandle, hjob⟩
    cases htag.symm.trans hhandle
    cases hjob
  have hidle : ¬ R.RunsGetter labelled id "label" := by
    rintro ⟨handle, job, hhandle, hjob⟩
    cases hfound.symm.trans hhandle
    cases hjob
  have hapart : ¬ R.SharesCell labelled id "+5" "label" := by
    rintro ⟨handle, handle', cell, hhandle, -⟩
    cases hmissing.symm.trans hhandle
  have harray : (labelled.elements? id).isSome := by rw [helements]; rfl
  -- all three clauses: one index, another property, and a shared value
  obtain ⟨hsame, -, -⟩ :=
    R.get_after_put harray (by decide) (by decide) (hbehind "5") hsetter true
  obtain ⟨-, -, hother⟩ :=
    R.get_after_put harray (by decide) (by decide) (hbehind "label") hsetter true
  obtain ⟨-, hshared, -⟩ :=
    R.get_after_put harray (by decide) (by decide) (hbehind "label") hsetter' true
  have hok : (R.put id "tag" .null true labelled).1 = .ok () := rfl
  exact ⟨⟨rfl, harray, hbehind "label", hsetter, hsetter'⟩,
    hsame 5 (Name.index?_eq_some_iff.1 hindex) hfive,
    (hother (by decide) (fun i _ => hlabel i) hapart).1 hidle,
    hshared ⟨_, _, 0, htag, rfl, rfl, hfound, rfl⟩ hok⟩

/-- A getter that reads another name of an object. -/
def reader (id : ObjectId) (name : String) : Program .script :=
  .ask (.enter (.getMember (.object id) name)) fun
    | .ok v => .done v
    | .error e => .fail e

/-- A field without an instance; a write to it clears another name of an object. -/
def clearing (id : ObjectId) (name : String) : Field :=
  .make "clearing" .scriptValue (fun _ => .done .undefined) <| some fun _ _ =>
    .ask (.enter (.setMember id name .null)) fun _ => .done ()

/-- An array of two elements. -/
def pair : Store := (Store.initial.newArray [.boolean true, .boolean false]).2

/-- The array with a getter under the name `b` that reads the name `a`. -/
def computed : Store :=
  ((typeless.realm 1).define (.created 3) "b" (.accessor (reader (.created 3) "a") .all) pair).2

/-- The array with a field under the name `a` whose setter clears the name `b`. -/
def cleared : Store :=
  ((typeless.realm 1).define (.created 3) "a" (.field (clearing (.created 3) "b") none) pair).2

/-- Two different names do not always keep apart. The spellings of one index are one element; a getter
reads what another name holds; a descriptor that was given out is one value under all its names; and
the setter of a host member writes to another name. -/
theorem names_that_share :
    let R := typeless.realm 1
    let id := ObjectId.created 3
    (R.NothingBehind pair id "1" ∧ (R.get id "1" pair).1 = .ok (.boolean false) ∧
      (R.get id "1" (R.put id "01" .null true pair).2).1 = .ok .null) ∧
    (R.NothingBehind computed id "b" ∧ (R.get id "b" computed).1 = .ok .undefined ∧
      (R.get id "b" (R.put id "a" .null true computed).2).1 = .ok .null) ∧
    (R.NothingBehind labelled id "label" ∧ (R.get id "label" labelled).1 = .ok (.string "kept") ∧
      (R.get id "label" (R.put id "tag" .null true labelled).2).1 = .ok .null) ∧
    (R.NothingBehind cleared id "b" ∧ (R.get id "b" cleared).1 = .ok .undefined ∧
      (R.get id "b" (R.put id "a" (.boolean true) true cleared).2).1 = .ok .null) := by
  intro R id
  have helements : pair.elements? id = some #[.boolean true, .boolean false] := rfl
  have hindex : Name.index? "1" = some 1 := by decide +kernel
  have hindex' : Name.index? "01" = some 1 := by decide +kernel
  have hold : (R.get id "1" pair).1 = .ok (.boolean false) :=
    congrArg Prod.fst (get_of_own (ownProperty_element R.toEngine helements hindex) rfl)
  -- the element is computed from the theorem, the other three cases by running them
  have hnew := R.get_after_put_of_same helements hindex' hindex .null true
  exact ⟨⟨nothingBehind_of_lacks rfl rfl rfl, hold, congrArg Prod.fst hnew⟩,
    ⟨nothingBehind_of_lacks rfl rfl rfl, rfl, rfl⟩, ⟨nothingBehind_of_lacks rfl rfl rfl, rfl, rfl⟩,
    ⟨nothingBehind_of_lacks rfl rfl rfl, rfl, rfl⟩⟩

end Realm

end Membrane
