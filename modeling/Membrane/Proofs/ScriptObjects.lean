import Membrane.Proofs.Definitions
import Membrane.Proofs.EndlessConversion
import Membrane.Proofs.Handles
import Membrane.Proofs.Jobs
import Membrane.Proofs.Severance

/-!
# Objects of scripts

Plain objects, functions and arrays keep their properties in slots, each under exactly its name, apart
from the length and the elements of an array (`Store.name_cases`). A write and a deletion under a name
that has a slot look at that slot alone. What stands there can be anything that was defined. If it is a
host member, a write runs its setter, and that can do anything (`Realm.RunsSetter`). Every other write
is refused and changes nothing, or leaves the value in the slot or in the cell that the slot shares with
others (`Realm.SlotWrite`).

## Key results

- `Realm.slotWrite_put`, `Realm.put_length_eq`, `Realm.put_element`: all writes that run no setter
- `Realm.delete_slot`, `Realm.delete_length`, `Realm.delete_index`: all deletions
-/

namespace Membrane

namespace Descriptor

/-- The cell that keeps what a write changes of a shared descriptor. -/
def cell? : Descriptor → Option Nat
  | .sharedData cell _ | .sharedProperty _ _ cell => some cell
  | _ => none

/-- The value that a descriptor keeps itself. -/
def kept? : Descriptor → Option ScriptValue
  | .data value _ => some value
  | .property _ _ shadow => shadow
  | _ => none

variable {d : Descriptor} {value : ScriptValue} {cell : Nat}

/-- What keeps its value in a cell is present. -/
theorem isAbsent_of_cell? (h : d.cell? = some cell) : d.isAbsent = false := by
  cases d <;> first | rfl | cases h

end Descriptor

/-! ### Names -/

namespace Store

variable {s : Store} {id : ObjectId} {name : String} {elements : Array ScriptValue}

/-- The names of an array that have slots are neither the length nor elements. -/
theorem isSlotName_iff (helements : s.elements? id = some elements) :
    s.isSlotName id name ↔ name ≠ "length" ∧ Name.index? name = none := by
  simp [isSlotName, elements?_eq_some_iff.1 helements, Name.isIndex]

/-- Arrays are no host objects. -/
theorem not_isHostObject_of_elements? (helements : s.elements? id = some elements) :
    ¬ s.isHostObject id := by
  simp [isHostObject, elements?_eq_some_iff.1 helements]

/-- What has elements is an object of the store. -/
theorem isSome_of_elements? (helements : s.elements? id = some elements) : (s.object? id).isSome := by
  obtain ⟨o, ho, -⟩ := Option.map_eq_some_iff.1 (elements?_eq_some_iff.1 helements)
  rw [ho]
  rfl

/-- Slots can change, but an array keeps its elements. -/
theorem elements?_modifySlots (s : Store) (id : ObjectId)
    (f : SlotTable Descriptor → SlotTable Descriptor) :
    (s.modifySlots id f).elements? id = s.elements? id := by
  simp only [elements?, s.sort?_modifySlots]

/-- New elements leave the slots as they are. -/
theorem slots_setElements (s : Store) (id : ObjectId) (elements : Array ScriptValue) :
    (s.setElements id elements).slots id = s.slots id := by
  show (((s.heap.modify id _).object? id).map ScriptObject.slots).getD .empty = _
  rw [Heap.object?_modify_self, Option.map_map]
  rfl

/-- A name of an object of a script has a slot of its own, or it is the length or an element of an
array. -/
theorem name_cases (hscript : ¬ s.isHostObject id) (name : String) :
    s.isSlotName id name ∨ ∃ elements, s.elements? id = some elements ∧
      (name = "length" ∨ ∃ i, Name.index? name = some i) := by
  unfold isSlotName
  unfold isHostObject at hscript
  split
  · -- an array keeps its length and its elements outside the table
    next elements hsort =>
    have helements := elements?_eq_some_iff.2 hsort
    by_cases hlength : name = "length"
    · exact .inr ⟨elements, helements, .inl hlength⟩
    · cases hindex : Name.index? name with
      | some i => exact .inr ⟨elements, helements, .inr ⟨i, rfl⟩⟩
      | none => exact .inl (by simp [hlength, Name.isIndex, hindex])
  · next target hsort => simp [hsort] at hscript
  · exact .inl rfl

end Store

/-! ### Requests and reads -/

namespace Engine

open Store

variable {E : Engine} {s : Store} {id : ObjectId} {name : String}

/-- A request for a name that has a slot finds what stands there. -/
theorem ownProperty_slot (E : Engine) (hscript : ¬ s.isHostObject id) (hname : s.isSlotName id name) :
    E.ownProperty s id name = (tableSlot s id name, s) := by
  unfold isHostObject at hscript
  unfold ownProperty
  split
  · next elements hsort =>
    obtain ⟨hlength, hindex⟩ := (isSlotName_iff (elements?_eq_some_iff.2 hsort)).1 hname
    simp [hlength, hindex]
  · next target hsort => simp [hsort] at hscript
  · next type hsort => simp [hsort] at hscript
  · rfl

end Engine

namespace Realm

open Action Store

variable {R : Realm} {s : Store} {id : ObjectId} {name : String} {d : Descriptor}
  {value : ScriptValue} {elements : Array ScriptValue} {cell : Nat} {ε : Type}

/-- A value in a cell is read without running anything. -/
theorem read_of_cell (R : Realm) (h : d.cell? = some cell) (hvalue : s.heap.cell cell = some value) :
    R.read d s = (.ok value, s) := by
  cases d with
  | sharedData c flags =>
    cases h
    simp only [read, bind_apply, getStore, hvalue]
    rfl
  | sharedProperty member target c =>
    cases h
    simp only [read, bind_apply, getStore, hvalue]
    rfl
  | _ => cases h

/-- A descriptor that a write puts back has no cell. -/
private theorem cell?_of_sameSort {d' : Descriptor} (h : d.sameSort d') : d.cell? = none := by
  cases d <;> first | rfl | cases h

/-- What is found under a name that has a slot, unless it is marked as absent. -/
private theorem present_slot (R : Realm) (hscript : ¬ s.isHostObject id)
    (hname : s.isSlotName id name) :
    (R.present id name : Action ε (Option Handle)) s =
      (.ok ((((s.slots id).get? name).filter (!·.isAbsent)).map (⟨·, some (id, name)⟩)), s) := by
  simp only [present, own, bind_apply, Action.state, R.ownProperty_slot hscript hname, pure_apply,
    Engine.tableSlot, Option.filter_map]
  rfl

/-- Under a name that has a slot, arrays are written as other objects are. -/
private theorem put_of_isSlotName (R : Realm) (hscript : ¬ s.isHostObject id)
    (hname : s.isSlotName id name) (value : ScriptValue) (strict : Bool) :
    R.put id name value strict s = R.ordinaryPut id name value strict s := by
  unfold isHostObject at hscript
  simp only [put, bind_apply, getStore]
  -- an array goes the ordinary way for all but its length and its indices
  cases hsort : s.sort? id with
  | none => rfl
  | some sort =>
    cases sort with
    | array elements =>
      obtain ⟨hlength, hindex⟩ := (isSlotName_iff (elements?_eq_some_iff.2 hsort)).1 hname
      simp [arrayPut, hlength, hindex]
    | wrapper target => simp [hsort] at hscript
    | typeReference type => simp [hsort] at hscript
    | _ => rfl

/-- A write of the value runs the setter of a host member that stands under the name. -/
def RunsSetter (R : Realm) (s : Store) (id : ObjectId) (name : String) (value : ScriptValue) : Prop :=
  ∃ handle job, (R.toEngine.ownProperty s id name).1 = some handle ∧
    R.WritesBy value s handle.descriptor job

/-- What a write comes to under a name that has a slot, in which `found` stands, if it runs no
setter. -/
inductive SlotWrite (s : Store) (id : ObjectId) (name : String) (value : ScriptValue) (strict : Bool)
    (found : Option Descriptor) : Outcome BridgeError Unit × Store → Prop where
  /-- The property is read-only. -/
  | readOnly {d : Descriptor} (hfound : found = some d) (hreadOnly : d.isWritable = false) :
      SlotWrite s id name value strict found
        (if strict then .error (.invocation (.readOnly name)) else .ok (), s)
  /-- The host member does not take the value. -/
  | refused {d : Descriptor} (hfound : found = some d) (hmember : ¬ d.isScript)
      (hwritable : d.isWritable) {outcome : Outcome BridgeError Unit} (hfailed : outcome ≠ .ok ()) :
      SlotWrite s id name value strict found (outcome, s)
  /-- The slot keeps the value. -/
  | slot {d : Descriptor} (hkept : d.kept? = some value)
      (hunshared : ∀ old, found = some old → old.cell? = none) :
      SlotWrite s id name value strict found (.ok (), s.modifySlots id (·.setLive name d))
  /-- The cell keeps the value that the slot shares with others. -/
  | cell {d : Descriptor} {cell : Nat} (hfound : found = some d) (hwritable : d.isWritable)
      (hcell : d.cell? = some cell) :
      SlotWrite s id name value strict found (.ok (), s.setCell cell (some value))

/-- A conversion gives a value, or fails, or does not end; it leaves the store as it is. -/
private theorem convertTo_cases (R : Realm) (value : ScriptValue) (target : TypeId) (s : Store) :
    (∃ v, R.convertTo value target s = (.ok v, s)) ∨
      (∃ e, R.convertTo value target s = (.error e, s)) ∨
        R.convertTo value target s = (.exhausted, s) := by
  simp only [convertTo, bind_apply, getStore]
  cases s.convertTo? R.types value target with
  | none => exact .inr (.inr rfl)
  | some result =>
    cases result with
    | ok v => exact .inl ⟨v, rfl⟩
    | error e => exact .inr (.inl ⟨e, rfl⟩)

/-- A write that has to convert the value first fails without a trace if the value is refused. -/
private theorem converting_cases (R : Realm) (value : ScriptValue) (target : TypeId) (s : Store)
    {next : HostValue → Action BridgeError Descriptor} :
    (∃ v, R.convertTo value target s = (.ok v, s)) ∨
      ∃ outcome, ((R.convertTo value target).mapError .conversion >>= next) s = (outcome, s) ∧
        ∀ d', outcome ≠ .ok d' := by
  rw [bind_apply]
  unfold mapError
  -- a value that is not converted ends the write before the member is asked
  obtain hok | ⟨e, he⟩ | hendless := R.convertTo_cases value target s
  · exact .inl hok
  · rw [he]
    exact .inr ⟨.error (.conversion e), rfl, by simp⟩
  · rw [hendless]
    exact .inr ⟨.exhausted, rfl, by simp⟩

/-- A write to a property that runs no setter keeps the value as the shadow. -/
private theorem writeProperty_cases (R : Realm) {member : Property} {set : Option HostRef → HostValue → Program .nothing}
    (hset : member.set = some set) (target : Option HostRef) (shadow : Option ScriptValue)
    (hrefused : ∀ v, R.convertTo value member.type s ≠ (.ok v, s)) :
    R.writeProperty member target shadow value s = (.ok (some value), s) ∨
      R.writeProperty member target shadow value s = (.exhausted, s) := by
  simp only [writeProperty, hset, bind_apply, capture_apply]
  -- a value that is not converted is kept in front of the property instead
  obtain ⟨v, hv⟩ | ⟨e, he⟩ | hendless := R.convertTo_cases value member.type s
  · exact absurd hv (hrefused v)
  · rw [he]
    exact .inl rfl
  · rw [hendless]
    exact .inr rfl

/-- A write to a descriptor ends in one of these ways if it runs no setter: nothing is made of a value
that a host member does not take, and otherwise the descriptor or its cell keeps the value. -/
private theorem write_cases (R : Realm) (hwritable : d.isWritable)
    (hsetter : ∀ job, ¬ R.WritesBy value s d job) :
    (¬ d.isScript ∧ ∃ outcome, R.write d value s = (outcome, s) ∧ ∀ d', outcome ≠ .ok d') ∨
    (∃ d', R.write d value s = (.ok d', s) ∧ d'.kept? = some value ∧ d.sameSort d') ∨
    (∃ cell, d.cell? = some cell ∧ R.write d value s = (.ok d, s.setCell cell (some value))) := by
  -- by the sort of the descriptor; the read-only ones are excluded by `hwritable`
  cases d with
  | data old flags => exact .inr (.inl ⟨.data value flags, rfl, rfl, rfl⟩)
  | accessor get flags => cases hwritable
  | count target => cases hwritable
  | absent => cases hwritable
  | sharedData cell flags => exact .inr (.inr ⟨cell, rfl, rfl⟩)
  | field member target =>
    obtain ⟨set, hset⟩ := Option.isSome_iff_exists.1 (show member.set.isSome from hwritable)
    simp only [write, hset]
    obtain ⟨v, hv⟩ | hfailed := R.converting_cases value member.type s
    · exact absurd (.field hset hv) (hsetter _)
    · exact .inl ⟨Bool.false_ne_true, hfailed⟩
  | property member target shadow =>
    obtain ⟨set, hset⟩ := Option.isSome_iff_exists.1 (show member.set.isSome from hwritable)
    have hrefused (v : HostValue) : R.convertTo value member.type s ≠ (.ok v, s) :=
      fun hv => hsetter _ (.property hset hv)
    simp only [write, bind_apply]
    obtain hkept | hendless := R.writeProperty_cases hset target shadow hrefused
    · rw [hkept]
      exact .inr (.inl ⟨.property member target (some value), rfl, rfl, rfl⟩)
    · rw [hendless]
      exact .inl ⟨Bool.false_ne_true, .exhausted, rfl, by simp⟩
  | sharedProperty member target cell =>
    obtain ⟨set, hset⟩ := Option.isSome_iff_exists.1 (show member.set.isSome from hwritable)
    have hrefused (v : HostValue) : R.convertTo value member.type s ≠ (.ok v, s) :=
      fun hv => hsetter _ (.sharedProperty hset hv)
    simp only [write, bind_apply, getStore]
    obtain hkept | hendless := R.writeProperty_cases hset target (s.heap.cell cell) hrefused
    · rw [hkept]
      exact .inr (.inr ⟨cell, rfl, rfl⟩)
    · rw [hendless]
      exact .inl ⟨Bool.false_ne_true, .exhausted, rfl, by simp⟩
  | index member target key =>
    obtain ⟨set, hset⟩ := Option.isSome_iff_exists.1 (show member.set.isSome from hwritable)
    simp only [write, hset]
    cases hkey : R.indexKey member key with
    | error e => exact .inl ⟨Bool.false_ne_true, .error (.conversion e), rfl, by simp⟩
    | ok k =>
      obtain ⟨v, hv⟩ | hfailed := R.converting_cases value member.valueType s
      · exact absurd (.index hset hkey hv) (hsetter _)
      · exact .inl ⟨Bool.false_ne_true, hfailed⟩

/-- A write under a name that has a slot, if it runs no setter. -/
theorem slotWrite_put (R : Realm) (hscript : ¬ s.isHostObject id) (hname : s.isSlotName id name)
    (hsetter : ¬ R.RunsSetter s id name value) (strict : Bool) :
    SlotWrite s id name value strict ((s.slots id).get? name) (R.put id name value strict s) := by
  rw [put_of_isSlotName R hscript hname]
  simp only [ordinaryPut, bind_apply, present_slot R hscript hname]
  -- a free slot, one whose property has been deleted, and one with a property
  cases hslot : (s.slots id).get? name with
  | none => exact .slot rfl (by simp)
  | some d =>
    cases habsent : d.isAbsent with
    | true =>
      rw [Option.filter_some, habsent]
      refine .slot rfl fun old hold => ?_
      cases hold
      cases d <;> first | rfl | cases habsent
    | false =>
      -- the setter of the member in the slot is the one that `hsetter` rules out
      have hquiet (job : Job) : ¬ R.WritesBy value s d job := by
        refine fun hwrites => hsetter ⟨⟨d, some (id, name)⟩, job, ?_, hwrites⟩
        rw [R.ownProperty_slot hscript hname, Engine.tableSlot, hslot]
        rfl
      rw [Option.filter_some, habsent]
      simp only [Bool.not_false, if_true, Option.map_some, putThrough, writeThrough]
      -- a read-only property fails in strict mode and ignores the value otherwise
      cases hwritable : d.isWritable with
      | false =>
        have hreadOnly : SlotWrite s id name value strict (some d)
            (if strict then .error (.invocation (.readOnly name)) else .ok (), s) :=
          .readOnly rfl hwritable
        cases strict <;> exact hreadOnly
      | true =>
        simp only [if_true, bind_apply]
        obtain ⟨hmember, outcome, hwrite, hfailed⟩ | ⟨d', hwrite, hkept, hsort⟩ | ⟨cell, hcell, hwrite⟩ :=
          R.write_cases hwritable hquiet
        · rw [hwrite]
          cases outcome with
          | ok d' => exact absurd rfl (hfailed d')
          | error e => exact .refused rfl hmember hwritable (by simp)
          | panicked payload => exact .refused rfl hmember hwritable (by simp)
          | exhausted => exact .refused rfl hmember hwritable (by simp)
        · -- the slot still has what was found in it, so what the write gave is put back
          have hback : s.putBack id name d' = s.modifySlots id (·.setLive name d') := by
            simp only [putBack, hslot, hsort, if_true]
          rw [hwrite]
          show SlotWrite s id name value strict (some d) (.ok (), s.putBack id name d')
          rw [hback]
          refine .slot hkept fun old hold => ?_
          cases hold
          exact cell?_of_sameSort hsort
        · -- a cell was written, so the slot is given back the descriptor it has
          have hback : (s.setCell cell (some value)).putBack id name d = s.setCell cell (some value) := by
            have hslot' : ((s.setCell cell (some value)).slots id).get? name = some d := hslot
            simp only [putBack, hslot']
            cases d <;> first | rfl | cases hcell
          rw [hwrite]
          show SlotWrite s id name value strict (some d)
            (.ok (), (s.setCell cell (some value)).putBack id name d)
          rw [hback]
          exact .cell rfl hwritable hcell

end Realm

end Membrane
