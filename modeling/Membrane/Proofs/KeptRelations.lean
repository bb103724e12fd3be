import Membrane.Proofs.Agreement
import Membrane.Proofs.OwnProperties

/-!
# Relations that the whole engine keeps

A relation that changes of objects do not break either (`Engine.Admits`) is kept by writes,
deletions and definitions, and so by every entry into the engine
(`Engine.Kept.performWithin_agree`).
-/

namespace Membrane

/-! ### Writing, deleting and defining -/

namespace Realm.Alike

open Action

variable {W : Store → Store → Prop} {R R' : Realm} {handle : Handle} {value : ScriptValue}
  {P : Descriptor → Prop}

/-- A write keeps the relation if what it puts back keeps it; `P` tells what that can be. -/
theorem writeThrough_agree (h : R.Alike W R') (hP : Yields P (R.write handle.descriptor value))
    (hback : ∀ owner key d, handle.home = some (owner, key) → P d →
      ∀ s t, W s t → W (s.putBack owner key d) (t.putBack owner key d)) :
    Agree W (R.writeThrough handle value) (R'.writeThrough handle value) := by
  refine (h.write_agree handle.descriptor value).bindOf hP fun d hd => ?_
  cases hslot : handle.home with
  | none => exact (agree_pure ()).bind fun _ => agree_pure _
  | some slot => exact (agree_modify (hback slot.1 slot.2 d hslot hd)).bind fun _ => agree_pure _

/-- A write to what has been found, if it may be put back. -/
theorem putThrough_agree (h : R.Alike W R') (hP : Yields P (R.write handle.descriptor value))
    (hback : ∀ owner key d, handle.home = some (owner, key) → P d →
      ∀ s t, W s t → W (s.putBack owner key d) (t.putBack owner key d))
    (name : String) (strict : Bool) :
    Agree W (R.putThrough handle name value strict) (R'.putThrough handle name value strict) := by
  unfold Realm.putThrough
  split
  · exact (h.writeThrough_agree hP hback).bind fun _ => agree_pure ()
  · -- what cannot be written is an error in both worlds, or nothing in both
    split
    · exact agree_throw _
    · exact agree_pure ()

end Realm.Alike

/-- A relation that no change of an object that `ok` admits breaks either. -/
structure Engine.Admits (W : Store → Store → Prop) (ok : ObjectId → Prop) (E E' : Engine) : Prop
    extends E.Invariant W E' where
  slots : ∀ s t id f, ok id → W s t → W (s.modifySlots id f) (t.modifySlots id f)
  elements : ∀ s t id elements, ok id → W s t →
    W (s.setElements id elements) (t.setElements id elements)

namespace Engine.Admits

open Action

variable {W : Store → Store → Prop} {ok : ObjectId → Prop} {R R' : Realm} {ε : Type}
  {id : ObjectId}

/-- Both slots get what the write has made of the descriptor. -/
private theorem putBack (hW : R.toEngine.Admits W ok R'.toEngine) (h : R.Alike W R') {s t : Store}
    (hst : W s t) (hid : ok id) (key : String) (d : Descriptor) :
    W (s.putBack id key d) (t.putBack id key d) := by
  have hslots : t.slots id = s.slots id := by
    simp only [Store.slots, Store.object?, h.heap_eq hst]
  unfold Store.putBack
  rw [hslots]
  -- only a slot that is still in use is written back to
  split
  · split
    · exact hW.slots s t id _ hid hst
    · exact hst
  · exact hst

/-- A handle that a write puts back into an object that `ok` admits. -/
private def Homely (ok : ObjectId → Prop) (h : Handle) : Prop :=
  ∀ owner key, h.home = some (owner, key) → ok owner

/-- What is present in an admitted object stands in a slot of that object, or in none. -/
private theorem yields_present (hid : ok id) (name : String) :
    Yields (fun found => ∀ handle ∈ found, Homely ok handle)
      (R.present id name : Action ε (Option Handle)) := by
  intro s found hfound handle hhandle owner key hhome
  cases hfound
  -- what is present was found by the request, and that stands in a slot of the object or in none
  have hown := (Option.filter_eq_some_iff.1 hhandle).1
  rw [home_of_ownProperty hown hhome]
  exact hid

/-- A write through a descriptor of an admitted object. -/
theorem writeThrough_agree (hW : R.toEngine.Admits W ok R'.toEngine) (h : R.Alike W R')
    {handle : Handle} (hhome : Homely ok handle) (value : ScriptValue) :
    Agree W (R.writeThrough handle value) (R'.writeThrough handle value) :=
  h.writeThrough_agree (yields_any _) fun owner key d hslot _ _ _ hst =>
    hW.putBack h hst (hhome owner key hslot) key d

/-- A write to what has been found in an admitted object. -/
private theorem putThrough_agree (hW : R.toEngine.Admits W ok R'.toEngine) (h : R.Alike W R')
    {handle : Handle} (hhome : Homely ok handle) (name : String) (value : ScriptValue)
    (strict : Bool) :
    Agree W (R.putThrough handle name value strict) (R'.putThrough handle name value strict) :=
  h.putThrough_agree (yields_any _) (fun owner key d hslot _ _ _ hst =>
    hW.putBack h hst (hhome owner key hslot) key d) name strict

/-- A value put into a slot of an admitted object. -/
private theorem setPlain_agree (hW : R.toEngine.Admits W ok R'.toEngine) (hid : ok id)
    (key : String) (value : ScriptValue) :
    Agree W (Realm.setPlain id key value : Action ε Unit) (Realm.setPlain id key value) :=
  agree_modify fun s t hst => hW.slots s t id _ hid hst

/-- A write to an admitted object that is not a host object. -/
private theorem ordinaryPut_agree (hW : R.toEngine.Admits W ok R'.toEngine) (h : R.Alike W R')
    (hid : ok id) (name : String) (value : ScriptValue) (strict : Bool) :
    Agree W (R.ordinaryPut id name value strict) (R'.ordinaryPut id name value strict) := by
  refine (h.present_agree id name).bindOf (yields_present hid name) fun found hhome => ?_
  cases found with
  | some handle => exact hW.putThrough_agree h (hhome handle rfl) name value strict
  | none => exact hW.setPlain_agree hid name value

/-- A write after the lookup, where both engines treat new names alike. -/
private theorem putFound_agree (hW : R.toEngine.Admits W ok R'.toEngine) (h : R.Alike W R')
    (hid : ok id) (name : String) (value : ScriptValue) (strict : Bool) {found : Option Handle}
    (hhome : ∀ handle ∈ found, Homely ok handle) :
    Agree W (R.putFound id name value strict found) (R'.putFound id name value strict found) := by
  cases found with
  | some handle => exact hW.putThrough_agree h (hhome handle rfl) name value strict
  | none =>
    simp only [Realm.putFound, hW.expando]
    split
    · exact agree_throw _
    · split
      · exact hW.setPlain_agree hid _ value
      · exact agree_pure ()

/-- A write to an admitted host object. -/
private theorem hostPut_agree (hW : R.toEngine.Admits W ok R'.toEngine) (h : R.Alike W R')
    (hid : ok id) (name : String) (value : ScriptValue) (strict : Bool) :
    Agree W (R.hostPut id name value strict) (R'.hostPut id name value strict) := by
  refine agree_getStore h.forget (fun _ => rfl) (fun _ => rfl) fun s => ?_
  split
  · exact hW.setPlain_agree hid _ value
  · refine (h.present_agree id name).bindOf (yields_present hid name) fun found hhome => ?_
    exact hW.putFound_agree h hid name value strict hhome

/-- A change of the length of an admitted array. -/
private theorem setLength_agree (hW : R.toEngine.Admits W ok R'.toEngine) (hid : ok id)
    (elements : Array ScriptValue) (size : Nat) :
    Agree W (Realm.setLength id elements size : Action ε Unit)
      (Realm.setLength id elements size) := by
  unfold Realm.setLength
  split
  · exact agree_panic _
  · exact agree_modify fun s t hst => hW.elements s t id _ hid hst

/-- A write to an admitted array. -/
private theorem arrayPut_agree (hW : R.toEngine.Admits W ok R'.toEngine) (h : R.Alike W R')
    (hid : ok id) (elements : Array ScriptValue) (name : String) (value : ScriptValue)
    (strict : Bool) :
    Agree W (R.arrayPut id elements name value strict)
      (R'.arrayPut id elements name value strict) := by
  unfold Realm.arrayPut
  split
  · split
    · exact hW.setLength_agree hid elements _
    · exact agree_pure ()
  · split
    · exact agree_modify fun s t hst => hW.elements s t id _ hid hst
    · exact hW.ordinaryPut_agree h hid name value strict

/-- A write to an admitted object. -/
theorem put_agree (hW : R.toEngine.Admits W ok R'.toEngine) (h : R.Alike W R') (hid : ok id)
    (name : String) (value : ScriptValue) (strict : Bool) :
    Agree W (R.put id name value strict) (R'.put id name value strict) := by
  refine agree_getStore h.forget (fun _ => rfl) (fun _ => rfl) fun s => ?_
  -- both worlds see the same sort
  split
  · exact hW.arrayPut_agree h hid _ name value strict
  · exact hW.hostPut_agree h hid name value strict
  · exact hW.hostPut_agree h hid name value strict
  · exact hW.ordinaryPut_agree h hid name value strict

/-- A deletion from an admitted object that is not a host object. -/
private theorem ordinaryDelete_agree (hW : R.toEngine.Admits W ok R'.toEngine) (h : R.Alike W R')
    (hid : ok id) (name : String) (strict : Bool) :
    Agree W (R.ordinaryDelete id name strict) (R'.ordinaryDelete id name strict) := by
  refine (h.own_agree id name).bind fun found => ?_
  cases found with
  | none => exact agree_pure true
  | some handle =>
    dsimp only
    split
    · exact (agree_modify fun s t hst => hW.slots s t id _ hid hst).bind fun _ => agree_pure true
    · split
      · exact agree_throw _
      · exact agree_pure false

/-- A deletion from an admitted object. -/
theorem delete_agree (hW : R.toEngine.Admits W ok R'.toEngine) (h : R.Alike W R') (hid : ok id)
    (name : String) (strict : Bool) :
    Agree W (R.delete id name strict) (R'.delete id name strict) := by
  refine agree_getStore h.forget (fun _ => rfl) (fun _ => rfl) fun s => ?_
  -- both stores have the same object, so the same way is taken
  split
  · split
    · exact agree_pure false
    · split
      · exact (agree_modify fun s t hst => hW.elements s t id _ hid hst).bind fun _ =>
          agree_pure true
      · exact hW.ordinaryDelete_agree h hid name strict
  · exact (agree_modify fun s t hst => hW.slots s t id _ hid hst).bind fun _ => agree_pure true
  · exact (agree_modify fun s t hst => hW.slots s t id _ hid hst).bind fun _ => agree_pure true
  · exact hW.ordinaryDelete_agree h hid name strict

/-- A definition on an admitted object. -/
theorem define_agree (hW : R.toEngine.Admits W ok R'.toEngine) (h : R.Alike W R') (hid : ok id)
    (name : String) (d : Descriptor) :
    Agree W (R.define id name d) (R'.define id name d) := by
  unfold Realm.define
  rw [hW.types]
  refine agree_getStore h.forget (fun _ => rfl) (fun _ => rfl) fun s => ?_
  split
  · exact agree_throw _
  · exact (agree_modify fun s t hst => hW.slots s t id _ hid hst).bind fun _ => agree_pure true

end Engine.Admits

/-! ### Entries -/

/-- The object that an entry writes to, deletes from or defines on. -/
def Hook.changed? : Hook → Option ObjectId
  | .setMember base .. | .deleteMember base .. | .defineData base .. => some base
  | _ => none

/-- An entry keeps the relation if what it does to an object itself keeps it. -/
theorem Realm.Alike.perform_agree {W : Store → Store → Prop} {R R' : Realm} (h : R.Alike W R')
    (hook : Hook)
    (hput : ∀ id name value, hook.changed? = some id →
      Action.Agree W (R.put id name value R.options.strict) (R'.put id name value R.options.strict))
    (hdelete : ∀ id name, hook.changed? = some id →
      Action.Agree W (R.delete id name R.options.strict) (R'.delete id name R.options.strict))
    (hdefine : ∀ id name value flags, hook.changed? = some id →
      Action.Agree W (R.define id name (.data value flags)) (R'.define id name (.data value flags))) :
    Action.Agree W (R.perform hook) (R'.perform hook) := by
  -- only a write, a deletion and a definition need more than that both worlds look alike
  cases hook with
  | getMember base name => exact h.getMember_agree base name
  | setMember base name value =>
    simp only [Realm.perform, h.strict]
    exact hput base name value rfl
  | deleteMember base name =>
    simp only [Realm.perform, h.strict]
    exact hdelete base name rfl
  | defineData base name value flags => exact hdefine base name value flags rfl
  | call callee this args => exact h.call_agree callee this args
  | callMethod base name args => exact h.callMethod_agree base name args
  | construct callee args => exact h.construct_agree callee args
  | instanceOf value callee => exact h.instanceOf_agree value callee
  | arrayLike base => exact h.arrayLike_agree base

/-- Entries keep the relation that change no other objects themselves than those that `ok` admits. -/
theorem Engine.Admits.perform_agree {W : Store → Store → Prop} {ok : ObjectId → Prop}
    {R R' : Realm} (hW : R.toEngine.Admits W ok R'.toEngine) (h : R.Alike W R') {hook : Hook}
    (hok : ∀ id, hook.changed? = some id → ok id) :
    Action.Agree W (R.perform hook) (R'.perform hook) :=
  h.perform_agree hook
    (fun id name value hid => hW.put_agree h (hok id hid) name value _)
    (fun id name hid => hW.delete_agree h (hok id hid) name _)
    (fun id name _ _ hid => hW.define_agree h (hok id hid) name _)

/-- A relation that writing, deleting and defining keep as well. -/
structure Engine.Kept (W : Store → Store → Prop) (E E' : Engine) : Prop
    extends E.Invariant W E' where
  put : ∀ {R R' : Realm}, R.toEngine = E → R'.toEngine = E' → R.Alike W R' →
    ∀ id name value strict,
      Action.Agree W (R.put id name value strict) (R'.put id name value strict)
  delete : ∀ {R R' : Realm}, R.toEngine = E → R'.toEngine = E' → R.Alike W R' →
    ∀ id name strict, Action.Agree W (R.delete id name strict) (R'.delete id name strict)
  define : ∀ {R R' : Realm}, R.toEngine = E → R'.toEngine = E' → R.Alike W R' →
    ∀ id name value flags, Action.Agree W (R.define id name (.data value flags))
      (R'.define id name (.data value flags))

namespace Engine.Kept

open Action

variable {W : Store → Store → Prop} {E E' : Engine}

/-- An entry into both worlds. -/
theorem perform_agree {R R' : Realm} (hW : R.toEngine.Kept W R'.toEngine) (h : R.Alike W R')
    (hook : Hook) : Agree W (R.perform hook) (R'.perform hook) :=
  h.perform_agree hook
    (fun id name value _ => hW.put rfl rfl h id name value _)
    (fun id name _ => hW.delete rfl rfl h id name _)
    (fun id name value flags _ => hW.define rfl rfl h id name value flags)

/-- Every entry into the engine keeps the relation, and so does all that host code does through
further entries. -/
theorem performWithin_agree (hW : E.Kept W E') (depth : Nat) (hook : Hook) :
    Agree W (E.performWithin depth hook) (E'.performWithin depth hook) := by
  -- host code comes back into the engine with one entry less to spend
  induction depth generalizing hook with
  | zero => exact fun _ _ hst => ⟨rfl, hst⟩
  | succ depth ih =>
    have halike : Realm.Alike W ⟨E, E.performWithin depth⟩ ⟨E', E'.performWithin depth⟩ :=
      { hW.toInvariant with enter := ih }
    exact @perform_agree W ⟨E, _⟩ ⟨E', _⟩ hW halike hook

/-- The engines at work are alike. -/
theorem realm_alike (hW : E.Kept W E') (depth : Nat) : (E.realm depth).Alike W (E'.realm depth) :=
  { hW.toInvariant with enter := hW.performWithin_agree depth }

end Engine.Kept

/-- What no change of any object breaks is kept by the whole engine. -/
theorem Engine.Admits.kept {W : Store → Store → Prop} {E E' : Engine}
    (hW : E.Admits W (fun _ => True) E') : E.Kept W E' where
  toInvariant := hW.toInvariant
  -- every object is admitted
  put := by
    rintro R R' rfl rfl h id name value strict
    exact hW.put_agree h trivial name value strict
  delete := by
    rintro R R' rfl rfl h id name strict
    exact hW.delete_agree h trivial name strict
  define := by
    rintro R R' rfl rfl h id name value flags
    exact hW.define_agree h trivial name _

end Membrane
