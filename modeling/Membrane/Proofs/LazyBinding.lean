import Membrane.Proofs.EndlessConversion
import Membrane.Proofs.Steadiness
import Membrane.Proofs.Strictness

/-!
# Lazy binding does not show

The slot of a name is bound to a host member by the first request for the name, whatever that is
for. So a lookup in between binds some slots earlier than they would be bound without it, and makes
some functions for host methods earlier. No entry into the engine shows that: written, deleted and
defined names end up in the same slots (`Realm.Transparent.perform_steady`), for every sort of
member, and what is not bound at all, such as the elements of an indexer, is found anew each time.

## Key results

- `Engine.transparent_realm`: the entries into an engine are steady
- `Engine.lookups_unnoticed`: lookups change no answer and nothing outside the heap
-/

namespace Membrane

open Store Action

/-! ### Writing, deleting and defining -/

/-- A descriptor is put back into the same slot on both sides. -/
theorem Store.Ahead.putBack {types : Registry} {s t : Store} (h : s.Ahead types t) {id : ObjectId}
    {key : String} (hobject : (s.object? id).isSome) (hused : s.isHostObject id → s.Used id key)
    {d : Descriptor} (hd : d.GroundedIn s) :
    Onward types s (s.putBack id key d) (t.putBack id key d) := by
  have hid := ObjectId.groundedIn_of_isSome hobject
  -- the slot is in use, so nothing is foreseen of it and both stores agree
  have hslot : (t.slots id).get? key = (s.slots id).get? key := by
    unfold SlotTable.get?
    by_cases hhost : s.isHostObject id
    · rw [h.state_of_isSome hid (hused hhost).2]
    · rw [h.state_of_other hid hhost]
  unfold Store.putBack
  rw [hslot]
  split
  · split
    · exact h.setLive hid key hd
    · exact h.onward
  · exact h.onward

namespace Realm.Transparent

variable {R : Realm} {s t : Store} {ε : Type} {v : ScriptValue} {id : ObjectId} {handle : Handle}
  {args : List ScriptValue}

/-- A lookup finds the same in both stores. -/
theorem own_steady (hst : s.Ahead R.types t) (hid : id.GroundedIn s) (name : String) :
    Steady R.types (fun u found => ∀ handle, found = some handle → Handle.GroundedIn u handle) s t
      (R.own id name : Action ε (Option Handle)) :=
  steady_state (Engine.own_ahead hst hid name)

/-- So does one that takes what is absent for nothing. -/
theorem present_steady (hst : s.Ahead R.types t) (hid : id.GroundedIn s) (name : String) :
    Steady R.types (fun u found => ∀ handle, found = some handle → Handle.GroundedIn u handle) s t
      (R.present id name : Action ε (Option Handle)) :=
  (own_steady hst hid name).bind fun _ _ _ huv hfound =>
    steady_pure huv.ahead fun handle hhandle =>
      hfound handle (Option.filter_eq_some_iff.1 hhandle).1

/-- A write through a descriptor, and what it leaves in the slot. -/
theorem writeThrough_steady (h : R.Transparent) (hst : s.Ahead R.types t)
    (hhandle : handle.GroundedIn s) (hv : v.GroundedIn s) :
    Steady R.types (fun _ _ => True) s t (R.writeThrough handle v) := by
  refine (h.write_steady hst hhandle.descriptor hv).bind fun u u' d huv hd => ?_
  cases hhome : handle.home with
  | none =>
    exact (steady_pure (P := fun _ _ => True) (a := ()) huv.ahead trivial).bind
      fun _ _ _ huv _ => steady_pure huv.ahead trivial
  | some slot =>
    obtain ⟨hobject, hused⟩ := (hhandle.mono huv.grows).home slot.1 slot.2 hhome
    exact (steady_modify (huv.ahead.putBack hobject hused hd)).bind
      fun _ _ _ huv _ => steady_pure huv.ahead trivial

/-- A write to what has been found. -/
theorem putThrough_steady (h : R.Transparent) (hst : s.Ahead R.types t)
    (hhandle : handle.GroundedIn s) (name : String) (hv : v.GroundedIn s) (strict : Bool) :
    Steady R.types (fun _ _ => True) s t (R.putThrough handle name v strict) := by
  unfold Realm.putThrough
  split
  · exact (h.writeThrough_steady hst hhandle hv).bind
      fun _ _ _ huv _ => steady_pure huv.ahead trivial
  · split
    · exact steady_throw hst _
    · exact steady_pure hst trivial

/-- A value put into a slot. -/
theorem setPlain_steady (hst : s.Ahead R.types t) (hid : id.GroundedIn s) (key : String)
    (hv : v.GroundedIn s) :
    Steady R.types (fun _ _ => True) s t (Realm.setPlain id key v : Action ε Unit) :=
  steady_modify (hst.setLive hid key hv)

/-- A write to an object that is not a host object. -/
theorem ordinaryPut_steady (h : R.Transparent) (hst : s.Ahead R.types t) (hid : id.GroundedIn s)
    (name : String) (hv : v.GroundedIn s) (strict : Bool) :
    Steady R.types (fun _ _ => True) s t (R.ordinaryPut id name v strict) := by
  refine (present_steady hst hid name).bind fun u u' found huv hfound => ?_
  have hv' := hv.mono huv.grows
  cases found with
  | some handle => exact h.putThrough_steady huv.ahead (hfound handle rfl) name hv' strict
  | none => exact setPlain_steady huv.ahead (hid.mono huv.grows) name hv'

/-- A write to a wrapper or a type reference. -/
theorem hostPut_steady (h : R.Transparent) (hst : s.Ahead R.types t) (hid : id.GroundedIn s)
    (name : String) (hv : v.GroundedIn s) (strict : Bool) :
    Steady R.types (fun _ _ => True) s t (R.hostPut id name v strict) := by
  -- what has only been foreseen of a slot is live, so the marks of deletion agree
  have hdeleted : (t.slots id).isDeleted (Name.normalize name) =
      (s.slots id).isDeleted (Name.normalize name) := by
    unfold SlotTable.isDeleted
    obtain hsame | ⟨hunset, _, _, _, _, -, -, -, hlive, -⟩ := hst.state hid (Name.normalize name)
    · rw [hsame]
    · rw [hunset, hlive]
  refine steady_getStore (by simp only [hdeleted]) ?_
  split
  · exact setPlain_steady hst hid _ hv
  · refine (present_steady hst hid name).bind fun u u' found huv hfound => ?_
    have hv' := hv.mono huv.grows
    cases found with
    | some handle => exact h.putThrough_steady huv.ahead (hfound handle rfl) name hv' strict
    | none =>
      simp only [Realm.putFound]
      split
      · exact steady_throw huv.ahead _
      · split
        · exact setPlain_steady huv.ahead (hid.mono huv.grows) _ hv'
        · exact steady_pure huv.ahead trivial

/-- New elements for an array. -/
private theorem setElements_steady (hst : s.Ahead R.types t) (hid : id.GroundedIn s)
    {old elements : Array ScriptValue} (hold : s.sort? id = some (.array old))
    (helements : ∀ e ∈ elements, e.GroundedIn s) :
    Steady R.types (fun _ _ => True) s t
      (Action.modify (·.setElements id elements) : Action ε Unit) :=
  steady_modify (hst.setElements hid hold helements)

/-- What a change of the length leaves is old, or a gap. -/
private theorem mem_of_mem_resize {elements : Array ScriptValue} {size : Nat} {e : ScriptValue}
    (he : e ∈ Realm.resize elements size) : e ∈ elements ∨ e = .undefined := by
  unfold Realm.resize at he
  split at he
  · refine .inl (Array.mem_def.2 (List.mem_of_mem_take (i := size) ?_))
    simpa using Array.mem_def.1 he
  · obtain he | he := Array.mem_append.1 he
    · exact .inl he
    · exact .inr (Array.mem_replicate.1 he).2

/-- An array is brought to a length on both sides, or there is no room for it on either. -/
private theorem setLength_steady (hst : s.Ahead R.types t) (hid : id.GroundedIn s)
    {elements : Array ScriptValue} (hold : s.sort? id = some (.array elements)) (size : Nat) :
    Steady R.types (fun _ _ => True) s t (Realm.setLength id elements size : Action ε Unit) := by
  unfold Realm.setLength
  split
  · exact steady_panic hst _
  · refine setElements_steady hst hid hold fun e he => ?_
    obtain he | rfl := mem_of_mem_resize he
    · exact hst.grounded.sort hold e he
    · trivial

/-- A write to an array. -/
theorem arrayPut_steady (h : R.Transparent) (hst : s.Ahead R.types t) (hid : id.GroundedIn s)
    {elements : Array ScriptValue} (hold : s.sort? id = some (.array elements)) (name : String)
    (hv : v.GroundedIn s) (strict : Bool) :
    Steady R.types (fun _ _ => True) s t (R.arrayPut id elements name v strict) := by
  have hground : ∀ e ∈ elements, e.GroundedIn s := hst.grounded.sort hold
  unfold Realm.arrayPut
  -- a gap is filled with undefined, so every element is grounded
  split
  · split
    · exact setLength_steady hst hid hold _
    · exact steady_pure hst trivial
  · split
    · refine setElements_steady hst hid hold fun e he => ?_
      obtain he | rfl | rfl := Realm.mem_of_mem_assigned he
      · exact hground e he
      · trivial
      · exact hv
    · exact h.ordinaryPut_steady hst hid name hv strict

/-- A write to any object. -/
theorem put_steady (h : R.Transparent) (hst : s.Ahead R.types t) (hid : id.GroundedIn s)
    (name : String) (hv : v.GroundedIn s) (strict : Bool) :
    Steady R.types (fun _ _ => True) s t (R.put id name v strict) := by
  refine steady_getStore (by simp only [hst.sort? hid]) ?_
  split
  · next elements hold => exact h.arrayPut_steady hst hid hold name hv strict
  · exact h.hostPut_steady hst hid name hv strict
  · exact h.hostPut_steady hst hid name hv strict
  · exact h.ordinaryPut_steady hst hid name hv strict

/-- Only objects of other sorts forget slots, and a request leaves them as they are. -/
private theorem ordinaryDelete_steady (hst : s.Ahead R.types t) (hid : id.GroundedIn s)
    (hhost : ¬ s.isHostObject id) (name : String) (strict : Bool) :
    Steady R.types (fun _ _ => True) s t (R.ordinaryDelete id name strict) := by
  have hhost' : ¬ t.isHostObject id := by rwa [hst.isHostObject hid]
  have hsame := (Engine.own_ahead hst hid name).same
  have hstore := (Engine.ownProperty_of_other R.toEngine hhost name).1
  have hstore' := (Engine.ownProperty_of_other R.toEngine hhost' name).1
  generalize hfound : (R.toEngine.ownProperty s id name).1 = found at hsame
  -- the lookup leaves both stores as they are
  have hown : (R.own id name : Action BridgeError _) s = (.ok found, s) := by
    simp only [Realm.own, Action.state, hfound, hstore]
  have hown' : (R.own id name : Action BridgeError _) t = (.ok found, t) := by
    simp only [Realm.own, Action.state, ← hsame, hstore']
  unfold Steady Realm.ordinaryDelete
  simp only [bind_apply, hown, hown']
  cases found with
  | none => exact steady_pure hst trivial
  | some handle =>
    dsimp only
    split
    · exact (steady_modify (hst.remove hid hhost name)).bind
        fun _ _ _ huv _ => steady_pure huv.ahead trivial
    · split
      · exact steady_throw hst _
      · exact steady_pure hst trivial

/-- A deletion from any object. -/
theorem delete_steady (hst : s.Ahead R.types t) (hid : id.GroundedIn s) (name : String)
    (strict : Bool) :
    Steady R.types (fun _ _ => True) s t (R.delete id name strict) := by
  -- a host object marks the name, whether it was bound before or not
  have hmark : Steady R.types (fun _ _ => True) s t (do
      Action.modify (·.modifySlots id (·.markDeleted (Name.normalize name)))
      return true : Action BridgeError Bool) := by
    exact (steady_modify (hst.markDeleted hid (Name.normalize name))).bind
      fun _ _ _ huv _ => steady_pure huv.ahead trivial
  refine steady_getStore (by simp only [hst.sort? hid]) ?_
  split
  · next elements hold =>
    -- an array is no host object
    have hhost : ¬ s.isHostObject id := by
      rw [isHostObject_iff, hold]
      simp
    split
    · exact steady_pure hst trivial
    · split
      · refine (setElements_steady hst hid hold fun e he => ?_).bind
          fun _ _ _ huv _ => steady_pure huv.ahead trivial
        obtain he | rfl := Array.mem_or_eq_of_mem_setIfInBounds he
        · exact hst.grounded.sort hold e he
        · trivial
      · exact ordinaryDelete_steady hst hid hhost name strict
  · exact hmark
  · exact hmark
  · next hwrapper hreference =>
    refine ordinaryDelete_steady hst hid ?_ name strict
    rw [isHostObject_iff]
    rintro (⟨target, hsort⟩ | ⟨type, hsort⟩)
    · exact hwrapper target hsort
    · exact hreference type hsort

/-- A definition on any object. -/
theorem define_steady (hst : s.Ahead R.types t) (hid : id.GroundedIn s) (name : String)
    {d : Descriptor} (hd : d.GroundedIn s) :
    Steady R.types (fun _ _ => True) s t (R.define id name d) := by
  refine steady_getStore (by simp only [hst.sort? hid]) ?_
  split
  · exact steady_throw hst _
  · exact (steady_modify (hst.setLive hid name hd)).bind
      fun _ _ _ huv _ => steady_pure huv.ahead trivial

/-! ### Entries -/

/-- A read along a prototype chain. -/
theorem getFrom_steady (h : R.Transparent) (hst : s.Ahead R.types t) (name : String)
    {chain : List ObjectId} (hchain : ∀ id ∈ chain, id.GroundedIn s) :
    Steady R.types ScriptValue.GroundedIn s t (R.getFrom name chain) := by
  -- the first object of the chain that has the property decides
  induction chain generalizing s t with
  | nil => exact steady_pure hst trivial
  | cons id rest ih =>
    refine (present_steady hst (hchain id List.mem_cons_self) name).bind
      fun u v found huv hfound => ?_
    cases found with
    | some handle => exact h.read_steady huv.ahead (hfound handle rfl).descriptor
    | none =>
      exact ih huv.ahead fun other hother =>
        (hchain other (List.mem_cons_of_mem id hother)).mono huv.grows

/-- A read of a name. -/
theorem get_steady (h : R.Transparent) (hst : s.Ahead R.types t) (hid : id.GroundedIn s)
    (name : String) : Steady R.types ScriptValue.GroundedIn s t (R.get id name) := by
  obtain ⟨hsame, hchain⟩ := hst.chain hid
  exact steady_getStore (by simp only [hsame]) (h.getFrom_steady hst name hchain)

/-- A call of a function, a group of methods or a type. -/
theorem callObject_steady (h : R.Transparent) (hst : s.Ahead R.types t) (hid : id.GroundedIn s)
    {this : ScriptValue} (hthis : this.GroundedIn s) (hargs : ∀ a ∈ args, a.GroundedIn s) :
    Steady R.types ScriptValue.GroundedIn s t (R.callObject id this args) := by
  refine steady_getStore (by simp only [hst.sort? hid, hst.className hid]) ?_
  split
  · next body hsort =>
    exact h.run_steady hst (hst.grounded.sort hsort s (.refl s) this args hthis hargs)
  · next group target hsort =>
    exact h.callMethods_steady hst (hst.grounded.sort hsort) target hargs
  · next type _ => exact h.constructType_steady hst type hargs
  · exact steady_throw hst _

/-- A construction through an object. -/
theorem constructObject_steady (h : R.Transparent) (hst : s.Ahead R.types t)
    (hid : id.GroundedIn s) (hargs : ∀ a ∈ args, a.GroundedIn s) :
    Steady R.types ScriptValue.GroundedIn s t (R.constructObject id args) := by
  refine steady_getStore (by simp only [hst.sort? hid, hst.className hid]) ?_
  split
  · next type _ => exact h.constructType_steady hst type hargs
  · exact steady_throw hst _

/-- A read of a member of a value. -/
theorem getMember_steady (h : R.Transparent) (hst : s.Ahead R.types t) {base : ScriptValue}
    (hbase : base.GroundedIn s) (name : String) :
    Steady R.types ScriptValue.GroundedIn s t (R.getMember base name) := by
  cases base with
  | object id => exact h.get_steady hst hbase name
  | undefined => exact steady_getStore rfl (steady_throw hst _)
  | null => exact steady_getStore rfl (steady_throw hst _)
  | boolean b => exact steady_pure hst trivial
  | number x => exact steady_pure hst trivial
  | string text => exact steady_pure hst trivial

/-- Whether a value can be called. -/
private theorem callable_ahead (hst : s.Ahead R.types t) (hv : v.GroundedIn s) :
    v.object?.filter t.isCallable = v.object?.filter s.isCallable ∧
      ∀ id, v.object?.filter s.isCallable = some id → id.GroundedIn s := by
  cases v with
  | object id =>
    simp only [ScriptValue.object?, Option.filter_some, hst.isCallable hv, true_and]
    intro other hother
    -- an object that is not callable is none to call
    split at hother
    · cases hother
      exact hv
    · cases hother
  | _ =>
    refine ⟨rfl, ?_⟩
    rintro _ ⟨⟩

/-- A call of a value. -/
theorem call_steady (h : R.Transparent) (hst : s.Ahead R.types t) {callee this : ScriptValue}
    (hcallee : callee.GroundedIn s) (hthis : this.GroundedIn s)
    (hargs : ∀ a ∈ args, a.GroundedIn s) :
    Steady R.types ScriptValue.GroundedIn s t (R.call callee this args) := by
  obtain ⟨hsame, hground⟩ := callable_ahead hst hcallee
  refine steady_getStore (by simp only [hsame, hst.typeTag hcallee]) ?_
  cases hfound : callee.object?.filter s.isCallable with
  | some id => exact h.callObject_steady hst (hground id hfound) hthis hargs
  | none => exact steady_throw hst _

/-- A read of a member, and a call of what is found. -/
theorem callMethod_steady (h : R.Transparent) (hst : s.Ahead R.types t) {base : ScriptValue}
    (hbase : base.GroundedIn s) (name : String) (hargs : ∀ a ∈ args, a.GroundedIn s) :
    Steady R.types ScriptValue.GroundedIn s t (R.callMethod base name args) := by
  refine (h.getMember_steady hst hbase name).bind fun u v callee huv hcallee => ?_
  obtain ⟨hsame, hground⟩ := callable_ahead huv.ahead hcallee
  refine steady_getStore (by simp only [hsame]) ?_
  cases hfound : callee.object?.filter u.isCallable with
  | some id =>
    exact h.callObject_steady huv.ahead (hground id hfound) (hbase.mono huv.grows)
      fun a ha => (hargs a ha).mono huv.grows
  | none => exact steady_throw huv.ahead _

/-- A construction through a value. -/
theorem construct_steady (h : R.Transparent) (hst : s.Ahead R.types t) {callee : ScriptValue}
    (hcallee : callee.GroundedIn s) (hargs : ∀ a ∈ args, a.GroundedIn s) :
    Steady R.types ScriptValue.GroundedIn s t (R.construct callee args) := by
  cases callee with
  | object id => exact h.constructObject_steady hst hcallee hargs
  | undefined | null | boolean _ | number _ | string _ =>
    exact steady_getStore rfl (steady_throw hst _)

/-- The instance test along the prototypes. -/
private theorem ordinaryHasInstance_steady (h : R.Transparent) (hst : s.Ahead R.types t)
    (hid : id.GroundedIn s) (hv : v.GroundedIn s) :
    Steady R.types (fun _ _ => True) s t (R.ordinaryHasInstance id v) := by
  refine steady_getStore (by simp only [hst.isCallable hid, hst.className hid]) ?_
  split
  · exact steady_throw hst _
  · cases v with
    | object other =>
      refine (h.get_steady hst hid "prototype").bind fun u u' found huv _ => ?_
      -- the chain of an object that both stores have is the same
      cases found with
      | object prototype =>
        have hchain := (huv.ahead.chain (ObjectId.GroundedIn.mono hv huv.grows)).1
        exact steady_getStore (by simp only [hchain]) (steady_pure huv.ahead trivial)
      | undefined | null | boolean _ | number _ | string _ =>
        exact steady_pure huv.ahead trivial
    | undefined | null | boolean _ | number _ | string _ => exact steady_pure hst trivial

/-- The instance test against an object. -/
theorem hasInstance_steady (h : R.Transparent) (hst : s.Ahead R.types t) (hid : id.GroundedIn s)
    (hv : v.GroundedIn s) : Steady R.types (fun _ _ => True) s t (R.hasInstance id v) := by
  have htarget : v.object?.bind t.hostTarget? = v.object?.bind s.hostTarget? := by
    cases v with
    | object other => exact hst.hostTarget? hv
    | _ => rfl
  refine steady_getStore (by simp only [hst.referencedType? hid, htarget]) ?_
  split
  · split
    · exact steady_pure hst trivial
    · exact h.ordinaryHasInstance_steady hst hid hv
  · exact h.ordinaryHasInstance_steady hst hid hv

/-- The instance test against a value. -/
theorem instanceOf_steady (h : R.Transparent) (hst : s.Ahead R.types t) {callee : ScriptValue}
    (hv : v.GroundedIn s) (hcallee : callee.GroundedIn s) :
    Steady R.types (fun _ _ => True) s t (R.instanceOf v callee) := by
  cases callee with
  | object id => exact h.hasInstance_steady hst hcallee hv
  | undefined | null | boolean _ | number _ | string _ =>
    exact steady_getStore rfl (steady_throw hst _)

/-- The elements of what is like an array. -/
theorem arrayLike_steady (h : R.Transparent) (hst : s.Ahead R.types t) (hid : id.GroundedIn s) :
    Steady R.types (fun u vs => ∀ v ∈ vs, ScriptValue.GroundedIn u v) s t (R.arrayLike id) := by
  refine steady_getStore (by simp only [hst.className hid, hst.isArrayLike hid]) ?_
  dsimp only
  split
  · exact steady_throw hst _
  · refine (h.get_steady hst hid "length").bind fun u u' length huv _ => ?_
    cases length.number? with
    | none => exact steady_pure huv.ahead fun _ hv => nomatch hv
    | some x =>
      dsimp only
      split
      · exact steady_throw huv.ahead _
      · -- each read grows the store, and the object stays grounded in it
        refine steady_mapM (P := ScriptValue.GroundedIn)
          (fun _ _ _ hgrows hv => ScriptValue.GroundedIn.mono hv hgrows) huv.ahead
          fun w w' i hw _ => ?_
        exact h.get_steady hw.ahead ((hid.mono huv.grows).mono hw.grows) (toString i)

/-- Whatever scripts do, lookups before it do not change how it ends. -/
theorem perform_steady (h : R.Transparent) (hst : s.Ahead R.types t) {hook : Hook}
    (hhook : hook.GroundedIn s) :
    Steady R.types (fun u a => hook.AnswerGroundedIn u a) s t (R.perform hook) := by
  -- one lemma for each kind of entry
  cases hook with
  | getMember base name => exact h.getMember_steady hst hhook name
  | setMember base name value => exact h.put_steady hst hhook.1 name hhook.2 _
  | deleteMember base name => exact delete_steady hst hhook name _
  | defineData base name value flags => exact define_steady hst hhook.1 name hhook.2
  | call callee this args => exact h.call_steady hst hhook.1 hhook.2.1 hhook.2.2
  | callMethod base name args => exact h.callMethod_steady hst hhook.1 name hhook.2
  | construct callee args => exact h.construct_steady hst hhook.1 hhook.2
  | instanceOf value callee => exact h.instanceOf_steady hst hhook.1 hhook.2
  | arrayLike base => exact h.arrayLike_steady hst hhook

end Realm.Transparent

/-! ### Histories -/

/-- What happens at an engine: an entry, or the lookup of an own property by a name. -/
inductive Incident where
  | enter (hook : Hook)
  | lookUp (id : ObjectId) (name : String)

/-- It is an entry, and no lookup. -/
def Incident.isEntry : Incident → Bool
  | .enter _ => true
  | .lookUp .. => false

/-- An entry into the engine and how it ended. -/
structure Entered where
  hook : Hook
  outcome : Outcome BridgeError hook.Answer

namespace Engine

variable {E : Engine} {s t : Store}

/-- How the entries of a history end, in order, and the store at the end of it. -/
def undergo (E : Engine) (depth : Nat) : List Incident → Store → List Entered × Store
  | [], s => ([], s)
  | .enter hook :: rest, s =>
      let (outcome, s) := E.performWithin depth hook s
      let (others, s) := undergo E depth rest s
      (⟨hook, outcome⟩ :: others, s)
  | .lookUp id name :: rest, s => undergo E depth rest (E.lookedUp id name s)

/-- No entry refers to a function for host methods that is still to be made when its turn comes, if
nothing is looked up. -/
def GroundedAlong (E : Engine) (depth : Nat) : List Incident → Store → Prop
  | [], _ => True
  | .enter hook :: rest, s =>
      hook.GroundedIn s ∧ GroundedAlong E depth rest (E.performWithin depth hook s).2
  | .lookUp .. :: rest, s => GroundedAlong E depth rest s

/-- The entries into an engine are steady, and so are those that host code makes while they last. -/
theorem transparent_realm (E : Engine) (depth : Nat) : (E.realm depth).Transparent := by
  -- host code comes back into the engine with one entry less to spend
  induction depth with
  | zero => exact ⟨fun s t hook hst _ => steady_exhausted hst⟩
  | succ depth ih => exact ⟨fun s t hook hst hhook => ih.perform_steady hst hhook⟩

/-- A history on a store, and without its lookups on one that is behind. -/
theorem undergo_ahead (depth : Nat) (history : List Incident)
    (h : s.Ahead E.types t) (hhistory : E.GroundedAlong depth history s) :
    (E.undergo depth history t).1 = (E.undergo depth (history.filter (·.isEntry)) s).1 ∧
      Store.Ahead E.types (E.undergo depth (history.filter (·.isEntry)) s).2
        (E.undergo depth history t).2 := by
  induction history generalizing s t with
  | nil => exact ⟨rfl, h⟩
  | cons incident rest ih =>
    cases incident with
    | enter hook =>
      obtain ⟨hhook, hrest⟩ := hhistory
      have hsteady := (E.transparent_realm depth).enter s t hook h hhook
      obtain ⟨hsame, honward, -⟩ := hsteady
      obtain ⟨hothers, hahead⟩ := ih honward.ahead hrest
      exact ⟨congrArg₂ List.cons (congrArg (Entered.mk hook) hsame.symm) hothers, hahead⟩
    | lookUp id name =>
      -- only the side that is ahead looks the name up
      exact ih (lookup_ahead h id name) hhistory

/-- Lazy binding is transparent. Whatever scripts and host code do in a history of entries, and
whichever own properties of whichever objects are looked up in between: every entry ends as it does
without the lookups, and the instances with their storage, the static and global variables and the
log, in which every body can note that it was entered, are the same at the end. The heaps differ in
slots of host objects that are unset without the lookups and in the functions that stand in them.

Neither the store nor the entries refer to functions for host methods that are still to be made. -/
theorem lookups_unnoticed (E : Engine) (depth : Nat) {s : Store} (hs : s.Grounded E.types)
    (history : List Incident) (hhistory : E.GroundedAlong depth history s) :
    let looked := E.undergo depth history s
    let plain := E.undergo depth (history.filter (·.isEntry)) s
    looked.1 = plain.1 ∧
      ∃ heap cache, looked.2 = { plain.2 with heap, cache } ∧
        plain.2.heap.Ahead E.types heap := by
  obtain ⟨houtcomes, heap, cache, hstore, -, -, hheap⟩ :=
    undergo_ahead depth history hs.ahead_refl hhistory
  exact ⟨houtcomes, heap, cache, hstore, hheap⟩

/-- A static method without parameters that notes its calls. -/
def noting : Method :=
  Method.asStatic ⟨"Next", "next", ⟨0⟩, [], false,
    fun call => .ask (.record "Next" call.this call.args) fun _ => .done (.bool true), none⟩

/-- A type with one method, which notes down that it was called. -/
def noted : Registry := ⟨#[(TypeEntry.make "Tally" .reference).withMethod noting]⟩

/-- Its body refers to nothing but what it is given. -/
theorem groundedIn_noted (s : Store) : noted.GroundedIn s := by
  intro type e hentry
  have hmember : e ∈ noted.entries := by
    cases type with
    | declared index => exact Array.mem_of_getElem? hentry
    | _ => cases hentry
  obtain rfl := List.mem_singleton.1 (Array.mem_toList_iff.2 hmember)
  have hbare : (TypeEntry.make "Tally" .reference).GroundedIn s := by
    constructor <;> exact fun _ hmem => nomatch hmem
  have hmethod : noting.GroundedIn s :=
    ⟨fun _ hp => (nomatch hp), fun t _ call hargs => ⟨hargs, fun _ _ _ _ => trivial⟩⟩
  exact { hbare with methods := fun m hm => List.mem_singleton.1 hm ▸ hmethod }

/-- A static method that is looked up before it is called. -/
theorem method_called_after_lookup :
    let E : Engine := ⟨noted, .default, .fixed [0]⟩
    let tally := ObjectId.created 4
    let s := (Store.initial.typeReference (.declared 0)).2
    let history : List Incident :=
      [.lookUp tally "Next", .enter (.callMethod (.object tally) "next" [])]
    let looked := E.undergo 1 history s
    let plain := E.undergo 1 (history.filter (·.isEntry)) s
    s.Grounded E.types ∧ E.GroundedAlong 1 history s ∧
      ownNames (E.lookedUp tally "Next" s) tally = ["prototype", "next"] ∧
      ownNames s tally = ["prototype"] ∧
      looked.1 = plain.1 ∧ looked.2.calls = plain.2.calls ∧ plain.2.calls.size = 1 := by
  intro E tally s history looked plain
  have hground : s.Grounded E.types := by
    have hinitial := Store.grounded_initial (groundedIn_noted .initial)
    exact (hinitial.ahead_refl.typeReference (.declared 0)).onward.ahead.grounded
  -- the lookup is no entry and may be left out of the history
  have hhistory : E.GroundedAlong 1 history s := ⟨⟨trivial, fun _ ha => nomatch ha⟩, trivial⟩
  obtain ⟨houtcomes, heap, cache, hstore, -⟩ :=
    lookups_unnoticed E 1 hground history hhistory
  refine ⟨hground, hhistory, rfl, rfl, houtcomes, ?_, rfl⟩
  simp only [looked, plain, hstore]

end Engine

end Membrane
