import Membrane.Proofs.Lookahead
import Membrane.Proofs.PrototypeChains

/-!
# What members are bound to

Slots are bound once, to a member and its target. On a wrapper that is the wrapper's own instance; on a
type reference there is no target, and the member is a static one that the type itself declares
(`Descriptor.Fits`). The functions for host methods keep to the same (`MethodGroup.Fits`). Both hold of
every slot and every function, whatever the engine does (`Engine.aligned_rule`), since resolution gives
nothing else (`Registry.declaresStatic_resolve`) and a write keeps the binding that it goes through.

## Key results

- `Engine.aligned_rule`, `Engine.Becomes.aligned`: members stay bound to the targets that fit them
- `Store.Aligned.found`: what a request for a property finds
-/

namespace Membrane

/-! ### What fits an object -/

/-- What can stand in the slot `key` of an object that stands for `host`. Scripts put values anywhere,
and wherever there is no type reference whatever lookups give out. Beside that there is what lookups of
the key bind there, on the object itself. -/
inductive Descriptor.Fits (types : Registry) (key : String) :
    Option (HostRef ⊕ TypeId) → Descriptor → Prop where
  | value (host : Option (HostRef ⊕ TypeId)) (v : ScriptValue) (flags : Flags) :
      Fits types key host (.data v flags)
  | sharedValue (host : Option (HostRef ⊕ TypeId)) (cell : Nat) (flags : Flags) :
      Fits types key host (.sharedData cell flags)
  | bound {host : HostRef ⊕ TypeId} {d : Descriptor} (hd : d.Binds types key host) :
      Fits types key (some host) d
  | defined {host : Option (HostRef ⊕ TypeId)} {d : Descriptor} (hd : types.HandsOut d)
      (hhost : ∀ type, host ≠ some (.inr type)) : Fits types key host d

/-- The target that a function for the methods of a key has, which belongs to an object that stands for
`host`: the wrapper's own instance, and for a type reference none, with static methods that the type
itself declares. -/
inductive MethodGroup.Fits (types : Registry) (key : String) :
    HostRef ⊕ TypeId → MethodGroup → Option HostRef → Prop where
  | instance (ref : HostRef) (group : MethodGroup) : Fits types key (.inl ref) group (some ref)
  | static {type : TypeId} {group : MethodGroup}
      (hgroup : types.DeclaresStatic type key (.methodGroup group)) :
      Fits types key (.inr type) group none

/-- A write goes through the binding that it finds. -/
theorem Descriptor.Binds.writtenAs {types : Registry} {key : String} {host : HostRef ⊕ TypeId}
    {d d' : Descriptor} (hd : d.Binds types key host) (h : d.WrittenAs d') :
    d'.Binds types key host := by
  cases h with
  | same => exact hd
  | value => cases hd
  | shadow member target shadow shadow' =>
    cases hd with
    | property hp => exact .property hp shadow'
    | staticProperty hp => exact .staticProperty hp shadow'

/-- What a write leaves of a descriptor that was given out could have been given out itself. -/
theorem Registry.HandsOut.writtenAs {types : Registry} {d d' : Descriptor} (hd : types.HandsOut d)
    (h : d.WrittenAs d') : types.HandsOut d' := by
  cases hd with
  | bound hbinds => exact .bound (hbinds.writtenAs h)
  | script hscript =>
    cases h with
    | same => exact .script hscript
    | value => exact .script rfl
    | shadow => cases hscript
  | element i ref name =>
    cases h
    exact .element i ref name

namespace Descriptor.Fits

variable {types : Registry} {key : String} {host : Option (HostRef ⊕ TypeId)} {d d' : Descriptor}

/-- A slot keeps what fits it when it is written to. -/
theorem writtenAs (hd : d.Fits types key host) (h : d.WrittenAs d') : d'.Fits types key host := by
  -- a write changes a value or a shadow, and neither tells what is bound
  cases hd with
  | bound hbinds => exact .bound (hbinds.writtenAs h)
  | defined hout hhost => exact .defined (hout.writtenAs h) hhost
  | value host v flags =>
    cases h with
    | same => exact .value host v flags
    | value _ v' => exact .value host v' flags
  | sharedValue host cell flags =>
    cases h
    exact .sharedValue host cell flags

/-- A slot keeps what fits it when that is given out and shared from then on. -/
theorem sharedIn (hd : d.Fits types key host) {cell : Nat} {contents : Option ScriptValue}
    (h : d.sharedIn cell = some (d', contents)) : d'.Fits types key host := by
  cases hd with
  | bound hbinds => exact .bound (hbinds.sharedIn h)
  | defined hout hhost => exact .defined (hout.sharedIn h) hhost
  | sharedValue => cases h
  | value host v flags =>
    obtain ⟨_, _, -, rfl, -⟩ | ⟨_, _, _, hproperty, -⟩ := sharedIn_cases h
    · exact .sharedValue host cell _
    · cases hproperty

end Descriptor.Fits

/-- What a request for a property of the object finds, which stands for `host`: what stands in a slot
and fits there, the mark of a deleted name, a part of an array, or an element of the wrapped instance. -/
inductive Handle.Fits (types : Registry) (id : ObjectId)
    (host : Option (HostRef ⊕ TypeId)) : Handle → Prop where
  | slot {key : String} {d : Descriptor} (hd : d.Fits types key host) :
      Fits types id host ⟨d, some (id, key)⟩
  | deleted : Fits types id host ⟨.absent, none⟩
  | element (hhost : host = none) (v : ScriptValue) (flags : Flags) :
      Fits types id host ⟨.data v flags, none⟩
  | indexed {ref : HostRef} (hhost : host = some (.inl ref)) (i : Indexer) (name : String) :
      Fits types id host ⟨.index i ref name, none⟩

/-- The object under this identity has in its slots what fits there, and if it is a function for host
methods, it belongs to an object that these methods fit. -/
structure ScriptObject.WellBound (types : Registry) (h : Heap) (id : ObjectId) (o : ScriptObject) :
    Prop where
  slot : ∀ key d, o.slots.get? key = some d → d.Fits types key o.sort.host?
  function : ∀ group target, o.sort = .methods group target → ∃ index key owner host,
    id = .bound index key ∧ h.object? (.created index) = some owner ∧
      owner.sort.host? = some host ∧ group.Fits types key host target

/-- Every slot and every function is bound to what fits it. -/
def Heap.WellBound (types : Registry) (h : Heap) : Prop :=
  ∀ id o, h.object? id = some o → o.WellBound types h id

/-- What a request is going to bind fits the object. -/
theorem Registry.fits_of_foresee {types : Registry} {index : Nat} {key : String} {sort : ObjectSort}
    {d : Descriptor} {f : Option ScriptObject} (h : types.foresee index key sort = some (d, f)) :
    d.Fits types key sort.host? ∧ ∀ o ∈ f, ∃ group target host,
      o = Store.methodsOf group target ∧ sort.host? = some host ∧ group.Fits types key host target := by
  cases sort with
  | wrapper ref =>
    -- on a wrapper everything is bound to its own instance
    have hmember := types.offers_resolve ref.type key
    simp only [foresee] at h
    generalize types.resolve ref.type key .onInstance = member at h hmember
    cases member with
    | field f =>
      cases h
      exact ⟨.bound (.field hmember), by simp⟩
    | property p =>
      cases h
      exact ⟨.bound (.property hmember none), by simp⟩
    | methodGroup group =>
      cases h
      refine ⟨.value _ _ _, ?_⟩
      rintro _ ⟨⟩
      exact ⟨group, some ref, .inl ref, rfl, rfl, .instance ref group⟩
    | _ => cases h
  | typeReference type =>
    -- on a type reference there is no instance, and resolution gives static members only
    have hmember := types.declaresStatic_resolve type key
    simp only [foresee] at h
    generalize types.resolve type key .onType = member at h hmember
    cases member with
    | constant n =>
      cases h
      exact ⟨.value _ _ _, by simp⟩
    | property p =>
      cases h
      exact ⟨.bound (.staticProperty hmember none), by simp⟩
    | field f =>
      cases h
      exact ⟨.bound (.staticField hmember), by simp⟩
    | methodGroup group =>
      cases h
      refine ⟨.value _ _ _, ?_⟩
      rintro _ ⟨⟩
      exact ⟨group, none, .inr type, rfl, rfl, .static hmember⟩
    | _ => cases h
  | _ => cases h

/-! ### Changes of objects -/

namespace SlotTable

variable {α : Type} {t : SlotTable α} {name other : String} {a b : α}

/-- What is live after a slot was set is what it was set to, or was live before. -/
theorem get?_setLive_cases (h : (t.setLive name a).get? other = some b) :
    (other = name ∧ b = a) ∨ t.get? other = some b := by
  rw [get?_eq_some_iff] at h ⊢
  by_cases hname : other = name
  · subst hname
    rw [state_setLive] at h
    cases h
    exact .inl ⟨rfl, rfl⟩
  · exact .inr (by rwa [state_setLive_of_ne _ _ hname] at h)

/-- What is live after a deletion was live before. -/
theorem get?_of_markDeleted (h : (t.markDeleted name).get? other = some b) :
    t.get? other = some b := by
  rw [get?_eq_some_iff] at h ⊢
  by_cases hname : other = name
  · subst hname
    rw [state_markDeleted] at h
    cases h
  · rwa [state_markDeleted_of_ne _ hname] at h

/-- What is live after a removal was live before. -/
theorem get?_of_remove (h : (t.remove name).get? other = some b) : t.get? other = some b := by
  rw [get?_eq_some_iff] at h ⊢
  by_cases hname : other = name
  · subst hname
    rw [state_remove] at h
    cases h
  · rwa [state_remove_of_ne _ hname] at h

end SlotTable

namespace ScriptObject.WellBound

variable {types : Registry} {h h' : Heap} {id : ObjectId} {o : ScriptObject}

/-- The owners of functions stay what they are. -/
theorem mono (ho : o.WellBound types h id) (hkept : h.KeepsHosts h') : o.WellBound types h' id where
  slot := ho.slot
  function group target hsort := by
    obtain ⟨index, key, owner, host, hid, howner, hhost, hfits⟩ := ho.function group target hsort
    obtain ⟨owner', howner', hsame⟩ := hkept _ owner howner
    exact ⟨index, key, owner', host, hid, howner', hsame.trans hhost, hfits⟩

/-- An object without slots that is no function for host methods. -/
theorem make {sort : ObjectSort} (hsort : ∀ group target, sort ≠ .methods group target)
    (prototype : Option ObjectId) : (ScriptObject.make sort prototype).WellBound types h id where
  slot _ _ hd := nomatch hd
  function group target hmethods := absurd hmethods (hsort group target)

end ScriptObject.WellBound

namespace Heap.WellBound

variable {types : Registry} {h h' : Heap} {id : ObjectId} {o : ScriptObject}

/-- Objects that stay what they are stand beside new and changed ones. -/
theorem of_objects (hh : h.WellBound types) (hkept : h.KeepsHosts h')
    (hobject : ∀ id o, h'.object? id = some o → h.object? id = some o ∨ o.WellBound types h' id) :
    h'.WellBound types :=
  fun id o ho => (hobject id o ho).elim (fun hold => (hh id o hold).mono hkept) fun hnew => hnew

/-- A new object that is bound to what fits it joins the others. -/
theorem create (hh : h.WellBound types) (ho : o.WellBound types h (h.create o).1) :
    (h.create o).2.WellBound types := by
  have hkept : h.KeepsHosts (h.create o).2 := .create h o
  refine hh.of_objects hkept fun id q hq => ?_
  obtain ⟨rfl, rfl⟩ | hold := object?_create_cases hq
  · exact .inr (ho.mono hkept)
  · exact .inl hold

/-- A changed object that stands for the same and is bound to what fits it stays among the others.
-/
theorem modify (hh : h.WellBound types) {f : ScriptObject → ScriptObject}
    (hf : ∀ o, h.object? id = some o →
      (f o).sort.host? = o.sort.host? ∧ (f o).WellBound types h id) :
    (h.modify id f).WellBound types := by
  have hkept : h.KeepsHosts (h.modify id f) := .modify fun o ho => (hf o ho).1
  refine hh.of_objects hkept fun other q hq => ?_
  obtain ⟨rfl, o, ho, rfl⟩ | ⟨-, hold⟩ := object?_modify_cases hq
  · exact .inr ((hf o ho).2.mono hkept)
  · exact .inl hold

end Heap.WellBound

/-- The objects are as they were made, the cache has what resolution finds, and every slot and every
function is bound to what fits it. -/
structure Store.Aligned (types : Registry) (s : Store) : Prop where
  founded : s.heap.Founded Engine.noSlot
  cache : s.cache.Sound types
  bound : s.heap.WellBound types

namespace Store

variable {E : Engine} {types : Registry} {s t u : Store} {id : ObjectId} {name key : String}
  {d : Descriptor}

/-- What stands in a slot fits its object. -/
theorem Aligned.slot (hs : s.Aligned types) (hslot : (s.slots id).get? key = some d) :
    d.Fits types key (s.host? id) := by
  obtain ⟨o, ho⟩ := Option.isSome_iff_exists.1 (isSome_of_state (SlotTable.get?_eq_some_iff.1 hslot))
  rw [slots_of_object? ho] at hslot
  rw [host?_of_object? ho]
  exact (hs.bound id o ho).slot key d hslot

/-- What a request finds is bound to what fits the object. -/
theorem Aligned.found (hs : s.Aligned E.types) {h : Handle}
    (hown : (E.ownProperty s id name).1 = some h) : h.Fits E.types id (s.host? id) := by
  by_cases hhost : s.isHostObject id
  · cases hslot : (s.slots id).state (Name.normalize name) with
    | some slot =>
      rw [Engine.ownProperty_of_state hhost hslot] at hown
      cases hown
      cases slot with
      | live d => exact .slot (hs.slot (SlotTable.get?_eq_some_iff.2 hslot))
      | deleted => exact .deleted
    | none =>
      -- the slot is bound to what is foreseen; where nothing is, indexers answer for the name
      obtain ⟨o, ho, hsort⟩ := isHostObject_iff_isHost.1 hhost
      obtain ⟨index, rfl⟩ := hs.founded.exists_created hhost
      obtain ⟨cache, -, hfirst⟩ :=
        Engine.ownProperty_of_unset hs.cache (sort?_of_object? ho) hhost hslot
      rw [hfirst] at hown
      rw [host?_of_object? ho]
      cases hforesee : E.types.foresee (index + 3) (Name.normalize name) o.sort with
      | some bound =>
        rw [hforesee] at hown
        cases hown
        exact .slot (Registry.fits_of_foresee hforesee).1
      | none =>
        rw [hforesee] at hown
        obtain ⟨target, htarget⟩ | ⟨type, htype⟩ := hsort
        · simp only [htarget, Registry.unbound] at hown ⊢
          split at hown
          · cases hown
            exact .indexed rfl _ name
          · cases hown
        · simp only [htype, Registry.unbound] at hown
          cases hown
  · have hnone : s.host? id = none := by
      rw [isHostObject_eq] at hhost
      simpa using hhost
    -- arrays have their length and elements, and everything else is in slots
    have htable {found : Handle} (hslot : Engine.tableSlot s id name = some found) :
        found.Fits E.types id (s.host? id) := by
      obtain ⟨d, hd, rfl⟩ := Option.map_eq_some_iff.1 hslot
      exact .slot (hs.slot hd)
    unfold Engine.ownProperty at hown
    split at hown
    · split at hown
      · cases hown
        exact .element hnone _ _
      · split at hown
        · obtain ⟨v, -, rfl⟩ := Option.map_eq_some_iff.1 hown
          exact .element hnone _ _
        · exact htable hown
    · next target hsort => exact absurd (isHostObject_iff.2 (.inl ⟨target, hsort⟩)) hhost
    · next type hsort => exact absurd (isHostObject_iff.2 (.inr ⟨type, hsort⟩)) hhost
    · exact htable hown

/-! ### What happens to objects -/

/-- A change of the slots of one object. -/
private theorem wellBound_modifySlots (hs : s.heap.WellBound types)
    {f : SlotTable Descriptor → SlotTable Descriptor}
    (hf : ∀ slots key d, (f slots).get? key = some d →
      slots.get? key = some d ∨ d.Fits types key (s.host? id)) :
    (s.modifySlots id f).heap.WellBound types := by
  refine hs.modify fun o ho => ⟨rfl, ?_⟩
  have hold := hs id o ho
  refine ⟨fun key d hd => ?_, hold.function⟩
  -- a slot that is not new was bound before
  obtain hd | hd := hf o.slots key d hd
  · exact hold.slot key d hd
  · rwa [host?_of_object? ho] at hd

/-- A slot is bound. -/
private theorem wellBound_setLive (hs : s.heap.WellBound types)
    (hd : d.Fits types key (s.host? id)) :
    (s.modifySlots id (·.setLive key d)).heap.WellBound types := by
  refine wellBound_modifySlots hs fun slots other d' hd' => ?_
  obtain ⟨rfl, rfl⟩ | hold := SlotTable.get?_setLive_cases hd'
  · exact .inr hd
  · exact .inl hold

/-- What is bound on request fits, and so does the function that is made for it. -/
private theorem wellBound_advance (hs : s.heap.WellBound types) {index : Nat} {o : ScriptObject}
    {f : Option ScriptObject} (ho : s.object? (.created index) = some o)
    (hforesee : types.foresee index key o.sort = some (d, f))
    (hkept : s.heap.KeepsHosts (s.advance index key d f).heap) :
    (s.advance index key d f).heap.WellBound types := by
  obtain ⟨hd, hf⟩ := Registry.fits_of_foresee hforesee
  refine hs.of_objects hkept fun other p hp => ?_
  -- the owner with the new slot, the new function, and all others
  obtain ⟨rfl, rfl⟩ | ⟨rfl, rfl⟩ | ⟨-, hold⟩ := advance_cases ho hp
  · have hold := (hs _ o ho).mono hkept
    refine .inr ⟨fun other d' hd' => ?_, hold.function⟩
    obtain ⟨rfl, rfl⟩ | hd' := SlotTable.get?_setLive_cases hd'
    · exact hd
    · exact hold.slot other d' hd'
  · -- the function is under the identity that names its owner and key
    obtain ⟨group, target, host, rfl, hhost, hfits⟩ := hf p rfl
    refine .inr ⟨fun _ _ hd' => (nomatch hd'), ?_⟩
    rintro _ _ ⟨⟩
    exact ⟨index, key, _, host, rfl, object?_advance_self ho key d _, hhost, hfits⟩
  · exact .inl hold

/-- What comes of a store in which everything is bound to what fits it is such a store, too. -/
structure StaysAligned (types : Registry) (s t : Store) : Prop where
  founded : s.StaysFounded Engine.noSlot t
  aligned : s.Aligned types → t.Aligned types

namespace StaysAligned

/-- What is known of how objects are made is known of a change already. -/
private theorem of_founded (hfounded : s.StaysFounded Engine.noSlot t)
    (hcache : s.cache.Sound types → t.cache.Sound types)
    (hbound : s.Aligned types → s.heap.KeepsHosts t.heap → t.heap.WellBound types) :
    s.StaysAligned types t where
  founded := hfounded
  aligned hs :=
    have hkept := hfounded hs.founded
    ⟨hkept.1, hcache hs.cache, hbound hs hkept.2⟩

/-- What goes on apart from the objects. -/
theorem of_heap_eq (hheap : t.heap = s.heap) (hcache : s.cache.Sound types → t.cache.Sound types) :
    s.StaysAligned types t :=
  of_founded (.of_heap_eq hheap) hcache fun hs _ => hheap ▸ hs.bound

/-- One change after another. -/
theorem trans (h : s.StaysAligned types t) (h' : t.StaysAligned types u) :
    s.StaysAligned types u :=
  ⟨h.founded.trans h'.founded, fun hs => h'.aligned (h.aligned hs)⟩

/-- A request for a property binds what fits, or nothing. -/
private theorem own (E : Engine) (s : Store) (id : ObjectId) (name : String) :
    s.StaysAligned E.types (E.ownProperty s id name).2 := by
  refine ⟨(E.founded_rule Engine.noSlot).own s id name, fun hs => ?_⟩
  by_cases hhost : s.isHostObject id
  -- objects that are no host objects bind nothing
  swap
  · rw [(Engine.ownProperty_of_other E hhost name).1]
    exact hs
  cases hslot : (s.slots id).state (Name.normalize name) with
  | some slot =>
    rw [Engine.ownProperty_of_state hhost hslot]
    exact hs
  | none =>
    obtain ⟨ht, hkept⟩ := (E.founded_rule Engine.noSlot).own s id name hs.founded
    obtain ⟨o, ho, -⟩ := isHostObject_iff_isHost.1 hhost
    obtain ⟨index, rfl⟩ := hs.founded.exists_created hhost
    obtain ⟨cache, hcache, hown⟩ :=
      Engine.ownProperty_of_unset hs.cache (sort?_of_object? ho) hhost hslot
    rw [hown] at ht hkept ⊢
    -- where nothing is foreseen only the cache has changed
    cases hforesee : E.types.foresee (index + 3) (Name.normalize name) o.sort with
    | none =>
      rw [hforesee] at ht
      exact ⟨ht, hcache, hs.bound⟩
    | some bound =>
      rw [hforesee] at ht hkept
      refine ⟨ht, ?_, wellBound_advance (s := { s with cache }) hs.bound ho hforesee hkept⟩
      obtain ⟨d, f⟩ := bound
      cases f <;> exact hcache

/-- The slot that something was found in is bound to something else that fits wherever this does. -/
private theorem rebound {id owner : ObjectId} {name key : String} {handle : Handle} {d : Descriptor}
    (hfound : (E.ownProperty s id name).1 = some handle) (hhome : handle.home = some (owner, key))
    (hfits : ∀ host, handle.descriptor.Fits E.types key host → d.Fits E.types key host)
    (ht : (E.ownProperty s id name).2.StaysAligned E.types t)
    (hfounded : s.StaysFounded Engine.noSlot (t.modifySlots owner (·.setLive key d))) :
    s.StaysAligned E.types (t.modifySlots owner (·.setLive key d)) := by
  refine ⟨hfounded, fun hs => ?_⟩
  have hboth := (own E s id name).trans ht
  have hta := hboth.aligned hs
  obtain rfl := Engine.home_of_ownProperty hfound hhome
  -- the owner stands for the same as before, so the binding still fits it
  have hd : d.Fits E.types key (t.host? owner) := by
    rw [(hboth.founded hs.founded).2.host_eq (Engine.isSome_of_found hfound)]
    cases hs.found hfound with
    | slot hd =>
      cases hhome
      exact hfits _ hd
    | deleted => cases hhome
    | element => cases hhome
    | indexed => cases hhome
  exact ⟨(hfounded hs.founded).1, hta.cache, wellBound_setLive hta.bound hd⟩

/-- What a write puts back goes through the binding that was found. -/
private theorem written {id owner : ObjectId} {name key : String} {handle : Handle} {d : Descriptor}
    (hfound : (E.ownProperty s id name).1 = some handle) (hhome : handle.home = some (owner, key))
    (hwritable : handle.descriptor.isWritable) (hwritten : handle.descriptor.WrittenAs d)
    (ht : (E.ownProperty s id name).2.StaysAligned E.types t) :
    s.StaysAligned E.types (t.putBack owner key d) := by
  have hfounded := (E.founded_rule Engine.noSlot).written s t id name handle owner key d hfound hhome
    hwritable hwritten ht.founded
  obtain hput | hput := t.putBack_eq owner key d
  · rw [hput]
    exact (own E s id name).trans ht
  · rw [hput] at hfounded ⊢
    exact rebound hfound hhome (fun host hd => hd.writtenAs hwritten) ht hfounded

/-- A new object is as old objects are, if it is bound to what fits it. -/
private theorem create {o : ScriptObject} (hfounded : s.StaysFounded Engine.noSlot (s.create o).2)
    (ho : o.WellBound types s.heap (s.heap.create o).1) : s.StaysAligned types (s.create o).2 :=
  of_founded hfounded (fun hcache => hcache) fun hs _ => hs.bound.create ho

/-- A new wrapper counts the elements of its own instance. -/
private theorem wrap (E : Engine) (s : Store) (ref : HostRef) :
    s.StaysAligned E.types (s.wrap E.types ref).2 := by
  refine create ((E.founded_rule Engine.noSlot).wrap s ref) ⟨fun key d hd => ?_, ?_⟩
  · -- a new wrapper has one slot at most, for the count
    simp only [wrapperOf] at hd
    split at hd
    · obtain ⟨-, rfl⟩ | hempty := SlotTable.get?_setLive_cases hd
      · exact .bound (.count ref)
      · cases hempty
    · cases hd
  · rintro group target ⟨⟩

/-- A new type reference has the object for its instances in its slot. -/
private theorem typeReference (E : Engine) (s : Store) (type : TypeId) :
    s.StaysAligned E.types (s.typeReference type).2 := by
  refine of_founded ((E.founded_rule Engine.noSlot).typeReference s type) (fun hcache => hcache)
    fun hs _ => ?_
  have hmade : (s.heap.create (.make .plain (some objectPrototype))).2.WellBound E.types :=
    hs.bound.create (.make (by rintro _ _ ⟨⟩) _)
  refine hmade.create ⟨fun key d hd => ?_, ?_⟩
  · obtain ⟨-, rfl⟩ | hempty := SlotTable.get?_setLive_cases hd
    · exact .value _ _ _
    · cases hempty
  · rintro group target ⟨⟩

/-- New elements of an array are no slots, and it stays an array. -/
private theorem elements (E : Engine) (s : Store) (id : ObjectId) (elements : Array ScriptValue)
    (hthere : (s.elements? id).isSome) : s.StaysAligned E.types (s.setElements id elements) := by
  refine of_founded ((E.founded_rule Engine.noSlot).elements s id elements hthere)
    (fun hcache => hcache) fun hs _ => hs.bound.modify fun o ho => ?_
  have hsort : o.sort.host? = none := (host?_of_object? ho).symm.trans (host?_of_elements hthere)
  refine ⟨hsort.symm, fun key d hd => ?_, ?_⟩
  · have hold := (hs.bound id o ho).slot key d hd
    rwa [hsort] at hold
  · rintro group target ⟨⟩

end StaysAligned

end Store

namespace Engine

open Store Store.StaysAligned

variable {E : Engine} {s : Store}

/-- Whatever the engine does, members stay bound to what fits them. -/
theorem aligned_rule (E : Engine) : E.Rule noSlot (Store.StaysAligned E.types) := by
  have hfounded := E.founded_rule noSlot
  -- a new object that is no method group has nothing bound to it
  have hfresh {s : Store} {sort : ObjectSort} (hsort : ∀ group target, sort ≠ .methods group target)
      (prototype : Option ObjectId) :
      (ScriptObject.make sort prototype).WellBound E.types s.heap
        (s.heap.create (.make sort prototype)).1 := .make hsort prototype
  -- cells belong to no object
  have hcells : (∀ s contents, Store.StaysAligned E.types s (s.addCell contents).2) ∧
      ∀ s cell contents, Store.StaysAligned E.types s (s.setCell cell contents) :=
    ⟨fun s contents => of_founded (hfounded.addCell s contents) (fun hcache => hcache)
        fun hs hkept => hs.bound.of_objects hkept fun _ _ ho => .inl ho,
      fun s cell contents => of_founded (hfounded.setCell s cell contents) (fun hcache => hcache)
        fun hs hkept => hs.bound.of_objects hkept fun _ _ ho => .inl ho⟩
  refine ObjectRule.rule ?_ fun s t hheap hcache => of_heap_eq hheap fun h => hcache ▸ h
  exact {
    trans := fun _ _ _ => .trans
    newObject := fun s prototype => create (hfounded.newObject s prototype) (hfresh (by rintro _ _ ⟨⟩) _)
    newArray := fun s elements => create (hfounded.newArray s elements) (hfresh (by rintro _ _ ⟨⟩) _)
    newFunction := fun s name body =>
      create (hfounded.newFunction s name body) (hfresh (by rintro _ _ ⟨⟩) _)
    wrap := wrap E
    typeReference := typeReference E
    own := own E
    plain := fun s id key value habsent =>
      of_founded (hfounded.plain s id key value habsent) (fun hcache => hcache) fun hs _ =>
        wellBound_setLive hs.bound (.value _ _ _)
    written := fun s t id name handle owner key d => written
    addCell := hcells.1
    setCell := hcells.2
    -- a shared descriptor has the target of the one in its slot
    shared := fun s t id name handle owner key cell d contents hfound hhome hshared hcell =>
      rebound hfound hhome (fun host hd => hd.sharedIn hshared) (hcell ▸ hcells.1 _ contents)
        (hfounded.shared s t id name handle owner key cell d contents hfound hhome hshared hcell)
    -- type references refuse definitions, so nothing foreign gets into them
    define := fun s id name d htype hd =>
      of_founded (hfounded.define s id name d htype hd) (fun hcache => hcache) fun hs _ =>
        wellBound_setLive hs.bound <| .defined hd fun type hhost => by
          rw [Store.host?_eq_inr_iff] at hhost
          simp [Store.referencedType?, hhost] at htype
    remove := fun s id name hhost =>
      of_founded (hfounded.remove s id name hhost) (fun hcache => hcache) fun hs _ =>
        wellBound_modifySlots hs.bound fun _ _ _ hd => .inl (SlotTable.get?_of_remove hd)
    delete := fun s id key hhost hspared =>
      of_founded (hfounded.delete s id key hhost hspared) (fun hcache => hcache) fun hs _ =>
        wellBound_modifySlots hs.bound fun _ _ _ hd => .inl (SlotTable.get?_of_markDeleted hd)
    elements := elements E }

/-- At first there are three objects without slots. -/
theorem aligned_initial (types : Registry) : Store.initial.Aligned types where
  founded := founded_initial noSlot
  cache := ResolutionCache.sound_empty types
  bound id o ho := by
    match id, ho with
    | .created 0, ho | .created 1, ho | .created 2, ho =>
      cases ho
      exact .make (by rintro _ _ ⟨⟩) _
    | .created (index + 3), ho => cases ho
    | .bound _ _, ho => cases ho

/-- In every history members are bound to what fits them. -/
theorem Becomes.aligned (h : E.Becomes noSlot .initial s) : s.Aligned E.types :=
  (E.aligned_rule.becomes (fun _ _ => of_heap_eq) h).aligned (aligned_initial E.types)

end Engine

end Membrane
