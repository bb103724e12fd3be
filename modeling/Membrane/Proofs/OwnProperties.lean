import Membrane.Realm.Own

/-!
# Requests for own properties

The first request for a name of a wrapper or type reference binds what the name denotes
(`Engine.Binding`); after that the slot answers by itself (`Engine.ownProperty_cases`). So a request
leaves the slots in use as they are, and all other objects (`Engine.asked_ownProperty`).
-/

namespace Membrane

/-- Wrappers and type references. -/
def Store.isHostObject (s : Store) (id : ObjectId) : Bool :=
  match s.sort? id with
  | some (.wrapper _) | some (.typeReference _) => true
  | _ => false

/-- The host objects are the wrappers and the type references. -/
theorem Store.isHostObject_iff {s : Store} {id : ObjectId} :
    s.isHostObject id ↔ (∃ target, s.sort? id = some (.wrapper target)) ∨
      ∃ type, s.sort? id = some (.typeReference type) := by
  unfold isHostObject
  split
  · next target hsort => exact iff_of_true rfl (.inl ⟨target, hsort⟩)
  · next type hsort => exact iff_of_true rfl (.inr ⟨type, hsort⟩)
  · next hwrapper hreference =>
    refine iff_of_false Bool.false_ne_true ?_
    rintro (⟨target, hsort⟩ | ⟨type, hsort⟩)
    · exact hwrapper target hsort
    · exact hreference type hsort

/-- What a request finds in a slot of a host object. -/
def Slot.handle (id : ObjectId) (key : String) : Slot Descriptor → Handle
  | .live d => ⟨d, some (id, key)⟩
  | .deleted => ⟨.absent, none⟩

namespace Engine

open Store

variable {E : Engine} {s t : Store} {id : ObjectId} {index : Nat} {name key : String} {h : Handle}

/-! ### How a request ends -/

/-- How the first request for a name of a host object can end: something is bound in the slot, a new
function for host methods perhaps, or it is found apart from the slots, or there is nothing. -/
inductive Binding (s : Store) (id : ObjectId) (key : String) : Option Handle × Store → Prop where
  | slot (d : Descriptor) : Binding s id key (bind s id key d)
  | methods (group : MethodGroup) (target : Option HostRef) (d : Descriptor) :
      Binding s id key (bind (s.bindMethods id key group target).2 id key d)
  | apart (h : Handle) (hhome : h.home = none) (hvalue : ∀ v flags, h.descriptor ≠ .data v flags) :
      Binding s id key (some h, s)
  | nothing : Binding s id key (none, s)

/-- A wrapper binds members of its instance. -/
private theorem binding_bindInstance (E : Engine) (s : Store) (id : ObjectId) (target : HostRef)
    (name key : String) :
    Binding (E.resolve s target.type key .onInstance).2 id key
      (E.bindInstance s id target name key) := by
  unfold bindInstance
  generalize E.resolve s target.type key .onInstance = r
  obtain ⟨member, t⟩ := r
  -- fields and properties take a slot, a method group takes one with its function, an indexer none
  cases member with
  | field f => exact .slot _
  | property p => exact .slot _
  | methodGroup group => exact .methods group (some target) _
  | indexer i => exact .apart _ rfl (by simp)
  | constant n => exact .nothing
  | undefined => exact .nothing

/-- A type reference binds static members and constants. -/
private theorem binding_bindStatic (E : Engine) (s : Store) (id : ObjectId) (type : TypeId)
    (key : String) :
    Binding (E.resolve s type key .onType).2 id key (E.bindStatic s id type key) := by
  unfold bindStatic
  generalize E.resolve s type key .onType = r
  obtain ⟨member, t⟩ := r
  cases member with
  | constant n => exact .slot _
  | property p => exact .slot _
  | field f => exact .slot _
  | methodGroup group => exact .methods group none _
  | indexer i => exact .nothing
  | undefined => exact .nothing

/-- A slot that is in use is not bound again. -/
private theorem hostSlot_of_state {slot : Slot Descriptor}
    (hslot : (s.slots id).state key = some slot) (bindUnset : Store → Option Handle × Store) :
    hostSlot s id key bindUnset = (some (slot.handle id key), s) := by
  unfold hostSlot
  rw [hslot]
  cases slot <;> rfl

/-- A slot that is in use answers a request for a host object's property by itself. -/
theorem ownProperty_of_state (hhost : s.isHostObject id) {slot : Slot Descriptor}
    (hslot : (s.slots id).state (Name.normalize name) = some slot) :
    E.ownProperty s id name = (some (slot.handle id (Name.normalize name)), s) := by
  unfold ownProperty
  obtain ⟨target, hsort⟩ | ⟨type, hsort⟩ := isHostObject_iff.1 hhost
  · rw [hsort]
    exact hostSlot_of_state hslot _
  · rw [hsort]
    exact hostSlot_of_state hslot _

/-- A slot that was never used is bound, and nothing but the cache has changed until then. -/
theorem binding_ownProperty (E : Engine) (hhost : s.isHostObject id)
    (hunused : (s.slots id).state (Name.normalize name) = none) :
    ∃ cache, Binding { s with cache } id (Name.normalize name) (E.ownProperty s id name) := by
  unfold ownProperty hostSlot
  -- for both kinds of host objects the store to bind in differs in its cache only
  obtain ⟨target, hsort⟩ | ⟨type, hsort⟩ := isHostObject_iff.1 hhost
  · rw [hsort]
    simp only [hunused]
    exact ⟨_, binding_bindInstance E s id target name _⟩
  · rw [hsort]
    simp only [hunused]
    exact ⟨_, binding_bindStatic E s id type _⟩

/-- Other objects have their properties in their own table or among their elements. -/
theorem ownProperty_of_other (E : Engine) (hhost : ¬ s.isHostObject id) (name : String) :
    (E.ownProperty s id name).2 = s ∧
      ∀ h, (E.ownProperty s id name).1 = some h → h.home = none ∨ h.home = some (id, name) := by
  have htable : ∀ h, tableSlot s id name = some h → h.home = none ∨ h.home = some (id, name) := by
    intro h hslot
    obtain ⟨d, -, rfl⟩ := Option.map_eq_some_iff.1 hslot
    exact .inr rfl
  rw [isHostObject_iff] at hhost
  unfold ownProperty
  split
  · -- length and elements of an array are made up, and stand in no slot
    split
    · exact ⟨rfl, fun h hfound => by cases hfound; exact .inl rfl⟩
    · split
      · refine ⟨rfl, fun h hfound => ?_⟩
        obtain ⟨v, -, rfl⟩ := Option.map_eq_some_iff.1 hfound
        exact .inl rfl
      · exact ⟨rfl, htable⟩
  · next target hsort => exact absurd (.inl ⟨target, hsort⟩) hhost
  · next type hsort => exact absurd (.inr ⟨type, hsort⟩) hhost
  · exact ⟨rfl, htable⟩

/-! ### Where a property stands -/

/-- The handle of a host object's property stands in the slot of the normalized name; one that
stands in no slot holds no value. -/
theorem home_of_host (hhost : s.isHostObject id) (hown : (E.ownProperty s id name).1 = some h) :
    h.home = some (id, Name.normalize name) ∨
      h.home = none ∧ ∀ v flags, h.descriptor ≠ .data v flags := by
  -- a slot in use is the home itself; otherwise the first request makes it the home, or finds none
  cases hslot : (s.slots id).state (Name.normalize name) with
  | some slot =>
    rw [ownProperty_of_state hhost hslot] at hown
    cases hown
    cases slot with
    | live d => exact .inl rfl
    | deleted => exact .inr ⟨rfl, by simp [Slot.handle]⟩
  | none =>
    obtain ⟨cache, hbinding⟩ := binding_ownProperty E hhost hslot
    generalize E.ownProperty s id name = r at hbinding hown
    cases hbinding with
    | slot d => cases hown; exact .inl rfl
    | methods group target d => cases hown; exact .inl rfl
    | apart h hhome hvalue => cases hown; exact .inr ⟨hhome, hvalue⟩
    | nothing => cases hown

/-- A handle that stands in a slot stands in a slot of the object that was asked. -/
theorem home_of_ownProperty (hown : (E.ownProperty s id name).1 = some h) {owner : ObjectId}
    (hhome : h.home = some (owner, key)) : owner = id := by
  -- the slot may have another key, but never another owner
  by_cases hhost : s.isHostObject id
  · obtain h | ⟨h, -⟩ := home_of_host hhost hown
    · rw [hhome] at h
      cases h
      rfl
    · rw [hhome] at h
      cases h
  · obtain h | h := (ownProperty_of_other E hhost name).2 _ hown
    · rw [hhome] at h
      cases h
    · rw [hhome] at h
      cases h
      rfl

/-- Only an object that is there has properties. -/
theorem isSome_of_found (hown : (E.ownProperty s id name).1 = some h) : (s.object? id).isSome := by
  cases hobject : s.object? id with
  | some o => rfl
  | none =>
    have hsort : s.sort? id = none := by rw [sort?, hobject]; rfl
    have hslots : s.slots id = .empty := by rw [slots, hobject]; rfl
    unfold ownProperty at hown
    rw [hsort] at hown
    simp only [tableSlot, hslots] at hown
    cases hown

/-- A function for host methods does not take the place of its owner. -/
theorem isSome_bindMethods (h : (s.object? id).isSome) (key : String) (group : MethodGroup)
    (target : Option HostRef) : ((s.bindMethods id key group target).2.object? id).isSome := by
  obtain ⟨o, ho⟩ := Option.isSome_iff_exists.1 h
  -- the function is another object, as its identity is a bound one
  cases id with
  | created index =>
    have hsame : (s.bindMethods (.created index) key group target).2.object? (.created index) =
        s.object? (.created index) := by
      show (s.heap.set (.bound index key) _).object? (.created index) = _
      exact Heap.object?_set_of_ne _ (by simp)
    rw [hsame, ho]
    rfl
  | bound owner slot =>
    have hsame : (s.bindMethods (.bound owner slot) key group target).2.object?
        (.bound owner slot) = some o := s.heap.object?_create_of_some _ ho
    rw [hsame]
    rfl

/-- What stands in the slot of a host object after a request for it is what the request found. -/
theorem found_of_live (hhost : s.isHostObject id) {d : Descriptor}
    (hlive : ((E.ownProperty s id name).2.slots id).get? (Name.normalize name) = some d) :
    (E.ownProperty s id name).1 = some ⟨d, some (id, Name.normalize name)⟩ := by
  cases hslot : (s.slots id).state (Name.normalize name) with
  | some slot =>
    rw [ownProperty_of_state hhost hslot] at hlive ⊢
    rw [SlotTable.get?, hslot] at hlive
    cases slot with
    | live d' =>
      cases hlive
      rfl
    | deleted => cases hlive
  | none =>
    have hthere : (s.object? id).isSome := by
      obtain ⟨target, hsort⟩ | ⟨type, hsort⟩ := isHostObject_iff.1 hhost <;>
      · obtain ⟨o, ho, -⟩ := Option.map_eq_some_iff.1 hsort
        exact ho ▸ rfl
    -- what has just been bound is what is found
    have hbound {u : Store} (hu : (u.object? id).isSome) {d' : Descriptor}
        (h : ((bind u id (Name.normalize name) d').2.slots id).get? (Name.normalize name) =
          some d) :
        (bind u id (Name.normalize name) d').1 = some ⟨d, some (id, Name.normalize name)⟩ := by
      simp only [bind, slots_modifySlots_self u _ hu, SlotTable.get?, SlotTable.state_setLive,
        Option.bind_some, Slot.live?, Option.some.injEq] at h
      rw [bind, h]
    obtain ⟨cache, hbinding⟩ := binding_ownProperty E hhost hslot
    have hunused : (s.slots id).get? (Name.normalize name) = none := by
      rw [SlotTable.get?, hslot]
      rfl
    generalize E.ownProperty s id name = r at hbinding hlive
    cases hbinding with
    | slot d' => exact hbound hthere hlive
    | methods group target d' =>
      have hthere' : ((({ s with cache } : Store).bindMethods id (Name.normalize name) group
          target).2.object? id).isSome :=
        isSome_bindMethods (s := { s with cache }) hthere _ group target
      exact hbound hthere' hlive
    | apart h hhome hvalue =>
      have hlive : (s.slots id).get? (Name.normalize name) = some d := hlive
      rw [hunused] at hlive
      cases hlive
    | nothing =>
      have hlive : (s.slots id).get? (Name.normalize name) = some d := hlive
      rw [hunused] at hlive
      cases hlive

end Engine

/-! ### What a request leaves alone -/

/-- The object keeps its sort, and every slot of it that was ever used. -/
def Store.KeepsUsed (id : ObjectId) (s t : Store) : Prop :=
  t.sort? id = s.sort? id ∧
    ∀ key slot, (s.slots id).state key = some slot → (t.slots id).state key = some slot

namespace Store

variable {id : ObjectId} {s t u : Store}

/-- Nothing changes. -/
theorem KeepsUsed.refl (id : ObjectId) (s : Store) : KeepsUsed id s s :=
  ⟨rfl, fun _ _ hslot => hslot⟩

/-- One change after another. -/
theorem KeepsUsed.trans (h : KeepsUsed id s t) (h' : KeepsUsed id t u) : KeepsUsed id s u :=
  ⟨h'.1.trans h.1, fun key slot hslot => h'.2 key slot (h.2 key slot hslot)⟩

/-- The object is the same. -/
theorem keepsUsed_of_object?_eq (h : t.object? id = s.object? id) : KeepsUsed id s t := by
  refine ⟨by simp only [sort?, h], fun key slot hslot => ?_⟩
  simpa only [slots, h] using hslot

/-- Only an object that is there has used slots. -/
theorem isSome_of_state {key : String} {slot : Slot Descriptor}
    (h : (s.slots id).state key = some slot) : (s.object? id).isSome := by
  cases hobject : s.object? id with
  | some o => rfl
  | none =>
    rw [slots, hobject] at h
    cases h

/-- A descriptor goes into a slot that was not in use. -/
theorem keepsUsed_setLive {key : String} (h : (s.slots id).state key = none) (d : Descriptor) :
    KeepsUsed id s (s.modifySlots id (·.setLive key d)) := by
  refine ⟨s.sort?_modifySlots id id _, fun other slot hslot => ?_⟩
  have hne : other ≠ key := by
    rintro rfl
    rw [h] at hslot
    cases hslot
  rw [slots_modifySlots_self s _ (isSome_of_state hslot), SlotTable.state_setLive_of_ne _ d hne]
  exact hslot

/-- A function for host methods is an object of its own. -/
theorem object?_bindMethods {index : Nat} (h : (s.object? (.created index)).isSome)
    (owner : ObjectId) (key : String) (group : MethodGroup) (target : Option HostRef) :
    (s.bindMethods owner key group target).2.object? (.created index) =
      s.object? (.created index) := by
  -- the function is put at a bound identity, or created behind all others
  cases owner with
  | created other =>
    show (s.heap.set (.bound other key) _).object? (.created index) = _
    exact Heap.object?_set_of_ne _ (by simp)
  | bound other slot =>
    obtain ⟨o, ho⟩ := Option.isSome_iff_exists.1 h
    rw [ho]
    exact s.heap.object?_create_of_some _ ho

end Store

/-- What a request for a property of the object `id` does to the object `created index`. -/
structure Store.Asked (id : ObjectId) (index : Nat) (s t : Store) : Prop where
  own : .created index = id → KeepsUsed id s t
  other : .created index ≠ id → t.object? (.created index) = s.object? (.created index)

namespace Engine

open Store

variable {E : Engine} {s t : Store} {id : ObjectId} {index : Nat} {key : String}

/-- The object that is looked at is the same. -/
private theorem asked_of_object?_eq (h : t.object? (.created index) = s.object? (.created index)) :
    Asked id index s t where
  own := by
    rintro rfl
    exact keepsUsed_of_object?_eq h
  other := fun _ => h

/-- A name is bound in one object. -/
private theorem asked_bind (h : t.object? (.created index) = s.object? (.created index))
    (hunused : (s.slots id).state key = none) (d : Descriptor) :
    Asked id index s (bind t id key d).2 where
  own := by
    rintro rfl
    have hslots : t.slots (.created index) = s.slots (.created index) := by simp only [slots, h]
    rw [← hslots] at hunused
    exact (keepsUsed_of_object?_eq h).trans (keepsUsed_setLive hunused d)
  other := fun hne => (t.object?_modifySlots_of_ne _ hne).trans h

/-- Asking for a property leaves the other objects as they are, and every slot that was used. -/
theorem asked_ownProperty (hobject : (s.object? (.created index)).isSome) (id : ObjectId)
    (name : String) : Asked id index s (E.ownProperty s id name).2 := by
  by_cases hhost : s.isHostObject id
  · cases hslot : (s.slots id).state (Name.normalize name) with
    | some slot =>
      rw [ownProperty_of_state hhost hslot]
      exact asked_of_object?_eq rfl
    | none =>
      -- a binding sets the one slot that was not in use
      obtain ⟨cache, hbinding⟩ := binding_ownProperty E hhost hslot
      generalize E.ownProperty s id name = r at hbinding
      cases hbinding with
      | slot d =>
        have hcache : ({ s with cache } : Store).object? (.created index) =
            s.object? (.created index) := rfl
        exact asked_bind hcache hslot d
      | methods group target d =>
        have hmethods := object?_bindMethods (s := { s with cache }) hobject id
          (Name.normalize name) group target
        exact asked_bind (s := s) hmethods hslot d
      | apart h hhome hvalue => exact asked_of_object?_eq rfl
      | nothing => exact asked_of_object?_eq rfl
  · rw [(ownProperty_of_other E hhost name).1]
    exact asked_of_object?_eq rfl

end Engine

end Membrane
