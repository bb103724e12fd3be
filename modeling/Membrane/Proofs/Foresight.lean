import Membrane.Proofs.CacheTransparency
import Membrane.Proofs.Grounding

/-!
# Stores that are ahead of another

When a name of a wrapper or type reference is looked up before anything else happens to it, its slot
is bound early. What is bound there does not depend on the moment (`Registry.foresee`). So a store
on which names were looked up is *ahead* of the one on which they were not (`Store.Ahead`): some
slots that are unset there hold what the first request is going to put in them, and the functions
for host methods that they hold are made already.

## Key results

- `Registry.GroundedIn.descriptor_of_foresee`: what is foreseen refers to nothing else that is
  still to be made
- `Store.Ahead.sort?`, `Store.Ahead.state`: what both stores show of an object
-/

namespace Membrane

/-! ### Grounded stores -/

/-- An object that has been created is there. -/
theorem ObjectId.groundedIn_created (s : Store) (index : Nat) :
    (ObjectId.created index).GroundedIn s := trivial

/-- So is whatever the store has. -/
theorem ObjectId.groundedIn_of_isSome {s : Store} {id : ObjectId} (h : (s.object? id).isSome) :
    id.GroundedIn s := by
  cases id with
  | created index => trivial
  | bound owner key => exact h

/-- What stands in a slot is grounded. -/
def Descriptor.GroundedIn (s : Store) : Descriptor → Prop
  | .data v _ => v.GroundedIn s
  | .accessor get _ => get.GroundedIn s
  | .field member _ => member.GroundedIn s
  | .property member _ shadow => member.GroundedIn s ∧ ∀ v ∈ shadow, ScriptValue.GroundedIn s v
  | .sharedProperty member _ _ => member.GroundedIn s
  | .index member _ _ => member.GroundedIn s
  -- what a cell holds is grounded with the store
  | .sharedData .. | .count _ | .absent => True

/-- The body of a script function is grounded wherever `this` and the arguments are. -/
def ScriptValue.GroundedBody (s : Store)
    (body : ScriptValue → List ScriptValue → Program .script) : Prop :=
  ∀ t, s.Grows t → ∀ this args, this.GroundedIn t → (∀ a ∈ args, a.GroundedIn t) →
    (body this args).GroundedIn t

/-- What the object holds refers to nothing that is still to be made. -/
def ObjectSort.GroundedIn (s : Store) : ObjectSort → Prop
  | .array elements => ∀ v ∈ elements, v.GroundedIn s
  | .function _ body => ScriptValue.GroundedBody s body
  | .methods group _ => ∀ m ∈ group.methods, m.GroundedIn s
  | .plain | .wrapper _ | .typeReference _ => True

/-- Everything that an object refers to is grounded. -/
structure ScriptObject.GroundedIn (s : Store) (o : ScriptObject) : Prop where
  sort : o.sort.GroundedIn s
  slots : ∀ key d, o.slots.state key = some (.live d) → d.GroundedIn s
  prototype : ∀ p ∈ o.prototype, p.GroundedIn s

/-- Everything in the store is grounded, and a function for host methods is there only if its slot
is in use. -/
structure Store.Grounded (types : Registry) (s : Store) : Prop where
  registry : types.GroundedIn s
  cache : s.cache.Sound types
  objects : ∀ id o, s.object? id = some o → o.GroundedIn s
  cells : ∀ cell v, s.heap.cell cell = some v → v.GroundedIn s
  born : ∀ owner key o, s.object? (.bound owner key) = some o →
    (∃ group target, o.sort = .methods group target) ∧ s.Used (.created owner) key
  instances : ∀ i ∈ s.instances, i.storage.GroundedIn s
  statics : ∀ entry ∈ s.statics, entry.2.GroundedIn s
  globals : ∀ entry ∈ s.globals, entry.2.GroundedIn s

section

variable {s t : Store}

/-- A grounded descriptor stays so. -/
theorem Descriptor.GroundedIn.mono {d : Descriptor} (h : d.GroundedIn s) (hgrows : s.Grows t) :
    d.GroundedIn t := by
  cases d with
  | data v flags => exact ScriptValue.GroundedIn.mono h hgrows
  | accessor get flags => exact Program.GroundedIn.mono h hgrows
  | field member target => exact Field.GroundedIn.mono h hgrows
  | property member target shadow => exact ⟨h.1.mono hgrows, fun v hv => (h.2 v hv).mono hgrows⟩
  | sharedProperty member target cell => exact Property.GroundedIn.mono h hgrows
  | index member target name => exact Indexer.GroundedIn.mono h hgrows
  | _ => trivial

/-- What a grounded object holds stays so. -/
theorem ObjectSort.GroundedIn.mono {sort : ObjectSort} (h : sort.GroundedIn s)
    (hgrows : s.Grows t) : sort.GroundedIn t := by
  cases sort with
  | array elements => exact fun v hv => (h v hv).mono hgrows
  | function name body => exact fun u hu => h u (hgrows.trans hu)
  | methods group target => exact fun m hm => (h m hm).mono hgrows
  | _ => trivial

/-- A grounded object stays so. -/
theorem ScriptObject.GroundedIn.mono {o : ScriptObject} (h : o.GroundedIn s) (hgrows : s.Grows t) :
    o.GroundedIn t where
  sort := h.sort.mono hgrows
  slots key d hslot := (h.slots key d hslot).mono hgrows
  prototype p hp := (h.prototype p hp).mono hgrows

/-- A new object without slots is grounded if its contents and its prototype are. -/
theorem ScriptObject.groundedIn_make {sort : ObjectSort} (hsort : sort.GroundedIn s)
    {prototype : Option ObjectId} (hprototype : ∀ p ∈ prototype, p.GroundedIn s) :
    (ScriptObject.make sort prototype).GroundedIn s where
  sort := hsort
  slots _ _ hslot := nomatch hslot
  prototype := hprototype

/-- A new host object with a slot that is taken from the start. -/
theorem ScriptObject.groundedIn_setLive {sort : ObjectSort} (hsort : sort.GroundedIn s)
    {key : String} {d : Descriptor} (hd : d.GroundedIn s) {prototype : Option ObjectId}
    (hprototype : ∀ p ∈ prototype, p.GroundedIn s) :
    (ScriptObject.mk sort (SlotTable.empty.setLive key d) prototype).GroundedIn s where
  sort := hsort
  slots other d' hslot := by
    -- the one slot, or a slot that is not in use
    by_cases heq : other = key
    · rw [heq, SlotTable.state_setLive] at hslot
      cases hslot
      exact hd
    · rw [SlotTable.state_setLive_of_ne _ d heq] at hslot
      cases hslot
  prototype := hprototype

/-- The function for a group of grounded methods is grounded. -/
theorem ScriptObject.groundedIn_methodsOf {group : MethodGroup}
    (h : ∀ m ∈ group.methods, m.GroundedIn s) (target : Option HostRef) :
    (Store.methodsOf group target).GroundedIn s := by
  refine ScriptObject.groundedIn_make (by exact h) ?_
  rintro _ ⟨⟩
  trivial

/-- Nothing is there at the start but the three prototypes. -/
theorem Store.grounded_initial {types : Registry} (h : types.GroundedIn .initial) :
    Store.initial.Grounded types where
  registry := h
  cache := ResolutionCache.sound_empty types
  objects id o ho := by
    -- all that there is are the three prototypes
    obtain ⟨prototype, hprototype, rfl⟩ : ∃ prototype : Option ObjectId,
        (∀ p ∈ prototype, p = Store.objectPrototype) ∧ o = .make .plain prototype := by
      cases id with
      | created index =>
        have hmem := Array.mem_of_getElem? ho
        simp only [Store.initial, List.mem_toArray, List.mem_cons, List.not_mem_nil,
          or_false] at hmem
        obtain rfl | rfl | rfl := hmem
        · exact ⟨none, fun _ hp => (nomatch hp), rfl⟩
        · exact ⟨some Store.objectPrototype, fun _ hp => (Option.some.inj hp).symm, rfl⟩
        · exact ⟨some Store.objectPrototype, fun _ hp => (Option.some.inj hp).symm, rfl⟩
      | bound owner key => cases ho
    refine ScriptObject.groundedIn_make (by trivial) fun p hp => ?_
    rw [hprototype p hp]
    trivial
  cells cell v hcell := nomatch hcell
  born owner key o ho := nomatch ho
  instances i hi := by simp [Store.initial] at hi
  statics entry hentry := nomatch hentry
  globals entry hentry := nomatch hentry

end

/-! ### What a request is going to bind -/

/-- What the first request for a key puts in the slot of a host object of this sort, together with
the function that it makes for host methods. -/
def Registry.foresee (types : Registry) (index : Nat) (key : String) :
    ObjectSort → Option (Descriptor × Option ScriptObject)
  | .wrapper target =>
      match types.resolve target.type key .onInstance with
      | .field f => some (.field f (some target), none)
      | .property p => some (.property p (some target) none, none)
      | .methodGroup group =>
          some (.data (.object (.bound index key)) ⟨true, true, false⟩,
            some (Store.methodsOf group (some target)))
      | .indexer _ | .constant _ | .undefined => none
  -- members of the type itself; the function for its methods is a constant there
  | .typeReference type =>
      match types.resolve type key .onType with
      | .constant n => some (.data (.number (.ofInt n.val)) .none, none)
      | .property p => some (.property p none none, none)
      | .field f => some (.field f none, none)
      | .methodGroup group =>
          some (.data (.object (.bound index key)) .none, some (Store.methodsOf group none))
      | .indexer _ | .undefined => none
  | _ => none

/-- What a request finds for a key that nothing is bound for: the indexer of an instance. -/
def Registry.unbound (types : Registry) (name key : String) : ObjectSort → Option Handle
  | .wrapper target =>
      match types.resolve target.type key .onInstance with
      | .indexer i => some ⟨.index i target name, none⟩
      | _ => none
  | _ => none

/-- The store with a new function for host methods, if there is to be one. -/
def Store.bear (s : Store) (index : Nat) (key : String) : Option ScriptObject → Store
  | some o => { s with heap := s.heap.set (.bound index key) o }
  | none => s

namespace Engine

variable {E : Engine} {s : Store} {index : Nat} {name : String} {sort : ObjectSort}

/-- The first request for a name binds what was foreseen, if anything was. -/
theorem ownProperty_of_unset (hcache : s.cache.Sound E.types)
    (hsort : s.sort? (.created index) = some sort) (hhost : s.isHostObject (.created index))
    (hunset : (s.slots (.created index)).state (Name.normalize name) = none) :
    ∃ cache : ResolutionCache, cache.Sound E.types ∧ E.ownProperty s (.created index) name =
      match E.types.foresee index (Name.normalize name) sort with
      | some (d, f) => bind (({ s with cache } : Store).bear index (Name.normalize name) f)
          (.created index) (Name.normalize name) d
      | none => (E.types.unbound name (Name.normalize name) sort, { s with cache }) := by
  obtain ⟨target, hwrapper⟩ | ⟨type, hreference⟩ := Store.isHostObject_iff.1 hhost
  · -- the cache answers what resolution does, and takes the answer in
    obtain rfl : sort = .wrapper target := by
      rw [hsort] at hwrapper
      exact Option.some.inj hwrapper
    refine ⟨_, hcache.resolve_snd target.type (Name.normalize name) .onInstance, ?_⟩
    have hmember := hcache.resolve_fst target.type (Name.normalize name) .onInstance
    simp only [ownProperty, hsort, hostSlot, hunset, bindInstance, resolve, Registry.foresee,
      Registry.unbound, hmember]
    cases E.types.resolve target.type (Name.normalize name) .onInstance <;> rfl
  · obtain rfl : sort = .typeReference type := by
      rw [hsort] at hreference
      exact Option.some.inj hreference
    refine ⟨_, hcache.resolve_snd type (Name.normalize name) .onType, ?_⟩
    have hmember := hcache.resolve_fst type (Name.normalize name) .onType
    simp only [ownProperty, hsort, hostSlot, hunset, bindStatic, resolve, Registry.foresee,
      Registry.unbound, hmember]
    cases E.types.resolve type (Name.normalize name) .onType <;> rfl

end Engine

/-! ### What is foreseen -/

/-- The sort of wrappers and type references. -/
def ObjectSort.IsHost (sort : ObjectSort) : Prop :=
  (∃ target, sort = .wrapper target) ∨ ∃ type, sort = .typeReference type

/-- An object is a host object by its sort. -/
theorem Store.isHostObject_iff_isHost {s : Store} {id : ObjectId} :
    s.isHostObject id ↔ ∃ o, s.object? id = some o ∧ o.sort.IsHost := by
  rw [isHostObject_iff, Store.sort?]
  cases s.object? id with
  | none => simp
  | some o => simp [ObjectSort.IsHost]

namespace Registry

variable {types : Registry} {index : Nat} {key : String} {sort : ObjectSort} {d : Descriptor}
  {f : Option ScriptObject} {s : Store}

/-- Something is foreseen for host objects alone. -/
theorem isHost_of_foresee (h : types.foresee index key sort = some (d, f)) : sort.IsHost := by
  cases sort with
  | wrapper target => exact .inl ⟨target, rfl⟩
  | typeReference type => exact .inr ⟨type, rfl⟩
  | _ => cases h

/-- What is foreseen refers to no function but the one that is made for it. -/
theorem GroundedIn.descriptor_of_foresee (hregistry : types.GroundedIn s)
    (h : types.foresee index key sort = some (d, f))
    (hf : f.isSome → (s.object? (.bound index key)).isSome) : d.GroundedIn s := by
  cases sort with
  | wrapper target =>
    have hmember := hregistry.resolve target.type key .onInstance
    simp only [foresee] at h
    generalize types.resolve target.type key .onInstance = member at h hmember
    cases member with
    | field field =>
      cases h
      exact hmember
    -- no value hides a property that is bound anew
    | property property =>
      cases h
      exact ⟨hmember, fun _ hv => nomatch hv⟩
    | methodGroup group =>
      cases h
      -- the function is there, so the value that refers to it is grounded
      exact hf rfl
    | _ => cases h
  | typeReference type =>
    have hmember := hregistry.resolve type key .onType
    simp only [foresee] at h
    generalize types.resolve type key .onType = member at h hmember
    cases member with
    | field field =>
      cases h
      exact hmember
    | property property =>
      cases h
      exact ⟨hmember, fun _ hv => nomatch hv⟩
    | methodGroup group =>
      cases h
      exact hf rfl
    | constant n =>
      cases h
      trivial
    | _ => cases h
  | _ => cases h

/-- The function that is made for host methods stands for a grounded method group. -/
theorem GroundedIn.methods_of_foresee (hregistry : types.GroundedIn s) {o : ScriptObject}
    (h : types.foresee index key sort = some (d, some o)) :
    ∃ group target, o = Store.methodsOf group target ∧ ∀ m ∈ group.methods, m.GroundedIn s := by
  cases sort with
  | wrapper target =>
    have hmember := hregistry.resolve target.type key .onInstance
    simp only [foresee] at h
    generalize types.resolve target.type key .onInstance = member at h hmember
    -- only a group of methods comes with an object
    cases member with
    | methodGroup group =>
      cases h
      exact ⟨group, some target, rfl, hmember⟩
    | _ => cases h
  | typeReference type =>
    have hmember := hregistry.resolve type key .onType
    simp only [foresee] at h
    generalize types.resolve type key .onType = member at h hmember
    cases member with
    | methodGroup group =>
      cases h
      exact ⟨group, none, rfl, hmember⟩
    | _ => cases h
  | _ => cases h

end Registry

/-! ### Stores that are ahead -/

/-- What a slot holds in a heap that is ahead: the same, or if it is unset perhaps what the first
request is going to bind, together with the function that is made for it. -/
def Heap.SlotAhead (types : Registry) (heap : Heap) (id : ObjectId) (key : String)
    (sort : ObjectSort) (slot slot' : Option (Slot Descriptor)) : Prop :=
  slot' = slot ∨
    slot = none ∧ ∃ index d f, id = .created index ∧ types.foresee index key sort = some (d, f) ∧
      slot' = some (.live d) ∧ ∀ o ∈ f, heap.object? (.bound index key) = some o

/-- The object `o'` of a heap that is ahead differs from `o` in unset slots at most. -/
structure ScriptObject.Ahead (types : Registry) (heap : Heap) (id : ObjectId)
    (o o' : ScriptObject) : Prop where
  sort : o'.sort = o.sort
  prototype : o'.prototype = o.prototype
  slot : ∀ key, heap.SlotAhead types id key o.sort (o.slots.state key) (o'.slots.state key)

/-- The heap `ahead` has the objects and cells of the other one, and functions for host methods
besides. -/
structure Heap.Ahead (types : Registry) (heap ahead : Heap) : Prop where
  size : ahead.created.size = heap.created.size
  cells : ahead.cells = heap.cells
  object : ∀ id o, heap.object? id = some o →
    ∃ o', ahead.object? id = some o' ∧ o.Ahead types ahead id o'
  methods : ∀ owner key o, ahead.object? (.bound owner key) = some o →
    ∃ group target, o.sort = .methods group target

/-- The second store is the first one after names of host objects were looked up. -/
def Store.Ahead (types : Registry) (s t : Store) : Prop :=
  ∃ heap cache, t = { s with heap, cache } ∧ s.Grounded types ∧ cache.Sound types ∧
    s.heap.Ahead types heap

/-- The first store has grown from `s`, and the second one is ahead of it. -/
structure Store.Onward (types : Registry) (s s' t' : Store) : Prop where
  grows : s.Grows s'
  ahead : s'.Ahead types t'

/-- Both sides end alike: with the same result, which is as `P` demands in the first store. -/
structure Store.Gives {α : Type} (types : Registry) (P : Store → α → Prop) (s : Store)
    (end₁ end₂ : α × Store) : Prop where
  same : end₁.1 = end₂.1
  onward : Store.Onward types s end₁.2 end₂.2
  result : P end₁.2 end₁.1

section

variable {types : Registry} {heap heap' : Heap} {id : ObjectId} {o o' : ScriptObject} {s t : Store}

/-- An object is ahead of itself. -/
theorem ScriptObject.Ahead.refl (types : Registry) (heap : Heap) (id : ObjectId)
    (o : ScriptObject) : o.Ahead types heap id o := ⟨rfl, rfl, fun _ => .inl rfl⟩

/-- Being ahead is a matter of the functions that the unset slots call for. -/
theorem ScriptObject.Ahead.mono (h : o.Ahead types heap id o')
    (hbound : ∀ index key, id = .created index → o.slots.state key = none → ∀ f,
      heap.object? (.bound index key) = some f → heap'.object? (.bound index key) = some f) :
    o.Ahead types heap' id o' where
  sort := h.sort
  prototype := h.prototype
  slot key := by
    obtain hsame | ⟨hunset, index, d, f, hid, hforesee, hslot, hf⟩ := h.slot key
    · exact .inl hsame
    · -- the function that was found may be looked up in the larger heap
      refine .inr ⟨hunset, index, d, f, hid, hforesee, hslot, fun o ho => ?_⟩
      exact hbound index key hid hunset o (hf o ho)

/-- A heap is ahead of itself if its bound objects are functions for methods. -/
theorem Heap.Ahead.refl (hmethods : ∀ owner key o, heap.object? (.bound owner key) = some o →
    ∃ group target, o.sort = .methods group target) : heap.Ahead types heap where
  size := rfl
  cells := rfl
  object id o ho := ⟨o, ho, .refl types heap id o⟩
  methods := hmethods

/-- Without any lookups the stores are the same. -/
theorem Store.Grounded.ahead_refl (h : s.Grounded types) : s.Ahead types s :=
  ⟨s.heap, s.cache, rfl, h, h.cache, .refl fun owner key o ho => (h.born owner key o ho).1⟩

end

namespace Store

variable {types : Registry} {s s' s'' t t' t'' : Store} {id : ObjectId}

/-- The store behind is grounded. -/
theorem Ahead.grounded (h : s.Ahead types t) : s.Grounded types := by
  obtain ⟨heap, cache, rfl, hgrounded, -, -⟩ := h
  exact hgrounded

/-- The cache of the store ahead answers what resolution does. -/
theorem Ahead.sound (h : s.Ahead types t) : t.cache.Sound types := by
  obtain ⟨heap, cache, rfl, -, hsound, -⟩ := h
  exact hsound

/-- Where nothing has been done, one store has come from itself. -/
theorem Ahead.onward (h : s.Ahead types t) : Onward types s s t := ⟨.refl s, h⟩

/-- One step after another. -/
theorem Onward.trans (h : Onward types s s' t') (h' : Onward types s' s'' t'') :
    Onward types s s'' t'' := ⟨h.grows.trans h'.grows, h'.ahead⟩

/-! ### What both stores show of an object -/

/-- A grounded identity is that of an object on both sides, or of none on either. -/
theorem Ahead.object? (h : s.Ahead types t) (hid : id.GroundedIn s) :
    (s.object? id = none ∧ t.object? id = none) ∨
      ∃ o o', s.object? id = some o ∧ t.object? id = some o' ∧ o.Ahead types t.heap id o' := by
  obtain ⟨heap, cache, rfl, -, -, hheap⟩ := h
  cases hobject : s.object? id with
  | some o =>
    obtain ⟨o', ho', hahead⟩ := hheap.object id o hobject
    exact .inr ⟨o, o', rfl, ho', hahead⟩
  | none =>
    cases id with
    -- a bound identity that is grounded is there
    | bound owner key => rw [ObjectId.GroundedIn, hobject] at hid; cases hid
    | created index =>
      refine .inl ⟨rfl, ?_⟩
      have hout : s.heap.created.size ≤ index := by
        simpa [Store.object?, Heap.object?] using hobject
      simpa [Store.object?, Heap.object?, hheap.size] using hout

/-- An object is of the same sort on both sides. -/
theorem Ahead.sort? (h : s.Ahead types t) (hid : id.GroundedIn s) : t.sort? id = s.sort? id := by
  obtain ⟨hs, ht⟩ | ⟨o, o', hs, ht, hahead⟩ := h.object? hid
  · simp only [Store.sort?, hs, ht]
  · simp only [Store.sort?, hs, ht, Option.map_some, hahead.sort]

/-- Both stores agree on what is a host object. -/
theorem Ahead.isHostObject (h : s.Ahead types t) (hid : id.GroundedIn s) :
    t.isHostObject id = s.isHostObject id := by
  simp only [Store.isHostObject, h.sort? hid]

/-- A slot is the same on both sides, or the first request for it is still to come. -/
theorem Ahead.state (h : s.Ahead types t) (hid : id.GroundedIn s) (key : String) :
    ((t.slots id).state key = (s.slots id).state key) ∨
      (s.slots id).state key = none ∧ ∃ index sort d f, id = .created index ∧
        s.sort? id = some sort ∧ types.foresee index key sort = some (d, f) ∧
        (t.slots id).state key = some (.live d) ∧
        ∀ o ∈ f, t.object? (.bound index key) = some o := by
  obtain ⟨hs, ht⟩ | ⟨o, o', hs, ht, hahead⟩ := h.object? hid
  · simp only [Store.slots, hs, ht, true_or]
  · simp only [Store.slots, Store.sort?, hs, ht, Option.map_some, Option.getD_some]
    -- either the slots agree, or what was foreseen of it stands in the one ahead
    obtain hsame | ⟨hunset, index, d, f, hid, hforesee, hslot, hf⟩ := hahead.slot key
    · exact .inl hsame
    · exact .inr ⟨hunset, index, o.sort, d, f, hid, rfl, hforesee, hslot, hf⟩

/-- A slot that is in use is the same on both sides. -/
theorem Ahead.state_of_isSome (h : s.Ahead types t) (hid : id.GroundedIn s) {key : String}
    (hused : ((s.slots id).state key).isSome) :
    (t.slots id).state key = (s.slots id).state key := by
  obtain hsame | ⟨hunset, -⟩ := h.state hid key
  · exact hsame
  · rw [hunset] at hused
    cases hused

/-- Every slot of an object that is no host object is the same on both sides. -/
theorem Ahead.state_of_other (h : s.Ahead types t) (hid : id.GroundedIn s)
    (hhost : ¬ s.isHostObject id) (key : String) :
    (t.slots id).state key = (s.slots id).state key := by
  obtain hsame | ⟨-, index, sort, d, f, -, hsort, hforesee, -, -⟩ := h.state hid key
  · exact hsame
  · obtain ⟨o, ho, rfl⟩ := Option.map_eq_some_iff.1 hsort
    exact absurd (isHostObject_iff_isHost.2 ⟨o, ho, Registry.isHost_of_foresee hforesee⟩) hhost

end Store

end Membrane
