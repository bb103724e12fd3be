import Membrane.Proofs.Accesses
import Membrane.Proofs.Foresight
import Membrane.Proofs.Handles

/-!
# What is done to a store and to one that is ahead

Whatever is done to a store and to one that is ahead of it, the one stays ahead of the other, and
the first one grows (`Store.Onward`). A request for a property finds the same on both sides: a slot
that was bound early on one side is bound on the other side then. A lookup on the side that is ahead
alone brings that side further ahead.

## Key results

- `Store.Ahead.create`, `Store.Ahead.edit` and their siblings: what is done to both stores
- `Engine.own_ahead`, `Engine.handOut_ahead`: a request on both sides
- `Engine.lookup_ahead`: a lookup on the side that is ahead
-/

namespace Membrane

/-- A change of an object that makes no host object of it and, if it is one, forgets none of its
slots. -/
structure ScriptObject.Grows (o p : ScriptObject) : Prop where
  sort : p.sort = o.sort ∨
    ∃ elements elements', o.sort = .array elements ∧ p.sort = .array elements'
  used : ∀ key, o.sort.IsHost → (o.slots.state key).isSome → (p.slots.state key).isSome

/-- An object has grown to itself. -/
theorem ScriptObject.Grows.refl (o : ScriptObject) : o.Grows o := ⟨.inl rfl, fun _ _ h => h⟩

/-- Growth keeps a host object one, and makes none. -/
theorem ScriptObject.Grows.isHost_iff {o p : ScriptObject} (h : o.Grows p) :
    p.sort.IsHost ↔ o.sort.IsHost := by
  obtain hsort | ⟨elements, elements', ho, hp⟩ := h.sort
  · rw [hsort]
  · simp [ObjectSort.IsHost, ho, hp]

namespace Store

variable {types : Registry} {s s' t t' : Store} {id : ObjectId}

/-! ### Changes outside the heap -/

/-- A store with the same heap has grown. -/
theorem grows_of_heap_eq (h : s'.heap = s.heap) : s.Grows s' := by
  have hobject : s'.object? = s.object? := by
    funext id
    simp only [Store.object?, h]
  have hhost : s'.isHostObject = s.isHostObject := by
    funext id
    simp only [Store.isHostObject, Store.sort?, hobject]
  constructor
  · simp only [hobject, imp_self, implies_true]
  · simp only [hhost, imp_self, implies_true]
  · simp only [Used, Store.slots, hhost, hobject, imp_self, implies_true]

/-- What is grounded stays so under a change that puts nothing ungrounded anywhere. -/
theorem Grounded.of_grows (h : s.Grounded types) (hgrows : s.Grows s')
    (hcache : s'.cache.Sound types)
    (hobjects : ∀ id o, s'.object? id = some o → s.object? id = some o ∨ o.GroundedIn s')
    (hborn : ∀ owner key o, s'.object? (.bound owner key) = some o →
      s.object? (.bound owner key) = some o ∨
        (∃ group target, o.sort = .methods group target) ∧ s'.Used (.created owner) key)
    (hcells : ∀ cell v, s'.heap.cell cell = some v → v.GroundedIn s)
    (hinstances : ∀ i ∈ s'.instances, i.storage.GroundedIn s)
    (hstatics : ∀ entry ∈ s'.statics, entry.2.GroundedIn s)
    (hglobals : s'.globals = s.globals) : s'.Grounded types where
  registry := h.registry.mono hgrows
  cache := hcache
  objects id o ho := by
    -- what was there is grounded in what it has grown to
    obtain hold | hnew := hobjects id o ho
    · exact (h.objects id o hold).mono hgrows
    · exact hnew
  cells cell v hcell := (hcells cell v hcell).mono hgrows
  born owner key o ho := by
    obtain hold | hnew := hborn owner key o ho
    · obtain ⟨hmethods, hused⟩ := h.born owner key o hold
      exact ⟨hmethods, hgrows.used _ _ hused⟩
    · exact hnew
  instances i hi := (hinstances i hi).mono hgrows
  statics entry hentry := (hstatics entry hentry).mono hgrows
  globals entry hentry := (h.globals entry (hglobals ▸ hentry)).mono hgrows

/-- A change of both stores that leaves the objects alone. -/
theorem Ahead.outside (h : s.Ahead types t) (hheap : s'.heap = s.heap) (hcache : s'.cache = s.cache)
    (hsame : t' = { s' with heap := t.heap, cache := t.cache })
    (hinstances : ∀ i ∈ s'.instances, i.storage.GroundedIn s)
    (hstatics : ∀ entry ∈ s'.statics, entry.2.GroundedIn s)
    (hglobals : s'.globals = s.globals) : Onward types s s' t' := by
  obtain ⟨heap, cache, rfl, hgrounded, hsound, hahead⟩ := h
  have hgrows : s.Grows s' := grows_of_heap_eq hheap
  refine ⟨hgrows, heap, cache, hsame, ?_, hsound, hheap ▸ hahead⟩
  -- the heap is the one of before, so nothing is new in it
  refine hgrounded.of_grows hgrows (hcache ▸ hgrounded.cache) (fun id o ho => .inl ?_)
    (fun owner key o ho => .inl ?_) (hheap ▸ hgrounded.cells) hinstances hstatics hglobals
  · simpa only [Store.object?, hheap] using ho
  · simpa only [Store.object?, hheap] using ho

/-- The caches may answer other lookups themselves. -/
theorem Ahead.withCaches (h : s.Ahead types t) {cache cache' : ResolutionCache}
    (hcache : cache.Sound types) (hcache' : cache'.Sound types) :
    Onward types s { s with cache } { t with cache := cache' } := by
  obtain ⟨heap, old, rfl, hgrounded, -, hahead⟩ := h
  have hgrows : s.Grows { s with cache } := grows_of_heap_eq rfl
  refine ⟨hgrows, heap, cache', rfl, ?_, hcache', hahead⟩
  exact hgrounded.of_grows hgrows hcache (fun id o ho => .inl ho) (fun owner key o ho => .inl ho)
    hgrounded.cells hgrounded.instances hgrounded.statics rfl

/-- A new instance. -/
theorem Ahead.newInstance (h : s.Ahead types t) (type : TypeId) {storage : Storage}
    (hstorage : storage.GroundedIn s) :
    Gives types (fun _ _ => True) s (s.newInstance type storage) (t.newInstance type storage) := by
  have hgrounded := h.grounded
  have hahead := h
  obtain ⟨heap, cache, rfl, -⟩ := h
  refine ⟨rfl, hahead.outside rfl rfl rfl (fun i hi => ?_) hgrounded.statics rfl, trivial⟩
  obtain hi | rfl := Array.mem_push.1 hi
  · exact hgrounded.instances i hi
  · exact hstorage

/-- A change of an instance. -/
theorem Ahead.modifyInstance (h : s.Ahead types t) (ref : Nat) (f : Instance → Instance)
    (hf : ∀ i, i.storage.GroundedIn s → (f i).storage.GroundedIn s) :
    Onward types s (s.modifyInstance ref f) (t.modifyInstance ref f) := by
  have hgrounded := h.grounded
  have hahead := h
  obtain ⟨heap, cache, rfl, -⟩ := h
  refine hahead.outside rfl rfl rfl (fun i hi => ?_) hgrounded.statics rfl
  obtain ⟨index, hindex, rfl⟩ := Array.mem_iff_getElem.1 hi
  simp only [Store.modifyInstance, Array.getElem_modify]
  split
  · exact hf _ (hgrounded.instances _ (Array.getElem_mem _))
  · exact hgrounded.instances _ (Array.getElem_mem _)

/-- A write to static storage. -/
theorem Ahead.writeStatic (h : s.Ahead types t) (key : StaticKey) {v : HostValue}
    (hv : v.GroundedIn s) : Onward types s (s.writeStatic key v) (t.writeStatic key v) := by
  have hgrounded := h.grounded
  have hahead := h
  obtain ⟨heap, cache, rfl, -⟩ := h
  refine hahead.outside rfl rfl rfl hgrounded.instances (fun entry hentry => ?_) rfl
  obtain rfl | hentry := List.mem_cons.1 hentry
  · exact hv
  · exact hgrounded.statics entry (List.mem_of_mem_filter hentry)

/-! ### Changes of objects -/

/-- An object grew if nothing was made a host object of, and no slot of one was forgotten. -/
theorem grows_of_objects
    (h : ∀ id o, s.object? id = some o → ∃ p, s'.object? id = some p ∧ o.Grows p) :
    s.Grows s' where
  born id hid := by
    obtain ⟨o, ho⟩ := Option.isSome_iff_exists.1 hid
    obtain ⟨p, hp, -⟩ := h id o ho
    rw [hp]
    rfl
  host id hid hhost := by
    obtain ⟨o, ho⟩ := Option.isSome_iff_exists.1 hid
    obtain ⟨p, hp, hgrows⟩ := h id o ho
    obtain ⟨q, hq, hsort⟩ := isHostObject_iff_isHost.1 hhost
    rw [hp] at hq
    cases hq
    exact isHostObject_iff_isHost.2 ⟨o, ho, hgrows.isHost_iff.1 hsort⟩
  used id key hused := by
    -- a slot in use belongs to an object that is there, which keeps it in use
    obtain ⟨hhost, hslot⟩ := hused
    obtain ⟨o, ho, hsort⟩ := isHostObject_iff_isHost.1 hhost
    obtain ⟨p, hp, hgrows⟩ := h id o ho
    refine ⟨isHostObject_iff_isHost.2 ⟨p, hp, hgrows.isHost_iff.2 hsort⟩, ?_⟩
    simp only [Store.slots, ho, Option.map_some, Option.getD_some] at hslot
    simpa only [Store.slots, hp, Option.map_some, Option.getD_some]
      using hgrows.used key hsort hslot

/-- A new object is the same on both sides. -/
theorem Ahead.create (h : s.Ahead types t) {o : ScriptObject} (ho : o.GroundedIn s) :
    Gives types ObjectId.GroundedIn s (s.create o) (t.create o) := by
  obtain ⟨heap, cache, rfl, hgrounded, hsound, hahead⟩ := h
  have hgrows : s.Grows (s.create o).2 :=
    grows_of_objects fun id q hq => ⟨q, s.heap.object?_create_of_some o hq, .refl q⟩
  refine ⟨?_, ⟨hgrows, (heap.create o).2, cache, rfl, ?_, hsound, ?_⟩, trivial⟩
  · show ObjectId.created _ = ObjectId.created _
    rw [hahead.size]
  · refine hgrounded.of_grows hgrows hgrounded.cache (fun id q hq => ?_) (fun owner key q hq => ?_)
      hgrounded.cells hgrounded.instances hgrounded.statics rfl
    · obtain ⟨rfl, rfl⟩ | hq := Heap.object?_create_cases hq
      · exact .inr (ho.mono hgrows)
      · exact .inl hq
    · exact .inl hq
  · refine ⟨by simp [Store.create, Heap.create, hahead.size], hahead.cells, fun id q hq => ?_,
      fun owner key q hq => hahead.methods owner key q hq⟩
    -- the new object, the same in both heaps, or an older one
    obtain ⟨rfl, rfl⟩ | hq := Heap.object?_create_cases hq
    · refine ⟨q, ?_, .refl _ _ _ q⟩
      have hnew := heap.object?_create_self q
      rwa [Heap.create, hahead.size] at hnew
    · obtain ⟨q', hq', hslots⟩ := hahead.object id q hq
      exact ⟨q', heap.object?_create_of_some o hq', hslots.mono fun _ _ _ _ f hf => hf⟩

/-- A function for host methods is there only if its slot is in use. -/
private theorem Grounded.unborn (h : s.Grounded types) {index : Nat} {key : String}
    {o : ScriptObject} (ho : s.object? (.created index) = some o)
    (hunset : o.slots.state key = none) : s.object? (.bound index key) = none := by
  cases hbound : s.object? (.bound index key) with
  | none => rfl
  | some p =>
    obtain ⟨-, -, hused⟩ := h.born index key p hbound
    rw [Store.slots_of_object? ho, hunset] at hused
    cases hused

section Modified

variable {f : ScriptObject → ScriptObject} (hf : ∀ o, s.object? id = some o → o.Grows (f o))
include hf

/-- A change that keeps slots in use lets the store grow. -/
private theorem grows_modifyObject : s.Grows (s.modifyObject id f) := by
  refine grows_of_objects fun other o ho => ?_
  by_cases heq : other = id
  · subst heq
    have hself := s.heap.object?_modify_self other f
    exact ⟨f o, by rw [Store.modifyObject, Store.object?, hself, ← Store.object?, ho]; rfl, hf o ho⟩
  · exact ⟨o, (s.heap.object?_modify_of_ne f heq).trans ho, .refl o⟩

/-- A change that keeps an object grounded keeps the store so. -/
private theorem Grounded.modifyObject (h : s.Grounded types)
    (hground : ∀ o, o.GroundedIn s → (f o).GroundedIn s) :
    (s.modifyObject id f).Grounded types := by
  have hgrows := grows_modifyObject hf
  refine h.of_grows hgrows h.cache (fun other p hp => ?_) (fun owner key p hp => ?_)
    (fun cell v hcell => ?_) h.instances h.statics rfl
  · obtain ⟨rfl, o, ho, rfl⟩ | ⟨-, hold⟩ := Heap.object?_modify_cases hp
    · exact .inr ((hground o (h.objects other o ho)).mono hgrows)
    · exact .inl hold
  · obtain ⟨rfl, o, ho, rfl⟩ | ⟨-, hold⟩ := Heap.object?_modify_cases hp
    · obtain ⟨⟨group, target, hsort⟩, hused⟩ := h.born owner key o ho
      -- a change of sort is one of an array, and this is a function for host methods
      refine .inr ⟨⟨group, target, ?_⟩, hgrows.used _ _ hused⟩
      obtain hkept | ⟨elements, elements', harray, -⟩ := (hf o ho).sort
      · rw [hkept, hsort]
      · rw [hsort] at harray
        cases harray
    · exact .inl hold
  · exact h.cells cell v (by rwa [Store.modifyObject, Heap.cell_modify] at hcell)

/-- The change made in both heaps keeps one ahead of the other. -/
private theorem Grounded.aheadModify (h : s.Grounded types) {heap : Heap}
    (hheap : s.heap.Ahead types heap) (hid : id.GroundedIn s)
    (hahead : ∀ o o', s.object? id = some o → o.Ahead types heap id o' →
      (f o).Ahead types heap id (f o')) :
    (s.heap.modify id f).Ahead types (heap.modify id f) := by
  -- an object that is changed is changed in the same way on both sides
  have hself : ∀ o', heap.object? id = some o' → (heap.modify id f).object? id = some (f o') :=
    fun o' ho' => by rw [Heap.object?_modify_self, ho', Option.map_some]
  refine ⟨by rw [Heap.size_modify, Heap.size_modify, hheap.size],
    by rw [Heap.cells_modify, Heap.cells_modify, hheap.cells], fun other p hp => ?_,
    fun owner key p hp => ?_⟩
  · obtain ⟨rfl, o, ho, rfl⟩ | ⟨heq, hold⟩ := Heap.object?_modify_cases hp
    · obtain ⟨o', ho', hslots⟩ := hheap.object other o ho
      refine ⟨f o', hself o' ho', (hahead o o' ho hslots).mono fun index key hcreated _ g hg => ?_⟩
      rw [heap.object?_modify_of_ne f (by simp [hcreated])]
      exact hg
    · obtain ⟨p', hp', hslots⟩ := hheap.object other p hold
      refine ⟨p', by rw [heap.object?_modify_of_ne f heq, hp'], ?_⟩
      refine hslots.mono fun index key hcreated hunset g hg => ?_
      -- the function for an unset slot is not there yet, so it is not the one that is changed
      have hne : .bound index key ≠ id := by
        rintro rfl
        subst hcreated
        rw [ObjectId.GroundedIn, h.unborn hold hunset] at hid
        cases hid
      rw [heap.object?_modify_of_ne f hne]
      exact hg
  · by_cases heq : .bound owner key = id
    · subst heq
      obtain ⟨o, ho⟩ := Option.isSome_iff_exists.1 hid
      obtain ⟨o', ho', hslots⟩ := hheap.object _ o ho
      rw [hself o' ho'] at hp
      cases hp
      -- a function for host methods stays one, since no change touches its sort
      obtain ⟨⟨group, target, hsort⟩, -⟩ := h.born owner key o ho
      refine ⟨group, target, ?_⟩
      rw [(hahead o o' ho hslots).sort]
      obtain hkept | ⟨elements, elements', harray, -⟩ := (hf o ho).sort
      · rw [hkept, hsort]
      · rw [hsort] at harray
        cases harray
    · rw [heap.object?_modify_of_ne f heq] at hp
      exact hheap.methods owner key p hp

/-- An object is changed on both sides. -/
private theorem Ahead.modifyObject (h : s.Ahead types t) (hid : id.GroundedIn s)
    (hground : ∀ o, o.GroundedIn s → (f o).GroundedIn s)
    (hahead : ∀ o o', s.object? id = some o → o.Ahead types t.heap id o' →
      (f o).Ahead types t.heap id (f o')) :
    Onward types s (s.modifyObject id f) (t.modifyObject id f) := by
  obtain ⟨heap, cache, rfl, hgrounded, hsound, hheap⟩ := h
  exact ⟨grows_modifyObject hf, heap.modify id f, cache, rfl, hgrounded.modifyObject hf hground,
    hsound, hgrounded.aheadModify hf hheap hid hahead⟩

end Modified

/-- A slot is set, marked or forgotten on both sides; host objects forget none. -/
private theorem Ahead.edit (h : s.Ahead types t) (hid : id.GroundedIn s)
    {f : SlotTable Descriptor → SlotTable Descriptor} (key : String)
    (slot : Option (Slot Descriptor)) (hself : ∀ table, (f table).state key = slot)
    (hother : ∀ table other, other ≠ key → (f table).state other = table.state other)
    (hslot : ∀ d, slot = some (.live d) → d.GroundedIn s)
    (hforgets : slot = none → ¬ s.isHostObject id) :
    Onward types s (s.modifySlots id f) (t.modifySlots id f) := by
  refine h.modifyObject (fun o ho => ⟨.inl rfl, fun other hhost hused => ?_⟩) hid
    (fun o ho => ⟨ho.sort, fun other d hd => ?_, ho.prototype⟩)
    fun o o' ho hslots => ⟨hslots.sort, hslots.prototype, fun other => ?_⟩
  · by_cases heq : other = key
    · subst heq
      rw [hself]
      -- a slot in use may only be given up where it is no host object
      cases slot with
      | some slot => rfl
      | none => exact absurd (isHostObject_iff_isHost.2 ⟨o, ho, hhost⟩) (hforgets rfl)
    · rwa [hother _ other heq]
  · by_cases heq : other = key
    · subst heq
      exact hslot d (by rw [← hself o.slots]; exact hd)
    · rw [hother _ other heq] at hd
      exact ho.slots other d hd
  · by_cases heq : other = key
    · subst heq
      exact .inl (by rw [hself, hself])
    · rw [hother _ other heq, hother _ other heq]
      exact hslots.slot other

/-- A descriptor put into a slot. -/
theorem Ahead.setLive (h : s.Ahead types t) (hid : id.GroundedIn s) (key : String) {d : Descriptor}
    (hd : d.GroundedIn s) :
    Onward types s (s.modifySlots id (·.setLive key d)) (t.modifySlots id (·.setLive key d)) := by
  refine h.edit (f := (·.setLive key d)) hid key (some (.live d))
    (fun table => table.state_setLive key d) (fun table _ hne => table.state_setLive_of_ne d hne) ?_
    fun hforgets => nomatch hforgets
  rintro _ ⟨⟩
  exact hd

/-- A name marked as deleted. -/
theorem Ahead.markDeleted (h : s.Ahead types t) (hid : id.GroundedIn s) (key : String) :
    Onward types s (s.modifySlots id (·.markDeleted key)) (t.modifySlots id (·.markDeleted key)) :=
  h.edit (f := (·.markDeleted key)) hid key (some .deleted)
    (fun table => table.state_markDeleted key)
    (fun table _ hne => table.state_markDeleted_of_ne hne) (fun _ hlive => nomatch hlive)
    fun hforgets => nomatch hforgets

/-- A slot that is given up. -/
theorem Ahead.remove (h : s.Ahead types t) (hid : id.GroundedIn s) (hhost : ¬ s.isHostObject id)
    (key : String) :
    Onward types s (s.modifySlots id (·.remove key)) (t.modifySlots id (·.remove key)) :=
  h.edit (f := (·.remove key)) hid key none (fun table => table.state_remove key)
    (fun table _ hne => table.state_remove_of_ne hne) (fun _ hlive => nomatch hlive) fun _ => hhost

/-- The elements of an array are replaced on both sides. -/
theorem Ahead.setElements (h : s.Ahead types t) (hid : id.GroundedIn s)
    {old : Array ScriptValue} (hold : s.sort? id = some (.array old)) {elements : Array ScriptValue}
    (helements : ∀ v ∈ elements, v.GroundedIn s) :
    Onward types s (s.setElements id elements) (t.setElements id elements) := by
  have harray : ∀ o, s.object? id = some o → o.sort = .array old := by
    intro o ho
    simpa only [Store.sort?, ho, Option.map_some, Option.some.injEq] using hold
  refine h.modifyObject (fun o ho => ⟨.inr ⟨old, elements, harray o ho, rfl⟩, ?_⟩) hid
    (fun o ho => ⟨helements, ho.slots, ho.prototype⟩) fun o o' ho hslots => ⟨rfl, ?_, fun key => ?_⟩
  · exact fun _ _ hused => hused
  · exact hslots.prototype
  · obtain hsame | ⟨-, index, d, f, -, hforesee, -⟩ := hslots.slot key
    · exact .inl hsame
    · -- nothing is foreseen of an array
      rw [harray o ho] at hforesee
      cases hforesee

/-- A cell is changed on both sides. -/
theorem Ahead.setCell (h : s.Ahead types t) (cell : Nat) {contents : Option ScriptValue}
    (hcontents : ∀ v, contents = some v → v.GroundedIn s) :
    Onward types s (s.setCell cell contents) (t.setCell cell contents) := by
  obtain ⟨heap, cache, rfl, hgrounded, hsound, hheap⟩ := h
  have hgrows : s.Grows (s.setCell cell contents) :=
    grows_of_objects fun id o ho => ⟨o, ho, .refl o⟩
  refine ⟨hgrows, heap.setCell cell contents, cache, rfl, ?_, hsound, hheap.size, ?_,
    fun id o ho => ?_, hheap.methods⟩
  · refine hgrounded.of_grows hgrows hgrounded.cache (fun id o ho => .inl ho)
      (fun owner key o ho => .inl ho) (fun other v hv => ?_) hgrounded.instances hgrounded.statics
      rfl
    -- what is in the cell now, or in another one
    by_cases heq : other = cell
    · rw [heq, Store.setCell, Heap.cell_setCell_self] at hv
      exact hcontents v hv
    · rw [Store.setCell, Heap.cell_setCell_of_ne _ _ heq] at hv
      exact hgrounded.cells other v hv
  · simp only [Store.setCell, Heap.setCell, hheap.cells]
  · obtain ⟨o', ho', hslots⟩ := hheap.object id o ho
    exact ⟨o', ho', hslots.mono fun _ _ _ _ f hf => hf⟩

/-- The cells are the same on both sides. -/
theorem Ahead.cells (h : s.Ahead types t) : t.heap.cells = s.heap.cells := by
  obtain ⟨heap, cache, rfl, -, -, hheap⟩ := h
  exact hheap.cells

/-- Both heaps have the same in their cells. -/
theorem Ahead.cell (h : s.Ahead types t) (cell : Nat) : t.heap.cell cell = s.heap.cell cell := by
  simp only [Heap.cell, h.cells]

/-- A new cell has the same number on both sides. -/
theorem Ahead.addCell (h : s.Ahead types t) {contents : Option ScriptValue}
    (hcontents : ∀ v, contents = some v → v.GroundedIn s) :
    Onward types s (s.addCell contents).2 (t.addCell contents).2 := by
  show Onward types s (s.setCell s.heap.cells.length contents) (t.setCell t.heap.cells.length contents)
  rw [h.cells]
  exact h.setCell _ hcontents

end Store

/-! ### Requests -/

/-- The store in which the slot of a key is bound to what was foreseen. -/
def Store.advance (s : Store) (index : Nat) (key : String) (d : Descriptor)
    (f : Option ScriptObject) : Store :=
  (s.bear index key f).modifySlots (.created index) (·.setLive key d)

namespace Store

variable {types : Registry} {s t : Store} {index : Nat} {key : String} {sort : ObjectSort}
  {d : Descriptor} {f : Option ScriptObject} {o p : ScriptObject} {id : ObjectId}

/-- Every other object is as before. -/
theorem object?_bear_of_ne (hne : id ≠ .bound index key) :
    (s.bear index key f).object? id = s.object? id := by
  cases f with
  | none => rfl
  | some g => exact s.heap.object?_set_of_ne g hne

/-- The object has the descriptor in its slot. -/
theorem object?_advance_self (ho : s.object? (.created index) = some o) (key : String)
    (d : Descriptor) (f : Option ScriptObject) :
    (s.advance index key d f).object? (.created index) =
      some { o with slots := o.slots.setLive key d } := by
  have hbear : (s.bear index key f).object? (.created index) = some o := by
    rw [object?_bear_of_ne (by simp), ho]
  show ((s.bear index key f).heap.modify _ _).object? _ = _
  rw [Heap.object?_modify_self, ← Store.object?, hbear]
  rfl

/-- The function for it is there. -/
theorem object?_advance_function (hf : f = some p) :
    (s.advance index key d f).object? (.bound index key) = some p := by
  subst hf
  rw [advance, object?_modifySlots_of_ne _ _ (by simp)]
  simp [bear, Store.object?, Heap.object?, Heap.set]

/-- Every other object is as before. -/
theorem object?_advance_of_ne (hcreated : id ≠ .created index)
    (hbound : id ≠ .bound index key) : (s.advance index key d f).object? id = s.object? id := by
  rw [advance, object?_modifySlots_of_ne _ _ hcreated, object?_bear_of_ne hbound]

/-- Where nothing is made for it, there is no other change. -/
private theorem object?_advance_none (hcreated : id ≠ .created index) :
    (s.advance index key d none).object? id = s.object? id := by
  rw [advance, object?_modifySlots_of_ne _ _ hcreated]
  rfl

/-- Only objects that were created are host objects. -/
theorem Ahead.exists_created (h : s.Ahead types t) (hhost : t.isHostObject id) :
    ∃ index, id = .created index := by
  cases id with
  | created index => exact ⟨index, rfl⟩
  | bound owner key =>
    obtain ⟨heap, cache, rfl, -, -, hheap⟩ := h
    obtain ⟨o, ho, hsort⟩ := isHostObject_iff_isHost.1 hhost
    obtain ⟨group, target, hmethods⟩ := hheap.methods owner key o ho
    simp [ObjectSort.IsHost, hmethods] at hsort

/-- No object is created. -/
private theorem size_advance (s : Store) (index : Nat) (key : String) (d : Descriptor)
    (f : Option ScriptObject) :
    (s.advance index key d f).heap.created.size = s.heap.created.size := by
  show ((s.bear index key f).heap.modify _ _).created.size = _
  rw [Heap.size_modify]
  cases f <;> rfl

/-- What stands under an identity after a binding: the object with the new slot, the new function,
or what stood there before. -/
theorem advance_cases (ho : s.object? (.created index) = some o)
    (hp : (s.advance index key d f).object? id = some p) :
    (id = .created index ∧ p = { o with slots := o.slots.setLive key d }) ∨
      (id = .bound index key ∧ f = some p) ∨ (id ≠ .created index ∧ s.object? id = some p) := by
  -- the object itself, the function for the slot, or neither
  by_cases hcreated : id = .created index
  · subst hcreated
    rw [object?_advance_self ho key d f] at hp
    cases hp
    exact .inl ⟨rfl, rfl⟩
  · cases f with
    | none =>
      rw [object?_advance_none hcreated] at hp
      exact .inr (.inr ⟨hcreated, hp⟩)
    | some g =>
      by_cases hbound : id = .bound index key
      · subst hbound
        rw [object?_advance_function rfl] at hp
        cases hp
        exact .inr (.inl ⟨rfl, rfl⟩)
      · rw [object?_advance_of_ne hcreated hbound] at hp
        exact .inr (.inr ⟨hcreated, hp⟩)

/-- The slot is in use afterwards. -/
private theorem live_advance (ho : s.object? (.created index) = some o) (hhost : o.sort.IsHost)
    (key : String) (d : Descriptor) (f : Option ScriptObject) :
    (s.advance index key d f).isHostObject (.created index) ∧
      ((s.advance index key d f).slots (.created index)).state key = some (.live d) := by
  have hself := object?_advance_self ho key d f
  refine ⟨isHostObject_iff_isHost.2 ⟨_, hself, hhost⟩, ?_⟩
  rw [Store.slots_of_object? hself, SlotTable.state_setLive]

/-- The cells are as before. -/
private theorem cells_advance (s : Store) (index : Nat) (key : String) (d : Descriptor)
    (f : Option ScriptObject) : (s.advance index key d f).heap.cells = s.heap.cells := by
  show ((s.bear index key f).heap.modify _ _).cells = _
  rw [Heap.cells_modify]
  cases f <;> rfl

/-- The function that is made with a binding was not there before. -/
private theorem Grounded.grows_advance (h : s.Grounded types)
    (ho : s.object? (.created index) = some o) (hunset : o.slots.state key = none)
    (d : Descriptor) (f : Option ScriptObject) : s.Grows (s.advance index key d f) := by
  refine grows_of_objects fun id p hp => ?_
  by_cases hcreated : id = .created index
  · subst hcreated
    rw [ho] at hp
    cases hp
    refine ⟨_, object?_advance_self ho key d f, .inl rfl, fun other _ hused => ?_⟩
    by_cases hother : other = key
    · rw [hother, SlotTable.state_setLive]
      rfl
    · rwa [SlotTable.state_setLive_of_ne _ d hother]
  · -- the function for an unset slot is not there yet
    have hbound : id ≠ .bound index key := by
      rintro rfl
      rw [h.unborn ho hunset] at hp
      cases hp
    exact ⟨p, by rw [object?_advance_of_ne hcreated hbound, hp], .refl p⟩

/-- What is foreseen keeps the store grounded when it is put in place. -/
private theorem Grounded.advance (h : s.Grounded types)
    (ho : s.object? (.created index) = some o) (hunset : o.slots.state key = none)
    (hforesee : types.foresee index key o.sort = some (d, f)) :
    (s.advance index key d f).Grounded types := by
  have hgrows := h.grows_advance ho hunset d f
  -- the slot is in use from now on, which is what its function depends on
  have hused : (s.advance index key d f).Used (.created index) key := by
    obtain ⟨hhost, hlive⟩ := live_advance ho (Registry.isHost_of_foresee hforesee) key d f
    exact ⟨hhost, by rw [hlive]; rfl⟩
  have hd : d.GroundedIn (s.advance index key d f) := by
    refine (h.registry.mono hgrows).descriptor_of_foresee hforesee fun hf => ?_
    obtain ⟨g, rfl⟩ := Option.isSome_iff_exists.1 hf
    rw [object?_advance_function rfl]
    rfl
  refine h.of_grows hgrows ?_ (fun id p hp => ?_) (fun owner other p hp => ?_)
    (fun cell v hcell => ?_) ?_ ?_ ?_
  · cases f <;> exact h.cache
  · -- the object with its new slot, the function for it, or what was there before
    obtain ⟨rfl, rfl⟩ | ⟨rfl, rfl⟩ | ⟨-, hold⟩ := advance_cases ho hp
    · have hgrounded := (h.objects _ o ho).mono hgrows
      refine .inr ⟨hgrounded.sort, fun other d' hd' => ?_, hgrounded.prototype⟩
      by_cases hother : other = key
      · subst hother
        rw [SlotTable.state_setLive] at hd'
        cases hd'
        exact hd
      · rw [SlotTable.state_setLive_of_ne _ d hother] at hd'
        exact hgrounded.slots other d' hd'
    · obtain ⟨group, target, rfl, hmethods⟩ :=
        (h.registry.mono hgrows).methods_of_foresee hforesee
      exact .inr (ScriptObject.groundedIn_methodsOf hmethods target)
    · exact .inl hold
  · obtain ⟨hne, -⟩ | ⟨heq, rfl⟩ | ⟨-, hold⟩ := advance_cases ho hp
    · cases hne
    · cases heq
      obtain ⟨group, target, rfl, -⟩ := h.registry.methods_of_foresee hforesee
      exact .inr ⟨⟨group, target, rfl⟩, hused⟩
    · exact .inl hold
  · exact h.cells cell v (by rwa [Heap.cell, cells_advance, ← Heap.cell] at hcell)
  · cases f <;> exact h.instances
  · cases f <;> exact h.statics
  · cases f <;> rfl

/-- A slot that was looked up on one side is bound on the other side as well. -/
private theorem Ahead.catchUp (h : s.Ahead types t)
    (ho : s.object? (.created index) = some o) (hunset : o.slots.state key = none)
    (hforesee : types.foresee index key o.sort = some (d, f))
    (hslot : (t.slots (.created index)).state key = some (.live d)) :
    Onward types s (s.advance index key d f) t := by
  -- the function was made by the lookup that bound the slot
  have hfunction : ∀ g ∈ f, t.object? (.bound index key) = some g := by
    obtain hsame | ⟨-, index', sort, d', f', heq, hsort, hforesee', -, hf⟩ :=
      h.state (ObjectId.groundedIn_created s index) key
    · rw [hslot, Store.slots_of_object? ho, hunset] at hsame
      cases hsame
    · cases heq
      rw [Store.sort?_of_object? ho] at hsort
      cases hsort
      rw [hforesee] at hforesee'
      cases hforesee'
      exact hf
  obtain ⟨heap, cache, rfl, hgrounded, hsound, hheap⟩ := h
  have hgrows := hgrounded.grows_advance ho hunset d f
  have hgrounded' := hgrounded.advance ho hunset hforesee
  have hrest : ({ s with heap, cache } : Store) = { s.advance index key d f with heap, cache } := by
    cases f <;> rfl
  refine ⟨hgrows, heap, cache, hrest, hgrounded', hsound, ?_, ?_, fun id p hp => ?_,
    hheap.methods⟩
  · rw [hheap.size]
    exact (size_advance ..).symm
  · rw [hheap.cells]
    exact (cells_advance ..).symm
  · obtain ⟨rfl, rfl⟩ | ⟨rfl, rfl⟩ | ⟨-, hold⟩ := advance_cases ho hp
    · obtain ⟨o', ho', hslots⟩ := hheap.object _ o ho
      refine ⟨o', ho', hslots.sort, hslots.prototype, fun other => ?_⟩
      by_cases hother : other = key
      · -- this slot was ahead, and is the same on both sides from now on
        subst hother
        left
        have hobject : ({ s with heap, cache } : Store).object? (.created index) = some o' := ho'
        rw [SlotTable.state_setLive, ← hslot, Store.slots, hobject]
        rfl
      · rw [SlotTable.state_setLive_of_ne _ d hother]
        exact hslots.slot other
    · exact ⟨p, hfunction p rfl, .refl _ _ _ p⟩
    · exact hheap.object id p hold

/-- A lookup on the side that is ahead. -/
private theorem Ahead.advance (h : s.Ahead types t)
    (ho : s.object? (.created index) = some o) (hunset : o.slots.state key = none)
    (hforesee : types.foresee index key o.sort = some (d, f)) :
    s.Ahead types (t.advance index key d f) := by
  obtain ⟨heap, cache, rfl, hgrounded, hsound, hheap⟩ := h
  obtain ⟨o', ho', hslots⟩ := hheap.object _ o ho
  have hobject : ({ s with heap, cache } : Store).object? (.created index) = some o' := ho'
  -- the one function that is new or replaced belongs to the slot
  have hbound : ∀ owner other g, (owner, other) ≠ (index, key) →
      heap.object? (.bound owner other) = some g →
      (({ s with heap, cache } : Store).advance index key d f).heap.object? (.bound owner other) =
        some g := by
    intro owner other g hne hg
    exact (object?_advance_of_ne (by simp) (by simpa using hne)).trans hg
  have hrest : ({ s with heap, cache } : Store).advance index key d f =
      { s with heap := (({ s with heap, cache } : Store).advance index key d f).heap, cache } := by
    cases f <;> rfl
  refine ⟨_, cache, hrest, hgrounded, hsound, ?_, ?_, fun id p hp => ?_,
    fun owner other p hp => ?_⟩
  · rw [← hheap.size]
    exact size_advance ..
  · rw [← hheap.cells]
    exact cells_advance ..
  · by_cases hcreated : id = .created index
    · subst hcreated
      rw [← Store.object?, ho] at hp
      cases hp
      refine ⟨_, object?_advance_self hobject key d f, hslots.sort, hslots.prototype,
        fun other => ?_⟩
      by_cases hother : other = key
      · subst hother
        rw [SlotTable.state_setLive]
        refine .inr ⟨hunset, index, d, f, rfl, hforesee, rfl, fun g hg => ?_⟩
        exact object?_advance_function hg
      · rw [SlotTable.state_setLive_of_ne _ d hother]
        obtain hsame | ⟨hunset', index', d', f', heq, hforesee', hslot', hf'⟩ := hslots.slot other
        · exact .inl hsame
        · refine .inr ⟨hunset', index', d', f', heq, hforesee', hslot', fun g hg => ?_⟩
          exact hbound index' other g (fun hpair => hother (congrArg Prod.snd hpair)) (hf' g hg)
    · -- on the side behind there is no function for the slot, since it is unset there
      have hne : id ≠ .bound index key := by
        rintro rfl
        rw [← Store.object?, hgrounded.unborn ho hunset] at hp
        cases hp
      obtain ⟨p', hp', hslots'⟩ := hheap.object id p hp
      refine ⟨p', (object?_advance_of_ne hcreated hne).trans hp', ?_⟩
      refine hslots'.mono fun owner other heq _ g hg => hbound owner other g (fun hpair => ?_) hg
      exact hcreated (heq.trans (congrArg (fun pair => ObjectId.created pair.1) hpair))
  · obtain ⟨hne, -⟩ | ⟨-, rfl⟩ | ⟨-, hold⟩ := advance_cases hobject hp
    · cases hne
    · obtain ⟨group, target, rfl, -⟩ := hgrounded.registry.methods_of_foresee hforesee
      exact ⟨group, target, rfl⟩
    · exact hheap.methods owner other p hold

end Store

/-- The handle is grounded, and the slot that it stands in is there. -/
structure Handle.GroundedIn (s : Store) (h : Handle) : Prop where
  descriptor : h.descriptor.GroundedIn s
  home : ∀ id key, h.home = some (id, key) →
    (s.object? id).isSome ∧ (s.isHostObject id → s.Used id key)

/-- A handle that stands in no slot. -/
theorem Handle.groundedIn_of_descriptor {s : Store} {d : Descriptor} (h : d.GroundedIn s) :
    (Handle.mk d none).GroundedIn s where
  descriptor := h
  home _ _ hhome := by cases hhome

/-- What has been found stays grounded. -/
theorem Handle.GroundedIn.mono {s t : Store} {h : Handle} (hground : h.GroundedIn s)
    (hgrows : s.Grows t) : h.GroundedIn t where
  descriptor := hground.descriptor.mono hgrows
  home id key hhome := by
    obtain ⟨hobject, hused⟩ := hground.home id key hhome
    refine ⟨hgrows.born id hobject, fun hhost => ?_⟩
    exact hgrows.used id key (hused (hgrows.host id hobject hhost))

namespace Registry

variable {types : Registry} {name key : String} {sort : ObjectSort} {s : Store}

/-- What is found for a key that nothing is bound for is grounded, and stands in no slot. -/
theorem GroundedIn.handle_of_unbound (hregistry : types.GroundedIn s) {handle : Handle}
    (h : types.unbound name key sort = some handle) : handle.GroundedIn s := by
  cases sort with
  | wrapper target =>
    have hmember := hregistry.resolve target.type key .onInstance
    simp only [unbound] at h
    generalize types.resolve target.type key .onInstance = member at h hmember
    -- only an indexer stands for names without a slot
    cases member with
    | indexer i =>
      cases h
      exact Handle.groundedIn_of_descriptor hmember
    | _ => cases h
  | _ => cases h

end Registry

namespace Engine

open Store

variable {E : Engine} {s t : Store} {id : ObjectId} {index : Nat} {name key : String}

/-- A lookup on the side that is ahead. -/
theorem lookup_ahead (h : s.Ahead E.types t) (id : ObjectId) (name : String) :
    s.Ahead E.types (E.ownProperty t id name).2 := by
  by_cases hhost : t.isHostObject id
  · obtain ⟨index, rfl⟩ := h.exists_created hhost
    have hid := ObjectId.groundedIn_created s index
    cases hslot : (t.slots (.created index)).state (Name.normalize name) with
    | some slot =>
      rw [ownProperty_of_state hhost hslot]
      exact h
    | none =>
      rw [h.isHostObject hid] at hhost
      obtain ⟨o, ho, -⟩ := isHostObject_iff_isHost.1 hhost
      have hsort : s.sort? (.created index) = some o.sort := Store.sort?_of_object? ho
      -- what is unset on the side that is ahead is unset behind it
      have hunset : o.slots.state (Name.normalize name) = none := by
        obtain hsame | ⟨-, _, _, _, _, -, -, -, hlive, -⟩ :=
          h.state hid (Name.normalize name)
        · rw [hslot, Store.slots_of_object? ho] at hsame
          exact hsame.symm
        · rw [hslot] at hlive
          cases hlive
      obtain ⟨cache, hcache, hown⟩ := ownProperty_of_unset (E := E) h.sound
        ((h.sort? hid).trans hsort) ((h.isHostObject hid).trans hhost) hslot
      have hcached := (h.withCaches h.grounded.cache hcache).ahead
      rw [hown]
      cases hforesee : E.types.foresee index (Name.normalize name) o.sort with
      | none => exact hcached
      | some binding => exact hcached.advance ho hunset hforesee
  · rw [(ownProperty_of_other E hhost name).1]
    exact h

/-- A request for a slot of a host object that is unset on the side behind: the other side finds
what is foreseen, whether it was looked up before or not. -/
private theorem own_foreseen (h : s.Ahead E.types t) {o : ScriptObject}
    (ho : s.object? (.created index) = some o)
    (hunset : o.slots.state (Name.normalize name) = none) {d : Descriptor}
    {f : Option ScriptObject}
    (hforesee : E.types.foresee index (Name.normalize name) o.sort = some (d, f)) :
    (E.ownProperty t (.created index) name).1 =
        some ⟨d, some (.created index, Name.normalize name)⟩ ∧
      ((E.ownProperty t (.created index) name).2.slots (.created index)).state
        (Name.normalize name) = some (.live d) := by
  have hid := ObjectId.groundedIn_created s index
  have hhost : t.isHostObject (.created index) := by
    rw [h.isHostObject hid]
    exact isHostObject_iff_isHost.2 ⟨o, ho, Registry.isHost_of_foresee hforesee⟩
  have hsort : s.sort? (.created index) = some o.sort := Store.sort?_of_object? ho
  -- either the store ahead has it in place already, or it is put there now
  cases hslot : (t.slots (.created index)).state (Name.normalize name) with
  | some slot =>
    rw [ownProperty_of_state hhost hslot]
    obtain hsame | ⟨-, index', sort, d', f', heq, hsort', hforesee', hlive, -⟩ :=
      h.state hid (Name.normalize name)
    · rw [hslot, Store.slots_of_object? ho, hunset] at hsame
      cases hsame
    · cases heq
      rw [hsort] at hsort'
      cases hsort'
      rw [hforesee] at hforesee'
      cases hforesee'
      rw [hslot] at hlive
      cases hlive
      exact ⟨rfl, hslot⟩
  | none =>
    obtain ⟨cache, -, hown⟩ := ownProperty_of_unset (E := E) h.sound
      ((h.sort? hid).trans hsort) hhost hslot
    rw [hown, hforesee]
    refine ⟨rfl, state_setLive_self ?_ d⟩
    rw [object?_bear_of_ne (by simp)]
    exact isSome_of_isHostObject hhost

/-- What stands in a slot of a host object is grounded. -/
private theorem grounded_of_live (hgrounded : s.Grounded E.types)
    (hhost : s.isHostObject id) {key : String} {d : Descriptor}
    (hslot : (s.slots id).state key = some (.live d)) :
    Handle.GroundedIn s ⟨d, some (id, key)⟩ where
  descriptor := by
    obtain ⟨o, ho, -⟩ := isHostObject_iff_isHost.1 hhost
    rw [Store.slots_of_object? ho] at hslot
    exact (hgrounded.objects id o ho).slots key d hslot
  home := by
    rintro _ _ ⟨⟩
    exact ⟨isSome_of_isHostObject hhost, fun _ => ⟨hhost, by rw [hslot]; rfl⟩⟩

/-- What is found of an object that is no host object is grounded. -/
private theorem grounded_of_other (hgrounded : s.Grounded E.types) (hhost : ¬ s.isHostObject id)
    {handle : Handle} (hfound : (E.ownProperty s id name).1 = some handle) :
    handle.GroundedIn s := by
  -- what stands in a slot is grounded with the slots of the object
  have htable : tableSlot s id name = some handle → handle.GroundedIn s := by
    intro hslot
    obtain ⟨d, hd, rfl⟩ := Option.map_eq_some_iff.1 hslot
    cases hobject : s.object? id with
    | none =>
      rw [Store.slots, hobject] at hd
      cases hd
    | some o =>
      rw [Store.slots, hobject] at hd
      obtain ⟨slot, hstate, hlive⟩ := Option.bind_eq_some_iff.1 hd
      cases slot with
      | deleted => cases hlive
      | live d' =>
        cases hlive
        refine ⟨(hgrounded.objects id o hobject).slots name d hstate, ?_⟩
        rintro _ _ ⟨⟩
        exact ⟨by rw [hobject]; rfl, fun h => absurd h hhost⟩
  rw [isHostObject_iff] at hhost
  unfold ownProperty at hfound
  -- an array makes up descriptors for its length and its elements
  split at hfound
  · next elements hsort =>
    obtain ⟨o, ho, helements⟩ := Option.map_eq_some_iff.1 hsort
    have hground := (hgrounded.objects id o ho).sort
    rw [helements] at hground
    split at hfound
    · cases hfound
      exact Handle.groundedIn_of_descriptor trivial
    · split at hfound
      · obtain ⟨v, hv, rfl⟩ := Option.map_eq_some_iff.1 hfound
        exact Handle.groundedIn_of_descriptor (hground v (Array.mem_of_getElem? hv))
      · exact htable hfound
  · next target hsort => exact absurd (.inl ⟨target, hsort⟩) hhost
  · next type hsort => exact absurd (.inr ⟨type, hsort⟩) hhost
  · exact htable hfound

/-- The properties of other objects are the same on both sides. -/
private theorem own_of_other (h : s.Ahead E.types t) (hid : id.GroundedIn s)
    (hhost : ¬ s.isHostObject id) : (E.ownProperty s id name).1 = (E.ownProperty t id name).1 := by
  have htable : tableSlot t id name = tableSlot s id name := by
    simp only [tableSlot, SlotTable.get?, h.state_of_other hid hhost name]
  rw [isHostObject_iff] at hhost
  unfold ownProperty
  rw [h.sort? hid, htable]
  -- an array looks at the name before it looks into its slots
  split
  · split
    · rfl
    · split <;> rfl
  · next target hsort => exact absurd (.inl ⟨target, hsort⟩) hhost
  · next type hsort => exact absurd (.inr ⟨type, hsort⟩) hhost
  · rfl

/-- A request for a slot of a host object that is in use, which is so on both sides. -/
private theorem own_used (h : s.Ahead E.types t) (hhost : s.isHostObject (.created index))
    {slot : Slot Descriptor}
    (hslot : (s.slots (.created index)).state (Name.normalize name) = some slot) :
    Gives E.types (fun u found => ∀ handle, found = some handle → handle.GroundedIn u) s
      (E.ownProperty s (.created index) name) (E.ownProperty t (.created index) name) := by
  have hid := ObjectId.groundedIn_created s index
  have hslot' := (h.state_of_isSome hid (by rw [hslot]; rfl)).trans hslot
  rw [ownProperty_of_state hhost hslot,
    ownProperty_of_state ((h.isHostObject hid).trans hhost) hslot']
  refine ⟨rfl, h.onward, ?_⟩
  rintro _ ⟨⟩
  -- a live slot of a grounded store is grounded, and the mark of a deletion holds nothing
  cases slot with
  | live d => exact grounded_of_live h.grounded hhost hslot
  | deleted => exact Handle.groundedIn_of_descriptor trivial

/-- A request for a slot that nothing is ever bound in, so that it is unset on both sides. -/
private theorem own_unforeseen (h : s.Ahead E.types t) {o : ScriptObject}
    (ho : s.object? (.created index) = some o) (hhost : s.isHostObject (.created index))
    (hunset : (s.slots (.created index)).state (Name.normalize name) = none)
    (hforesee : E.types.foresee index (Name.normalize name) o.sort = none) :
    Gives E.types (fun u found => ∀ handle, found = some handle → handle.GroundedIn u) s
      (E.ownProperty s (.created index) name) (E.ownProperty t (.created index) name) := by
  have hid := ObjectId.groundedIn_created s index
  have hsort : s.sort? (.created index) = some o.sort := Store.sort?_of_object? ho
  -- an early lookup would have bound what is foreseen, which is nothing
  have hunset' : (t.slots (.created index)).state (Name.normalize name) = none := by
    obtain hsame | ⟨-, _, sort, _, _, heq, hsort', hforesee', -, -⟩ :=
      h.state hid (Name.normalize name)
    · rw [hsame, hunset]
    · cases heq
      rw [hsort] at hsort'
      cases hsort'
      rw [hforesee] at hforesee'
      cases hforesee'
  obtain ⟨cache, hcache, hown⟩ :=
    ownProperty_of_unset (E := E) h.grounded.cache hsort hhost hunset
  obtain ⟨cache', hcache', hown'⟩ := ownProperty_of_unset (E := E) h.sound
    ((h.sort? hid).trans hsort) ((h.isHostObject hid).trans hhost) hunset'
  have honward := h.withCaches hcache hcache'
  rw [hown, hown', hforesee]
  exact ⟨rfl, honward,
    fun handle hfound => honward.ahead.grounded.registry.handle_of_unbound hfound⟩

/-- A request for a slot that is bound by it, and may have been bound early on the other side. -/
private theorem own_bound (h : s.Ahead E.types t) {o : ScriptObject}
    (ho : s.object? (.created index) = some o) (hhost : s.isHostObject (.created index))
    (hunset : (s.slots (.created index)).state (Name.normalize name) = none) {d : Descriptor}
    {f : Option ScriptObject}
    (hforesee : E.types.foresee index (Name.normalize name) o.sort = some (d, f)) :
    Gives E.types (fun u found => ∀ handle, found = some handle → handle.GroundedIn u) s
      (E.ownProperty s (.created index) name) (E.ownProperty t (.created index) name) := by
  have hsort : s.sort? (.created index) = some o.sort := Store.sort?_of_object? ho
  have hslot : o.slots.state (Name.normalize name) = none := by
    rwa [Store.slots_of_object? ho] at hunset
  obtain ⟨cache, hcache, hown⟩ :=
    ownProperty_of_unset (E := E) h.grounded.cache hsort hhost hunset
  obtain ⟨hfound, hlive⟩ := own_foreseen h ho hslot hforesee
  -- the side ahead looks the name up first, and then the side behind binds it: so the one is ahead
  -- of the other all the time
  have hlooked := lookup_ahead h (.created index) name
  have hstart := hlooked.withCaches hcache hlooked.sound
  have honward := hstart.trans (hstart.ahead.catchUp ho hslot hforesee hlive)
  rw [hown, hforesee]
  refine ⟨hfound.symm, honward, ?_⟩
  rintro _ ⟨⟩
  obtain ⟨hhost, hlive⟩ := live_advance (s := { s with cache }) ho
    (Registry.isHost_of_foresee hforesee) (Name.normalize name) d f
  exact grounded_of_live honward.ahead.grounded hhost hlive

/-- A request on both sides finds the same. -/
theorem own_ahead (h : s.Ahead E.types t) (hid : id.GroundedIn s) (name : String) :
    Gives E.types (fun u found => ∀ handle, found = some handle → handle.GroundedIn u) s
      (E.ownProperty s id name) (E.ownProperty t id name) := by
  by_cases hhost : s.isHostObject id
  · obtain ⟨index, rfl⟩ := h.grounded.ahead_refl.exists_created hhost
    obtain ⟨o, ho, -⟩ := isHostObject_iff_isHost.1 hhost
    cases hslot : (s.slots (.created index)).state (Name.normalize name) with
    | some slot => exact own_used h hhost hslot
    | none =>
      -- nothing to bind: an indexer, or nothing at all
      cases hforesee : E.types.foresee index (Name.normalize name) o.sort with
      | none => exact own_unforeseen h ho hhost hslot hforesee
      | some binding => exact own_bound h ho hhost hslot hforesee
  · have hhost' : ¬ t.isHostObject id := by rwa [h.isHostObject hid]
    refine ⟨own_of_other h hid hhost, ?_, fun handle hfound => ?_⟩
    · rw [(ownProperty_of_other E hhost name).1, (ownProperty_of_other E hhost' name).1]
      exact h.onward
    · rw [(ownProperty_of_other E hhost name).1]
      exact grounded_of_other h.grounded hhost hfound

/-- What is shared refers to what it referred to, and so does what its cell keeps. -/
private theorem grounded_of_sharedIn {d d' : Descriptor} {cell : Nat} {contents : Option ScriptValue}
    (hshared : d.sharedIn cell = some (d', contents)) (hd : d.GroundedIn s) :
    d'.GroundedIn s ∧ ∀ v, contents = some v → v.GroundedIn s := by
  obtain ⟨value, flags, rfl, rfl, rfl, -⟩ | ⟨member, target, shadow, rfl, rfl, rfl, -⟩ :=
    Descriptor.sharedIn_cases hshared
  · exact ⟨trivial, fun v hv => Option.some.inj hv ▸ hd⟩
  · exact hd

/-- What is given out on both sides is the same, and shared by the same cell. -/
theorem handOut_ahead (h : s.Ahead E.types t) (hid : id.GroundedIn s) (name : String) :
    (E.handOut s id name).1 = (E.handOut t id name).1 ∧
      Onward E.types s (E.handOut s id name).2 (E.handOut t id name).2 := by
  obtain ⟨hsame, honward, hground⟩ := own_ahead h hid name
  unfold handOut
  generalize E.ownProperty s id name = looked, E.ownProperty t id name = looked'
    at hsame honward hground
  obtain ⟨found, u⟩ := looked
  obtain ⟨found', v⟩ := looked'
  obtain rfl : found = found' := hsame
  cases found with
  | none => exact ⟨rfl, honward⟩
  | some handle =>
    have hhandle := hground handle rfl
    -- both stores have as many cells, so the new one has the same number in each
    have hcells : v.heap.cells = u.heap.cells := honward.ahead.cells
    simp only [hcells]
    cases hshared : handle.descriptor.sharedIn u.heap.cells.length with
    | none => exact ⟨rfl, honward⟩
    | some shared =>
      obtain ⟨d, contents⟩ := shared
      obtain ⟨hd, hcontents⟩ := grounded_of_sharedIn hshared hhandle.descriptor
      have hcell := honward.ahead.addCell hcontents
      cases hhome : handle.home with
      | none => exact ⟨rfl, honward.trans hcell⟩
      | some slot =>
        obtain ⟨owner, key⟩ := slot
        have howner := ObjectId.groundedIn_of_isSome (hhandle.home owner key hhome).1
        have hslot := hcell.ahead.setLive (howner.mono hcell.grows) key (hd.mono hcell.grows)
        exact ⟨rfl, (honward.trans hcell).trans hslot⟩

end Engine

end Membrane
