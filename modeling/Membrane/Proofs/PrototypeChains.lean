import Membrane.Proofs.Accesses
import Membrane.Proofs.Changes

/-!
# Prototype chains

An object is made with its prototype and keeps it. So whatever happens, prototypes are older than the
objects that link to them, wrappers have no prototype but the last one, and a type reference is made
with an object of its own in its slot `prototype`, which stands there until it is deleted
(`ScriptObject.MadeAs`). What holds of every object as it is made, and is not lost when an object
changes, holds of all objects (`Engine.founded_rule`).

## Key results

- `Heap.isChain_chain`: every prototype chain comes to an end, and `Heap.chain` is all of it
- `Heap.IsChain.mem_tail_iff`: behind an object stand exactly the objects that its links lead to
- `Engine.Becomes.founded`: how objects are made tells how they are ever after
-/

namespace Membrane

/-! ### Chains -/

namespace Heap

variable {h : Heap} {id p : ObjectId} {l l' : List ObjectId}

/-- The first object has the second one as its prototype. -/
def Links (h : Heap) (id p : ObjectId) : Prop := h.prototype? id = some p

/-- The list is an object followed by all of its prototype chain: it goes on from prototype to
prototype until there is none. -/
inductive IsChain (h : Heap) : ObjectId → List ObjectId → Prop where
  | last {id : ObjectId} (hnone : h.prototype? id = none) : IsChain h id [id]
  | link {id p : ObjectId} {l : List ObjectId} (hlink : h.Links id p) (hrest : IsChain h p l) :
      IsChain h id (id :: l)

/-- A chain starts with its object. -/
theorem IsChain.eq_cons (hl : h.IsChain id l) : l = id :: l.tail := by
  cases hl <;> rfl

/-- An object has one chain. -/
theorem IsChain.unique (hl : h.IsChain id l) (hl' : h.IsChain id l') : l = l' := by
  induction hl generalizing l' with
  | last hnone =>
    -- both go to the same prototype, or both end
    cases hl' with
    | last _ => rfl
    | link hlink _ => cases hnone.symm.trans hlink
  | link hlink _ ih =>
    cases hl' with
    | last hnone => cases hnone.symm.trans hlink
    | link hlink' hrest' =>
      cases hlink.symm.trans hlink'
      rw [ih hrest']

/-- Behind an object stand the objects that its links lead to. -/
theorem IsChain.mem_tail_iff (hl : h.IsChain id l) :
    p ∈ l.tail ↔ Relation.TransGen h.Links id p := by
  rw [Relation.TransGen.head'_iff]
  induction hl with
  | last hnone =>
    refine iff_of_false List.not_mem_nil ?_
    rintro ⟨q, hlink, -⟩
    cases hnone.symm.trans hlink
  | @link id q l hlink hrest ih =>
    -- an object links to one other at most, so every way behind it goes on from there
    have hnext : (∃ r, h.Links id r ∧ Relation.ReflTransGen h.Links r p) ↔
        Relation.ReflTransGen h.Links q p := by
      refine ⟨?_, fun hrest => ⟨q, hlink, hrest⟩⟩
      rintro ⟨r, hr, hrest⟩
      cases hlink.symm.trans hr
      exact hrest
    rw [hnext, Relation.ReflTransGen.cases_head_iff, ← ih, List.tail_cons, hrest.eq_cons,
      List.mem_cons, List.tail_cons, eq_comm]

/-- Where prototypes are older, every chain comes to an end, and `chain` gives all of it. -/
theorem isChain_chain (holder : h.OlderPrototypes) (id : ObjectId) : h.IsChain id (h.chain id) := by
  suffices hwithin : ∀ steps id, age id < steps → h.IsChain id (h.chainWithin steps id) from
    hwithin _ id (Nat.lt_succ_self _)
  intro steps
  -- the age of an object bounds the steps that its chain takes, since it falls with every link
  induction steps with
  | zero => exact fun _ hage => absurd hage (Nat.not_lt_zero _)
  | succ steps ih =>
    intro id hage
    unfold chainWithin
    cases hlink : h.prototype? id with
    | none => exact .last hlink
    | some p =>
      obtain ⟨o, ho, hp⟩ := Option.bind_eq_some_iff.1 hlink
      have holds := holder id o p ho hp
      exact .link hlink (ih p (by omega))

end Heap

/-! ### How objects are made -/

/-- The host instance or host type that an object stands for. -/
def ObjectSort.host? : ObjectSort → Option (HostRef ⊕ TypeId)
  | .wrapper target => some (.inl target)
  | .typeReference type => some (.inr type)
  | _ => none

/-- What an object stands for of the host. -/
def Store.host? (s : Store) (id : ObjectId) : Option (HostRef ⊕ TypeId) :=
  (s.sort? id).bind ObjectSort.host?

/-- The host of an object is that of its sort. -/
theorem Store.host?_of_object? {s : Store} {id : ObjectId} {o : ScriptObject}
    (ho : s.object? id = some o) : s.host? id = o.sort.host? := by
  rw [host?, sort?_of_object? ho, Option.bind_some]

/-- The object with this identity is as it was made: its prototype is older, and a type reference has
the object that was made just before it in its slot `prototype`, if `spared` names that slot. -/
structure ScriptObject.MadeAs (spared : ObjectId → String → Bool) (id : ObjectId)
    (o : ScriptObject) : Prop where
  older : ∀ p, o.prototype = some p → Heap.age p < Heap.age id
  host : o.sort.host?.isSome → ∃ index, id = .created (index + 3)
  wrapper : ∀ target, o.sort = .wrapper target → o.prototype = some Store.objectPrototype
  reference : ∀ type, o.sort = .typeReference type →
    ∃ index, id = .created (index + 4) ∧ (spared id "prototype" →
      o.slots.state "prototype" = some (.live (.data (.object (.created (index + 3))) .none)))

namespace ScriptObject.MadeAs

variable {spared : ObjectId → String → Bool} {id : ObjectId} {o q : ScriptObject}

/-- An object that stands for nothing of the host. -/
theorem ofScript {sort : ObjectSort} (hsort : sort.host? = none) {prototype : Option ObjectId}
    (holder : ∀ p, prototype = some p → Heap.age p < Heap.age id) :
    (ScriptObject.make sort prototype).MadeAs spared id where
  older := holder
  host hhost := by
    rw [make, hsort] at hhost
    cases hhost
  wrapper target htarget := by
    -- scripts make neither wrappers nor type references
    rw [show sort = _ from htarget] at hsort
    cases hsort
  reference type htype := by
    rw [show sort = _ from htype] at hsort
    cases hsort

/-- A change of the slots that leaves the slot `prototype` of a type reference alone. -/
theorem change (ho : o.MadeAs spared id) (hprototype : q.prototype = o.prototype)
    (hsort : q.sort.host? = o.sort.host?)
    (hslot : ∀ type, o.sort = .typeReference type → spared id "prototype" →
      q.slots.state "prototype" = o.slots.state "prototype") : q.MadeAs spared id where
  older := hprototype ▸ ho.older
  host := hsort ▸ ho.host
  wrapper target htarget := by
    rw [htarget] at hsort
    obtain ⟨sort, slots, prototype⟩ := o
    -- the sort may change in its contents, but the wrapper of one target stays one of it
    cases sort with
    | wrapper target' => exact hprototype.trans (ho.wrapper target' rfl)
    | _ => cases hsort
  reference type htype := by
    rw [htype] at hsort
    obtain ⟨sort, slots, prototype⟩ := o
    cases sort with
    | typeReference type' =>
      obtain ⟨index, hid, hlive⟩ := ho.reference type' rfl
      exact ⟨index, hid, fun hspared => (hslot type' rfl hspared).trans (hlive hspared)⟩
    | _ => cases hsort

end ScriptObject.MadeAs

/-- All objects are as they were made. The three that are there at first stay, and a function for a
host method belongs to an object that is there. -/
structure Heap.Founded (spared : ObjectId → String → Bool) (h : Heap) : Prop where
  size : 3 ≤ h.created.size
  owner : ∀ owner key o, h.object? (.bound owner key) = some o → owner < h.created.size
  made : ∀ id o, h.object? id = some o → o.MadeAs spared id

/-- Objects stay, and what they stand for of the host stays the same. -/
def Heap.KeepsHosts (h h' : Heap) : Prop :=
  ∀ id o, h.object? id = some o → ∃ q, h'.object? id = some q ∧ q.sort.host? = o.sort.host?

namespace Heap.KeepsHosts

variable {h h' h'' : Heap} {s t : Store} {id : ObjectId}

/-- A heap keeps its hosts. -/
theorem refl (h : Heap) : h.KeepsHosts h := fun _ o ho => ⟨o, ho, rfl⟩

/-- One change after another. -/
theorem trans (hh : h.KeepsHosts h') (hh' : h'.KeepsHosts h'') : h.KeepsHosts h'' := by
  intro id o ho
  obtain ⟨p, hp, hsame⟩ := hh id o ho
  obtain ⟨q, hq, hsame'⟩ := hh' id p hp
  exact ⟨q, hq, hsame'.trans hsame⟩

/-- A new object leaves the others as they are. -/
theorem create (h : Heap) (o : ScriptObject) : h.KeepsHosts (h.create o).2 :=
  fun _ q hq => ⟨q, h.object?_create_of_some o hq, rfl⟩

/-- A change that keeps the host of the object keeps all. -/
theorem modify {f : ScriptObject → ScriptObject}
    (hf : ∀ o, h.object? id = some o → (f o).sort.host? = o.sort.host?) :
    h.KeepsHosts (h.modify id f) := by
  intro other o ho
  by_cases hid : other = id
  · subst hid
    exact ⟨f o, by rw [object?_modify_self, ho]; rfl, hf o ho⟩
  · exact ⟨o, by rw [object?_modify_of_ne h f hid, ho], rfl⟩

/-- The host of an object that is there stays. -/
theorem host_eq (hh : s.heap.KeepsHosts t.heap) (hthere : (s.object? id).isSome) :
    t.host? id = s.host? id := by
  obtain ⟨o, ho⟩ := Option.isSome_iff_exists.1 hthere
  obtain ⟨q, hq, hsame⟩ := hh id o ho
  rw [Store.host?_of_object? ho, Store.host?_of_object? hq, hsame]

end Heap.KeepsHosts

namespace Store

variable {s : Store} {id : ObjectId}

/-- Type references are the objects with a type for their host. -/
theorem host?_eq_inr_iff {type : TypeId} :
    s.host? id = some (.inr type) ↔ s.sort? id = some (.typeReference type) := by
  unfold host?
  rcases s.sort? id with _ | sort
  · simp
  · cases sort <;> simp [ObjectSort.host?]

/-- Script arrays stand for nothing of the host. -/
theorem host?_of_elements (hthere : (s.elements? id).isSome) : s.host? id = none := by
  unfold elements? at hthere
  unfold host?
  split at hthere
  · next hsort =>
    rw [hsort]
    rfl
  · cases hthere

/-- The host objects are the objects with a host. -/
theorem isHostObject_eq (s : Store) (id : ObjectId) : s.isHostObject id = (s.host? id).isSome := by
  unfold isHostObject host?
  rcases s.sort? id with _ | sort
  · rfl
  · cases sort <;> rfl

end Store

/-! ### What happens to objects -/

namespace Heap.Founded

variable {spared : ObjectId → String → Bool} {h : Heap} {s t : Store} {id : ObjectId}
  {o : ScriptObject}

/-- What is known without any slot being spared. -/
theorem unspared (hh : h.Founded spared) : h.Founded Engine.noSlot where
  size := hh.size
  owner := hh.owner
  made id o ho :=
    { hh.made id o ho with
      reference := fun type htype => by
        obtain ⟨index, hid, -⟩ := (hh.made id o ho).reference type htype
        exact ⟨index, hid, fun hnone => absurd hnone Bool.false_ne_true⟩ }

/-- Prototypes are older than what they are prototypes of. -/
theorem older (hh : h.Founded spared) : h.OlderPrototypes :=
  fun id o p ho hp => (hh.made id o ho).older p hp

/-- The objects that are there are older than one that is made. -/
theorem age_lt (hh : h.Founded spared) (ho : h.object? id = some o) :
    age id < h.created.size := by
  cases id with
  | created index => exact (Array.getElem?_eq_some_iff.1 ho).1
  | bound owner key => exact hh.owner owner key o ho

/-- A new object that is made as it must be keeps the heap founded. -/
theorem create (hh : h.Founded spared) (ho : o.MadeAs spared (.created h.created.size)) :
    (h.create o).2.Founded spared ∧ h.KeepsHosts (h.create o).2 := by
  have hsize : (h.create o).2.created.size = h.created.size + 1 := Array.size_push o
  refine ⟨⟨?_, fun owner key q hq => ?_, fun id q hq => ?_⟩, .create h o⟩
  · have hthree := hh.size
    omega
  · have howner := hh.owner owner key q hq
    omega
  · obtain ⟨rfl, rfl⟩ | hold := object?_create_cases hq
    · exact ho
    · exact hh.made id q hold

/-- A function for a host method takes the place of no object that stands for something of the host. -/
theorem set_bound (hh : h.Founded spared) {owner : ObjectId} {index : Nat}
    (howner : owner = .created (index + 3)) (hthere : (h.object? owner).isSome) (key : String)
    (group : MethodGroup) (target : Option HostRef) :
    let bound := h.set (.bound (index + 3) key) (Store.methodsOf group target)
    bound.Founded spared ∧ h.KeepsHosts bound := by
  subst howner
  obtain ⟨q, hq⟩ := Option.isSome_iff_exists.1 hthere
  have hage : index + 3 < h.created.size := hh.age_lt hq
  have hself : (h.set (.bound (index + 3) key) (Store.methodsOf group target)).object?
      (.bound (index + 3) key) = some (Store.methodsOf group target) := by
    simp [object?, set]
  -- the function has the function prototype, which is older than any host object
  have hmade : (Store.methodsOf group target).MadeAs spared (.bound (index + 3) key) := by
    refine .ofScript rfl fun p hp => ?_
    cases hp
    show 1 < index + 3
    omega
  refine ⟨⟨hh.size, fun owner other o ho => ?_, fun id o ho => ?_⟩, fun id o ho => ?_⟩
  · by_cases hid : ObjectId.bound owner other = .bound (index + 3) key
    · cases hid
      exact hage
    · rw [object?_set_of_ne _ hid] at ho
      exact hh.owner owner other o ho
  · by_cases hid : id = .bound (index + 3) key
    · subst hid
      cases hself.symm.trans ho
      exact hmade
    · rw [object?_set_of_ne _ hid] at ho
      exact hh.made id o ho
  · by_cases hid : id = .bound (index + 3) key
    · subst hid
      refine ⟨_, hself, ?_⟩
      -- what stood there before was no host object, as these are under identities of their own
      cases hhost : o.sort.host? with
      | none => rfl
      | some host =>
        obtain ⟨other, hother⟩ := (hh.made _ o ho).host (by simp [hhost])
        cases hother
    · exact ⟨o, by rw [object?_set_of_ne _ hid, ho], rfl⟩

/-- So does a change that leaves an object as it must be made. -/
theorem modify (hh : h.Founded spared) {f : ScriptObject → ScriptObject}
    (hf : ∀ o, h.object? id = some o → (f o).MadeAs spared id ∧ (f o).sort.host? = o.sort.host?) :
    (h.modify id f).Founded spared ∧ h.KeepsHosts (h.modify id f) := by
  refine ⟨⟨(h.size_modify id f).symm ▸ hh.size, fun owner key q hq => ?_, fun other q hq => ?_⟩,
    .modify fun o ho => (hf o ho).2⟩
  · rw [size_modify]
    obtain ⟨rfl, o, ho, -⟩ | ⟨-, hold⟩ := object?_modify_cases hq
    · exact hh.owner owner key o ho
    · exact hh.owner owner key q hold
  · obtain ⟨rfl, o, ho, rfl⟩ | ⟨-, hold⟩ := object?_modify_cases hq
    · exact (hf o ho).1
    · exact hh.made other q hold

/-- A change of slots may touch anything but the prototype of a spared type reference. -/
theorem modifySlots (hs : s.heap.Founded spared)
    {f : SlotTable Descriptor → SlotTable Descriptor}
    (hf : ∀ type, s.sort? id = some (.typeReference type) → spared id "prototype" →
      (f (s.slots id)).state "prototype" = (s.slots id).state "prototype") :
    (s.modifySlots id f).heap.Founded spared ∧ s.heap.KeepsHosts (s.modifySlots id f).heap := by
  refine hs.modify fun o ho => ⟨(hs.made id o ho).change rfl rfl fun type htype hspared => ?_, rfl⟩
  have hsort : s.sort? id = some (.typeReference type) :=
    (Store.sort?_of_object? ho).trans (congrArg some htype)
  rw [← Store.slots_of_object? ho]
  exact hf type hsort hspared

/-- A type reference, and its slot `prototype` as long as that is spared. -/
theorem reference (hs : s.heap.Founded spared) {type : TypeId}
    (htype : s.sort? id = some (.typeReference type)) :
    ∃ index, id = .created (index + 4) ∧ (spared id "prototype" →
      (s.slots id).state "prototype" =
        some (.live (.data (.object (.created (index + 3))) .none))) := by
  obtain ⟨o, ho, hsort⟩ := Option.map_eq_some_iff.1 htype
  obtain ⟨index, hid, hlive⟩ := (hs.made id o ho).reference type hsort
  exact ⟨index, hid, fun hspared => Store.slots_of_object? ho ▸ hlive hspared⟩

/-- Host objects were created, and after the three that are there at first. -/
theorem exists_created (hs : s.heap.Founded spared) (hhost : s.isHostObject id) :
    ∃ index, id = .created (index + 3) := by
  obtain ⟨o, ho⟩ := Option.isSome_iff_exists.1 (Store.isSome_of_isHostObject hhost)
  rw [Store.isHostObject_eq, Store.host?_of_object? ho] at hhost
  exact (hs.made id o ho).host hhost

/-- A slot that is not the slot `prototype` of a type reference can be changed. -/
theorem modifySlot (hs : s.heap.Founded spared) {key : String}
    {f : SlotTable Descriptor → SlotTable Descriptor}
    (hf : ∀ slots other, other ≠ key → (f slots).state other = slots.state other)
    (hkey : ∀ type index, s.sort? id = some (.typeReference type) → spared id "prototype" →
      (s.slots id).state "prototype" =
        some (.live (.data (.object (.created (index + 3))) .none)) → key ≠ "prototype") :
    (s.modifySlots id f).heap.Founded spared ∧ s.heap.KeepsHosts (s.modifySlots id f).heap := by
  refine hs.modifySlots fun type htype hspared => hf _ _ (Ne.symm ?_)
  obtain ⟨index, -, hslot⟩ := hs.reference htype
  exact hkey type index htype hspared (hslot hspared)

end Heap.Founded

/-- What comes of a store whose objects are as they were made is such a store, too, and the objects that
are there stay what they are. -/
def Store.StaysFounded (spared : ObjectId → String → Bool) (s t : Store) : Prop :=
  s.heap.Founded spared → t.heap.Founded spared ∧ s.heap.KeepsHosts t.heap

namespace Store.StaysFounded

variable {spared : ObjectId → String → Bool} {E : Engine} {s t u : Store} {id : ObjectId}
  {key : String}

/-- The heap is the same. -/
theorem of_heap_eq (h : t.heap = s.heap) : s.StaysFounded spared t := fun hs => by
  rw [h]
  exact ⟨hs, .refl _⟩

/-- The cells of a heap are not looked at. -/
private theorem withCells (s : Store) (cells : List (Nat × Option ScriptValue)) :
    s.StaysFounded spared { s with heap := { s.heap with cells } } :=
  fun hs => ⟨⟨hs.size, hs.owner, hs.made⟩, .refl s.heap⟩

/-- One change after another. -/
theorem trans (h : s.StaysFounded spared t) (h' : t.StaysFounded spared u) :
    s.StaysFounded spared u := by
  intro hs
  obtain ⟨ht, hsame⟩ := h hs
  obtain ⟨hu, hsame'⟩ := h' ht
  exact ⟨hu, hsame.trans hsame'⟩

/-- A new object of a script, with an older prototype or none. -/
private theorem create_ofScript {sort : ObjectSort} (hsort : sort.host? = none)
    {prototype : Option ObjectId}
    (holder : s.heap.Founded spared → ∀ p, prototype = some p →
      Heap.age p < s.heap.created.size) :
    s.StaysFounded spared (s.create (.make sort prototype)).2 :=
  fun hs => hs.create (.ofScript hsort (holder hs))

/-- A new plain object, whose prototype is there already. -/
private theorem newObject (s : Store) (prototype : Option ObjectId) :
    s.StaysFounded spared (s.newObject prototype).2 := by
  refine create_ofScript rfl fun hs p hp => ?_
  obtain ⟨o, ho⟩ := Option.isSome_iff_exists.1 (Option.filter_eq_some_iff.1 hp).2
  exact hs.age_lt ho

/-- One of the three objects that are there at first is the prototype. -/
private theorem create_below (s : Store) {sort : ObjectSort} (hsort : sort.host? = none)
    {index : Nat} (hindex : index < 3) :
    s.StaysFounded spared (s.create (.make sort (some (.created index)))).2 := by
  refine create_ofScript hsort fun hs p hp => ?_
  cases hp
  exact Nat.lt_of_lt_of_le hindex hs.size

/-- A new wrapper. -/
private theorem wrap (types : Registry) (s : Store) (ref : HostRef) :
    s.StaysFounded spared (s.wrap types ref).2 := by
  intro hs
  obtain ⟨index, hindex⟩ := Nat.exists_eq_add_of_le' hs.size
  refine hs.create ⟨fun p hp => ?_, fun _ => ⟨index, by rw [hindex]⟩, fun _ _ => rfl, ?_⟩
  · cases hp
    show 0 < s.heap.created.size
    omega
  · rintro type ⟨⟩

/-- A new type reference, with the object in its slot. -/
private theorem typeReference (s : Store) (type : TypeId) :
    s.StaysFounded spared (s.typeReference type).2 := by
  intro hs
  obtain ⟨index, hindex⟩ := Nat.exists_eq_add_of_le' hs.size
  obtain ⟨hmade, hsame⟩ : (s.create (.make .plain (some objectPrototype))).2.heap.Founded spared ∧
      s.heap.KeepsHosts (s.create (.make .plain (some objectPrototype))).2.heap :=
    create_below s rfl (by decide) hs
  -- the object for the slot comes first, and the type reference takes the identity behind it
  have hsize : (s.create (.make .plain (some objectPrototype))).2.heap.created.size = index + 4 := by
    rw [← Nat.add_assoc index 3 1, ← hindex]
    exact Array.size_push _
  refine (hmade.create ⟨fun p hp => ?_, fun _ => ⟨index + 1, ?_⟩, ?_, fun _ _ => ⟨index, ?_, ?_⟩⟩).imp id
    hsame.trans
  · cases hp
    rw [hsize]
    show 1 < index + 4
    omega
  · rw [hsize]
  · rintro target ⟨⟩
  · rw [hsize]
  · intro _
    rw [SlotTable.state_setLive, ← hindex]

/-- A name is bound in a slot that was not in use. -/
private theorem bound (hs : s.heap.Founded spared) (hunused : (s.slots id).state key = none)
    (d : Descriptor) :
    (Engine.bind s id key d).2.heap.Founded spared ∧
      s.heap.KeepsHosts (Engine.bind s id key d).2.heap := by
  refine hs.modifySlot (fun _ _ hne => SlotTable.state_setLive_of_ne _ _ hne) ?_
  -- the slot of a prototype is in use from the start
  rintro type index - - hslot rfl
  cases hunused.symm.trans hslot

/-- A lookup, with what it binds. -/
private theorem own (E : Engine) (s : Store) (id : ObjectId) (name : String) :
    s.StaysFounded spared (E.ownProperty s id name).2 := by
  by_cases hhost : s.isHostObject id
  · cases hslot : (s.slots id).state (Name.normalize name) with
    | some slot =>
      rw [Engine.ownProperty_of_state hhost hslot]
      exact of_heap_eq rfl
    | none =>
      intro hs
      obtain ⟨cache, hbinding⟩ := Engine.binding_ownProperty E hhost hslot
      generalize E.ownProperty s id name = r at hbinding
      cases hbinding with
      | slot d => exact bound (s := { s with cache }) hs hslot d
      | methods group target d =>
        -- the function for the methods is made first, apart from its owner
        obtain ⟨index, rfl⟩ := hs.exists_created hhost
        have hthere := isSome_of_isHostObject hhost
        obtain ⟨hmade, hsame⟩ := hs.set_bound rfl hthere (Name.normalize name) group target
        have hslots : (({ s with cache } : Store).bindMethods (.created (index + 3))
            (Name.normalize name) group target).2.slots (.created (index + 3)) =
            s.slots (.created (index + 3)) := by
          have hobject := object?_bindMethods (s := { s with cache }) hthere (.created (index + 3))
            (Name.normalize name) group target
          simp only [slots, hobject]
          rfl
        exact (bound hmade (hslots ▸ hslot) d).imp id hsame.trans
      | apart h hhome hvalue => exact ⟨hs, .refl _⟩
      | nothing => exact ⟨hs, .refl _⟩
  · rw [(Engine.ownProperty_of_other E hhost name).1]
    exact of_heap_eq rfl

/-- A value is put into a slot. On a host object the slot has nothing in it, or what is absent. -/
private theorem plain (s : Store) (id : ObjectId) (key : String) (value : ScriptValue)
    (habsent : s.isHostObject id → ∀ d, (s.slots id).get? key = some d → d.isAbsent) :
    s.StaysFounded spared (s.modifySlots id (·.setLive key (.plain value))) := by
  intro hs
  refine hs.modifySlot (fun _ _ hne => SlotTable.state_setLive_of_ne _ _ hne) ?_
  rintro type index htype - hslot rfl
  have hlive : (s.slots id).get? "prototype" = some (.data (.object (.created (index + 3))) .none) := by
    rw [SlotTable.get?, hslot]
    rfl
  -- the prototype of a type reference is not absent
  exact Bool.false_ne_true (habsent (isHostObject_iff.2 (.inr ⟨type, htype⟩)) _ hlive)

/-- The slot `prototype` of a type reference is never found writable. -/
private theorem not_isWritable_of_prototype (hs : s.heap.Founded spared) {type : TypeId}
    (htype : s.sort? id = some (.typeReference type)) (hspared : spared id "prototype")
    {name : String} {handle : Handle} (hfound : (E.ownProperty s id name).1 = some handle)
    (hhome : handle.home = some (id, "prototype")) : handle.descriptor.isWritable = false := by
  have hhost : s.isHostObject id := isHostObject_iff.2 (.inr ⟨type, htype⟩)
  obtain ⟨index, -, hlive⟩ := hs.reference htype
  have hslot := hlive hspared
  -- no other name leads to the slot
  have hname : Name.normalize name = "prototype" := by
    obtain hsame | ⟨hnone, -⟩ := Engine.home_of_host hhost hfound
    · rw [hhome] at hsame
      exact (Prod.mk.inj (Option.some.inj hsame)).2.symm
    · cases hhome.symm.trans hnone
  rw [← hname] at hslot
  rw [Engine.ownProperty_of_state hhost hslot] at hfound
  cases hfound
  rfl

/-- A slot that was found writable can get another descriptor, also after something else went on. -/
private theorem intoFound (s t : Store) (id : ObjectId) (name : String) (handle : Handle)
    (owner : ObjectId) (key : String) (d : Descriptor)
    (hfound : (E.ownProperty s id name).1 = some handle) (hhome : handle.home = some (owner, key))
    (hwritable : handle.descriptor.isWritable)
    (ht : (E.ownProperty s id name).2.StaysFounded spared t) :
    s.StaysFounded spared (t.modifySlots owner (·.setLive key d)) := by
  intro hs
  obtain ⟨htf, hkept⟩ := ((own E s id name).trans ht) hs
  obtain rfl := Engine.home_of_ownProperty hfound hhome
  refine (htf.modifySlot (fun _ _ hne => SlotTable.state_setLive_of_ne _ _ hne) ?_).imp id hkept.trans
  rintro type index htype hspared - rfl
  -- it was a type reference when the slot was looked up, too, and found it read-only
  rw [← host?_eq_inr_iff, hkept.host_eq (Engine.isSome_of_found hfound), host?_eq_inr_iff] at htype
  rw [not_isWritable_of_prototype hs htype hspared hfound hhome] at hwritable
  cases hwritable

/-- What a write puts back goes into a slot that was found writable, or nowhere. -/
private theorem written (s t : Store) (id : ObjectId) (name : String) (handle : Handle)
    (owner : ObjectId) (key : String) (d : Descriptor)
    (hfound : (E.ownProperty s id name).1 = some handle) (hhome : handle.home = some (owner, key))
    (hwritable : handle.descriptor.isWritable)
    (ht : (E.ownProperty s id name).2.StaysFounded spared t) :
    s.StaysFounded spared (t.putBack owner key d) := by
  -- the slot is gone, or it gets the descriptor
  obtain hput | hput := t.putBack_eq owner key d
  · rw [hput]
    exact (own E s id name).trans ht
  · rw [hput]
    exact intoFound s t id name handle owner key d hfound hhome hwritable ht

/-- The elements of an array are replaced. -/
private theorem elements (s : Store) (id : ObjectId) (elements : Array ScriptValue)
    (hthere : (s.elements? id).isSome) :
    s.StaysFounded spared (s.setElements id elements) := by
  intro hs
  refine hs.modify fun o ho => ?_
  have hsort : o.sort.host? = none := (host?_of_object? ho).symm.trans (host?_of_elements hthere)
  refine ⟨(hs.made id o ho).change rfl hsort.symm fun type htype => ?_, hsort.symm⟩
  rw [htype] at hsort
  cases hsort

end Store.StaysFounded

namespace Engine

open Store.StaysFounded

variable {spared : ObjectId → String → Bool} {E : Engine} {s t : Store}

/-- Whatever the engine does, objects are as they were made. -/
theorem founded_rule (E : Engine) (spared : ObjectId → String → Bool) :
    E.Rule spared (Store.StaysFounded spared) := by
  refine ObjectRule.rule ?_ fun s t hheap _ => of_heap_eq hheap
  exact {
    trans := fun _ _ _ => .trans
    newObject := newObject
    newArray := fun s _ => create_below s rfl (by decide)
    newFunction := fun s _ _ => create_below s rfl (by decide)
    wrap := wrap E.types
    typeReference := typeReference
    own := own E
    plain := plain
    written := fun s t id name handle owner key d hfound hhome hwritable _ ht =>
      written s t id name handle owner key d hfound hhome hwritable ht
    define := fun s id name d htype _ hs =>
      hs.modifySlots fun type hsort _ => by simp [Store.referencedType?, hsort] at htype
    remove := fun s id name hhost hs =>
      hs.modifySlots fun type hsort _ => absurd (Store.isHostObject_iff.2 (.inr ⟨type, hsort⟩)) hhost
    -- what is deleted is not spared, so it is no prototype that counts
    delete := fun s id key _ hspared hs => by
      refine hs.modifySlot (fun _ _ hne => SlotTable.state_markDeleted_of_ne _ hne) ?_
      rintro type index - hprototype - rfl
      cases hspared.symm.trans hprototype
    addCell := fun s _ => withCells s _
    setCell := fun s _ _ => withCells s _
    -- sharing puts a descriptor back where one was found, beside the new cell
    shared := by
      rintro s _ id name handle owner key cell d contents hfound hhome hshared rfl
      exact intoFound s _ id name handle owner key d hfound hhome
        (Descriptor.isWritable_of_sharedIn hshared).1 (withCells _ _)
    elements := elements }

/-- The store of the beginning is founded. -/
theorem founded_initial (spared : ObjectId → String → Bool) :
    Store.initial.heap.Founded spared where
  size := Nat.le_refl 3
  owner _ _ _ ho := by cases ho
  made id o ho := by
    -- the three prototypes that every store begins with
    match id, ho with
    | .created 0, ho =>
      cases ho
      exact .ofScript rfl fun p hp => by cases hp
    | .created 1, ho =>
      cases ho
      exact .ofScript rfl fun p hp => by cases hp; exact Nat.one_pos
    | .created 2, ho =>
      cases ho
      exact .ofScript rfl fun p hp => by cases hp; exact Nat.two_pos
    | .created (index + 3), ho => cases ho
    | .bound _ _, ho => cases ho

/-- In every history the objects are as they were made. -/
theorem Becomes.founded (h : E.Becomes spared .initial s) : s.heap.Founded spared :=
  ((E.founded_rule spared).becomes (fun _ _ hheap _ => of_heap_eq hheap) h
    (founded_initial spared)).1

end Engine

end Membrane
