import Membrane.Proofs.CacheTransparency
import Membrane.Proofs.Severance

/-!
# Read-only slots of host objects

The slot `length` of a wrapper counts the elements of the instance, and the slots of an
enumeration's constants hold their values. Both are read-only and permanent, and yet a script gets
rid of them: every deletion on a host object succeeds, and a wrapper takes every definition. As long
as neither happened to the name (`Access.displaces`), no other access changes what the slot shows,
whichever object is accessed, however the name is spelled, and whoever makes the access.

What the slot of a constant shows is decided before it is bound (`Store.Shows`), so the first read
may come as late as it likes. The one constant that is never shown is `prototype`: that slot of a
type reference is taken from the start.

## Key results

- `Engine.tracks_spared`: every access that does not displace the name keeps what its slot shows
- `Engine.read_only_unless_displaced`: so the length and the constants can be read to the end
-/

namespace Membrane

open Store Action

/-- The access takes what stands in the slot of a key out of it, whatever that is. -/
def Access.displaces (key : String) : Access → Bool
  | .assign .. => false
  | .delete name => Name.normalize name == key
  | .define name .. => name == key

/-- No write changes it: it is no property, and no writable value. -/
def Descriptor.isFixed : Descriptor → Bool
  | .data _ flags => !flags.writable
  | .count _ => true
  | _ => false

/-! ### What is left alone -/

namespace Store

variable {s t : Store} {id : ObjectId} {key other : String}

/-- Any other slot stays. -/
theorem state_setLive_other (s : Store) (id : ObjectId) (hne : other ≠ key) (d : Descriptor) :
    ((s.modifySlots id (·.setLive key d)).slots id).state other = (s.slots id).state other := by
  cases hobject : s.object? id with
  | some o =>
    rw [slots_modifySlots_self s _ (by rw [hobject]; rfl), SlotTable.state_setLive_of_ne _ d hne]
  | none =>
    have hnothing : s.modifySlots id (·.setLive key d) = s := by
      have hheap : s.heap.object? id = none := hobject
      simp only [modifySlots, modifyObject, Heap.modify, hheap]
    rw [hnothing]

/-- Any other slot stays. -/
theorem state_markDeleted_other (s : Store) (id : ObjectId) (hne : other ≠ key) :
    ((s.modifySlots id (·.markDeleted key)).slots id).state other = (s.slots id).state other := by
  cases hobject : s.object? id with
  | some o =>
    rw [slots_modifySlots_self s _ (by rw [hobject]; rfl), SlotTable.state_markDeleted_of_ne _ hne]
  | none =>
    have hnothing : s.modifySlots id (·.markDeleted key) = s := by
      have hheap : s.heap.object? id = none := hobject
      simp only [modifySlots, modifyObject, Heap.modify, hheap]
    rw [hnothing]

end Store

namespace Engine

variable {E : Engine} {s : Store} {index : Nat} {key : String}

/-- A request for another name leaves the slot as it is, used or not. -/
theorem state_ownProperty_other (hobject : (s.object? (.created index)).isSome) {other : ObjectId}
    {name : String} (hne : .created index = other → key ≠ Name.normalize name) :
    ((E.ownProperty s other name).2.slots (.created index)).state key =
      (s.slots (.created index)).state key := by
  by_cases hother : .created index = other
  · subst hother
    by_cases hhost : s.isHostObject (.created index)
    · cases hslot : (s.slots (.created index)).state (Name.normalize name) with
      | some slot => rw [ownProperty_of_state hhost hslot]
      | none =>
        obtain ⟨cache, hbinding⟩ := binding_ownProperty E hhost hslot
        generalize E.ownProperty s (.created index) name = r at hbinding
        -- a slot in use is left alone; otherwise the one of the name is bound
        cases hbinding with
        | slot d => exact state_setLive_other _ _ (hne rfl) d
        | methods group target d => exact state_setLive_other _ _ (hne rfl) d
        | apart h hhome hvalue => rfl
        | nothing => rfl
    · rw [(ownProperty_of_other E hhost name).1]
  · have hsame := (asked_ownProperty (E := E) hobject other name).other hother
    simp only [slots, hsame]

/-- A lookup leaves the sort of an object. -/
theorem sort?_ownProperty (hobject : (s.object? (.created index)).isSome) (other : ObjectId)
    (name : String) :
    (E.ownProperty s other name).2.sort? (.created index) = s.sort? (.created index) := by
  have hasked := asked_ownProperty (E := E) hobject other name
  by_cases hother : .created index = other
  · subst hother
    exact (hasked.own rfl).1
  · exact congrArg (Option.map ScriptObject.sort) (hasked.other hother)

/-- A request keeps the cache sound. -/
theorem sound_ownProperty (hcache : s.cache.Sound E.types) (id : ObjectId) (name : String) :
    (E.ownProperty s id name).2.cache.Sound E.types := by
  have hstart : Apart E.types s s := ⟨s.cache, s.calls, rfl, ⟨hcache, hcache⟩, rfl⟩
  obtain ⟨-, cache, calls, -, ⟨hsound, -⟩, -⟩ := E.admits_apart.own s s id name hstart
  exact hsound

end Engine

/-! ### What a slot shows -/

/-- The slot of a key holds the descriptor, or it was never used and the first request for it finds
the constant whose value the descriptor holds. -/
def Store.Shows (E : Engine) (id : ObjectId) (key : String) (d : Descriptor) (s : Store) : Prop :=
  (s.slots id).state key = some (.live d) ∨
    (s.slots id).state key = none ∧ ∃ type n, s.sort? id = some (.typeReference type) ∧
      E.types.resolve type key .onType = .constant n ∧ d = .data (.number (.ofInt n.val)) .none

namespace Store.Shows

variable {E : Engine} {s t : Store} {id : ObjectId} {index : Nat} {key name : String}
  {d : Descriptor}

/-- What the name shows depends on its slot and the sort of its object. -/
theorem keep (h : s.Shows E id key d) (hsort : t.sort? id = s.sort? id)
    (hstate : (t.slots id).state key = (s.slots id).state key) : t.Shows E id key d := by
  unfold Shows
  rw [hsort, hstate]
  exact h

/-- A request finds what the slot shows, and what it found stands in the slot from then on. -/
theorem asked (h : s.Shows E id (Name.normalize name) d) (hhost : s.isHostObject id)
    (hcache : s.cache.Sound E.types) :
    (E.ownProperty s id name).1 = some ⟨d, some (id, Name.normalize name)⟩ ∧
      ((E.ownProperty s id name).2.slots id).state (Name.normalize name) = some (.live d) := by
  obtain hslot | ⟨hslot, type, n, hsort, hconstant, rfl⟩ := h
  · rw [Engine.ownProperty_of_state hhost hslot]
    exact ⟨rfl, hslot⟩
  · -- the constant is resolved now, and bound
    have hfound : E.ownProperty s id name =
        Engine.bind (E.resolve s type (Name.normalize name) .onType).2 id (Name.normalize name)
          (.data (.number (.ofInt n.val)) .none) := by
      have hmember : (E.resolve s type (Name.normalize name) .onType).1 = .constant n := by
        rw [← hconstant]
        exact hcache.resolve_fst type _ _
      simp only [Engine.ownProperty, hsort, Engine.hostSlot, hslot, Engine.bindStatic]
      generalize E.resolve s type (Name.normalize name) .onType = r at hmember
      obtain ⟨member, t⟩ := r
      cases hmember
      rfl
    rw [hfound]
    refine ⟨rfl, state_setLive_self ?_ _⟩
    exact isSome_of_isHostObject hhost

/-- Whatever is asked for, a slot goes on to show what it shows. -/
theorem ownProperty (h : s.Shows E (.created index) key d)
    (hhost : s.isHostObject (.created index)) (hcache : s.cache.Sound E.types) (other : ObjectId)
    (name : String) : (E.ownProperty s other name).2.Shows E (.created index) key d := by
  have hobject := isSome_of_isHostObject hhost
  by_cases hasked : .created index = other ∧ key = Name.normalize name
  · obtain ⟨rfl, rfl⟩ := hasked
    exact .inl (h.asked hhost hcache).2
  · exact h.keep (Engine.sort?_ownProperty hobject other name)
      (Engine.state_ownProperty_other hobject fun hother hname => hasked ⟨hother, hname⟩)

/-- A host property that is put back does not fit into the slot. -/
theorem putBack (h : s.Shows E id key d) (hfixed : d.isFixed) (other : String) {d' : Descriptor}
    (hd : ∀ v flags, d' ≠ .data v flags) : (s.putBack id other d').Shows E id key d := by
  refine h.keep (sort?_putBack s id other d') ?_
  by_cases hother : key = other
  · subst hother
    have hunchanged : s.putBack id key d' = s := by
      unfold Store.putBack SlotTable.get?
      obtain hslot | ⟨hslot, -⟩ := h
      · rw [hslot]
        -- a fixed descriptor is of another sort than anything that is written back
        have hsort : d.sameSort d' = false := by
          cases d with
          | data v flags =>
            cases d' with
            | data v flags => exact absurd rfl (hd v flags)
            | _ => rfl
          | property => cases hfixed
          | _ => rfl
        simp only [Option.bind_some, Slot.live?, hsort, Bool.false_eq_true, if_false]
      · rw [hslot]
        rfl
    rw [hunchanged]
  · obtain hput | hput := s.putBack_eq id other d'
    · rw [hput]
    · rw [hput, state_setLive_other s id hother]

/-- A write finds what the slot shows, and leaves it there. -/
theorem assign (h : s.Shows E (.created index) key d) (hfixed : d.isFixed)
    (hhost : s.isHostObject (.created index)) (hcache : s.cache.Sound E.types) (name : String)
    (value : ScriptValue) (strict : Bool) :
    (E.assign s (.created index) name value strict).Shows E (.created index) key d := by
  by_cases hname : key = Name.normalize name
  · subst hname
    have hdeleted : (s.slots (.created index)).isDeleted (Name.normalize name) = false := by
      unfold SlotTable.isDeleted
      obtain hslot | ⟨hslot, -⟩ := h <;> rw [hslot]
    -- the write is refused or passes without effect, so all that is left is the request
    have hunchanged : E.assign s (.created index) name value strict =
        (E.ownProperty s (.created index) name).2 := by
      have hfound := (h.asked hhost hcache).1
      unfold Engine.assign
      generalize E.ownProperty s (.created index) name = r at hfound
      obtain ⟨found, t⟩ := r
      cases hfound
      simp only [hdeleted, Bool.false_eq_true, if_false]
      cases d with
      | data v flags =>
        have hwritable : flags.writable = false := by simpa [Descriptor.isFixed] using hfixed
        simp only [Engine.assignFound, hwritable, Bool.false_eq_true, if_false]
      | count target => rfl
      | _ => cases hfixed
    rw [hunchanged]
    exact h.ownProperty hhost hcache _ name
  · -- a write of another name changes the slot of that name alone
    obtain ⟨t, ht, hassign⟩ := E.assign_cases s (.created index) name value strict
    have hshows : t.Shows E (.created index) key d := by
      obtain rfl | rfl := ht
      · exact h
      · exact h.ownProperty hhost hcache _ name
    obtain hassign | ⟨d', hassign⟩ := hassign
    · rw [hassign]
      exact hshows
    · rw [hassign]
      exact hshows.keep (t.sort?_modifySlots _ _ _) (state_setLive_other t _ hname d')

end Store.Shows

/-! ### Runs -/

/-- The slot of a key shows a descriptor as long as no access displaced it. -/
structure Store.Spared (E : Engine) (id : ObjectId) (key : String) (d : Descriptor) (s : Store)
    (accesses : List Access) : Prop where
  host : s.isHostObject id
  cache : s.cache.Sound E.types
  shows : (∀ a ∈ accesses, ¬ a.displaces key) → s.Shows E id key d

namespace Engine

variable {E : Engine} {s : Store} {id : ObjectId} {index : Nat} {key : String} {d : Descriptor}

/-- A write keeps the sort of the object, and the cache sound. -/
theorem kept_assign (hobject : (s.object? (.created index)).isSome) (hcache : s.cache.Sound E.types)
    (name : String) (value : ScriptValue) (strict : Bool) :
    (E.assign s (.created index) name value strict).sort? (.created index) =
      s.sort? (.created index) ∧
      (E.assign s (.created index) name value strict).cache.Sound E.types := by
  obtain ⟨t, ht, hassign⟩ := E.assign_cases s (.created index) name value strict
  have hkept : t.sort? (.created index) = s.sort? (.created index) ∧ t.cache.Sound E.types := by
    -- the assignment looks the name up before, or not
    obtain rfl | rfl := ht
    · exact ⟨rfl, hcache⟩
    · exact ⟨sort?_ownProperty hobject _ name, sound_ownProperty hcache _ name⟩
  obtain hassign | ⟨d, hassign⟩ := hassign
  · rw [hassign]
    exact hkept
  · rw [hassign, sort?_modifySlots]
    exact hkept

/-- Every access that does not displace the name keeps what its slot shows. -/
theorem tracks_spared (E : Engine) (index : Nat) (key : String) (hfixed : d.isFixed) :
    E.Tracks (.created index) (Spared E (.created index) key d) where
  host h := h.host
  elsewhere h hsame hcache := by
    refine ⟨isHostObject_of_sort?_eq h.host ?_, hcache ▸ h.cache, fun hspared => ?_⟩
    · simp only [sort?, hsame]
    · exact (h.shows hspared).keep (by simp only [sort?, hsame]) (by simp only [slots, hsame])
  own h other name := by
    have hobject := isSome_of_isHostObject h.host
    exact ⟨isHostObject_of_sort?_eq h.host (sort?_ownProperty hobject other name),
      sound_ownProperty h.cache other name,
      fun hspared => (h.shows hspared).ownProperty h.host h.cache other name⟩
  putBack {s _} h other d' hd := by
    refine ⟨isHostObject_of_sort?_eq h.host (sort?_putBack s _ other d'), ?_,
      fun hspared => (h.shows hspared).putBack hfixed other hd⟩
    obtain hput | hput := s.putBack_eq (.created index) other d' <;> rw [hput] <;> exact h.cache
  -- an assignment to the name itself is refused or ignored, and any other one goes elsewhere
  assign {s _} h name value strict := by
    have hsort := kept_assign (isSome_of_isHostObject h.host) h.cache name value strict
    refine ⟨isHostObject_of_sort?_eq h.host hsort.1, hsort.2, fun hspared => ?_⟩
    have hbefore := h.shows fun a ha => hspared a (List.mem_append_left _ ha)
    exact hbefore.assign hfixed h.host h.cache name value strict
  delete {s _} h name := by
    refine ⟨isHostObject_of_sort?_eq h.host (s.sort?_modifySlots _ _ _), h.cache, fun hspared => ?_⟩
    -- a deletion or definition of the name itself displaces it, which is ruled out
    have hname : key ≠ Name.normalize name := by
      rintro rfl
      exact hspared (.delete name) (by simp) (by simp [Access.displaces])
    have hbefore := h.shows fun a ha => hspared a (List.mem_append_left _ ha)
    exact hbefore.keep (s.sort?_modifySlots _ _ _) (state_markDeleted_other s _ hname)
  define {s _} h name value flags := by
    refine ⟨isHostObject_of_sort?_eq h.host (s.sort?_modifySlots _ _ _), h.cache, fun hspared => ?_⟩
    have hname : key ≠ name := by
      rintro rfl
      exact hspared (.define key value flags) (by simp) (by simp [Access.displaces])
    have hbefore := h.shows fun a ha => hspared a (List.mem_append_left _ ha)
    exact hbefore.keep (s.sort?_modifySlots _ _ _) (state_setLive_other s _ hname _)

/-- A read of a name gives what its slot shows. -/
theorem getMember_of_shows (R : Realm) {name : String}
    (h : s.Shows R.toEngine id (Name.normalize name) d) (hfixed : d.isFixed)
    (hhost : s.isHostObject id) (hcache : s.cache.Sound R.types) :
    R.getMember (.object id) name s = R.read d (R.toEngine.ownProperty s id name).2 := by
  have hpresent : (R.present id name : Action BridgeError (Option Handle)) s =
      (.ok (some ⟨d, some (id, Name.normalize name)⟩), (R.toEngine.ownProperty s id name).2) := by
    have hfound := (h.asked hhost hcache).1
    -- what is fixed is not absent, so the chain ends at the object
    have habsent : d.isAbsent = false := by cases d <;> first | rfl | cases hfixed
    simp only [Realm.present, Realm.own, bind_apply, Action.state, hfound]
    simp only [Option.filter_some, habsent, Bool.not_false, if_true]
    rfl
  show R.getFrom name (id :: (s.heap.chain id).tail) s = _
  simp only [Realm.getFrom, bind_apply, hpresent]

/-- A name that shows the count is read by counting. -/
theorem getMember_of_count (R : Realm) {name : String} {target : HostRef}
    {count : HostRef → Program .count}
    (h : s.Shows R.toEngine id (Name.normalize name) (.count target))
    (hcount : (R.types.entry? target.type).bind (·.count) = some count)
    (hhost : s.isHostObject id) (hcache : s.cache.Sound R.types) :
    R.getMember (.object id) name s =
      (do
        let n ← Realm.guarded (R.run (count target))
        return ScriptValue.number (.ofInt n)) s := by
  have hslot : R.toEngine.ownProperty s id name =
      (some ⟨.count target, some (id, Name.normalize name)⟩, s) := by
    obtain hslot | ⟨-, _, _, -, -, hdata⟩ := h
    · exact ownProperty_of_state hhost hslot
    · -- a count is bound from the start
      cases hdata
  have hrun : R.countOf target = R.run (count target) := by
    simp only [Realm.countOf, hcount]
  rw [getMember_of_shows R h rfl hhost hcache, hslot, Realm.read, hrun]

/-- A new wrapper of a countable instance shows the count. -/
theorem spared_wrap (hcache : s.cache.Sound E.types) {target : HostRef}
    (hcountable : E.types.isCountable target.type) :
    Spared E (.created s.heap.created.size) "length" (.count target) (s.wrap E.types target).2 [] := by
  have hobject : (s.wrap E.types target).2.object? (.created s.heap.created.size) =
      some (wrapperOf E.types target) := s.heap.object?_create_self _
  refine ⟨isHostObject_iff.2 (.inl ⟨target, sort?_of_object? hobject⟩), hcache, fun _ => .inl ?_⟩
  simp only [slots, hobject, wrapperOf, hcountable, if_true, Option.map_some, Option.getD_some]
  exact SlotTable.state_setLive _ _ _

/-- A new reference to an enumeration shows its constants, apart from one that is called
`prototype`. -/
theorem spared_typeReference (hcache : s.cache.Sound E.types) {type : TypeId} {n : Sized .int64}
    (henumeration : E.types.isEnumeration type) (hconstant : E.types.constant? type key = some n)
    (hkey : key ≠ "prototype") :
    Spared E (.created (s.heap.created.size + 1)) key (.data (.number (.ofInt n.val)) .none)
      (s.typeReference type).2 [] := by
  have hid : ObjectId.created (s.heap.created.size + 1) =
      ((s.create (.make .plain (some objectPrototype))).2.create ⟨.typeReference type,
        .setLive .empty "prototype" (.data (.object (.created s.heap.created.size)) .none),
        some functionPrototype⟩).1 := by
    simp [Store.create, Heap.create]
  have hobject : (s.typeReference type).2.object? (.created (s.heap.created.size + 1)) =
      some ⟨.typeReference type,
        .setLive .empty "prototype" (.data (.object (.created s.heap.created.size)) .none),
        some functionPrototype⟩ := by
    rw [hid]
    exact Heap.object?_create_self _ _
  have hsort : (s.typeReference type).2.sort? (.created (s.heap.created.size + 1)) =
      some (.typeReference type) := sort?_of_object? hobject
  refine ⟨isHostObject_iff.2 (.inr ⟨type, hsort⟩), hcache,
    fun _ => .inr ⟨?_, type, n, hsort, ?_, rfl⟩⟩
  · -- the one slot in use is that of the prototype
    simp only [slots, hobject, Option.map_some, Option.getD_some]
    exact SlotTable.state_setLive_of_ne _ _ hkey
  · simp [Registry.resolve, henumeration, hconstant]

/-- Whatever scripts and host code do after a wrapper or type reference was made, and however the
engine is set up: as long as the name was not deleted on it or defined anew, the length of the
wrapper is the count of the instance at the moment when it is read, or the error of counting, and a
constant of the enumeration has its value, under every spelling. -/
theorem read_only_unless_displaced (E : Engine) (depth : Nat) {s : Store}
    (hcache : s.cache.Sound E.types) (hooks : List Hook) :
    let R := E.realm depth
    (∀ target count, (E.types.entry? target.type).bind (·.count) = some count →
      let id := ObjectId.created s.heap.created.size
      let made := s.wrap E.types target
      let s' := enterAll (E.performWithin depth) hooks made.2
      made.1 = .object id ∧
        ∃ accesses, enterAll (E.watchWithin id depth) hooks made.2 = s'.noting accesses ∧
          ((∀ a ∈ accesses, ¬ a.displaces "length") →
            ∀ spelling, Name.normalize spelling = "length" →
              R.getMember (.object id) spelling s' =
                (do
                  let n ← Realm.guarded (R.run (count target))
                  return ScriptValue.number (.ofInt n)) s')) ∧
    ∀ type key n, E.types.isEnumeration type → E.types.constant? type key = some n →
      key ≠ "prototype" →
      let id := ObjectId.created (s.heap.created.size + 1)
      let made := s.typeReference type
      let s' := enterAll (E.performWithin depth) hooks made.2
      made.1 = .object id ∧
        ∃ accesses, enterAll (E.watchWithin id depth) hooks made.2 = s'.noting accesses ∧
          ((∀ a ∈ accesses, ¬ a.displaces key) →
            ∀ spelling, Name.normalize spelling = key →
              ∃ t, R.getMember (.object id) spelling s' = (.ok (.number (.ofInt n.val)), t)) := by
  intro R
  constructor
  · intro target count hcount id made s'
    have hcountable : E.types.isCountable target.type := by
      simp [Registry.isCountable, hcount]
    -- with no accesses yet, the wrapper shows its count
    have hstart : Tracked (Spared E id "length" (.count target)) made.2 made.2 :=
      ⟨[], (noting_nil _).symm, spared_wrap hcache hcountable⟩
    obtain ⟨accesses, hnoted, hspared⟩ := (E.tracks_spared _ _ rfl).enterAll depth hooks hstart
    refine ⟨rfl, accesses, hnoted, fun hkept spelling hspelling => ?_⟩
    have hshows : s'.Shows E id (Name.normalize spelling) (.count target) := by
      rw [hspelling]
      exact hspared.shows hkept
    exact getMember_of_count R hshows hcount hspared.host hspared.cache
  · intro type key n henumeration hconstant hkey id made s'
    have hid : made.1 = .object id := by
      simp [made, id, typeReference, Store.create, Heap.create]
    -- the constant is not bound before it is asked for, but it is what the name resolves to
    have hstart : Tracked (Spared E id key (.data (.number (.ofInt n.val)) .none)) made.2 made.2 :=
      ⟨[], (noting_nil _).symm, spared_typeReference hcache henumeration hconstant hkey⟩
    obtain ⟨accesses, hnoted, hspared⟩ := (E.tracks_spared _ _ rfl).enterAll depth hooks hstart
    refine ⟨hid, accesses, hnoted, fun hkept spelling hspelling => ?_⟩
    subst hspelling
    refine ⟨(E.ownProperty s' id spelling).2, ?_⟩
    exact getMember_of_shows R (hspared.shows hkept) rfl hspared.host hspared.cache

/-- An instance with three elements, and an enumeration with two constants. -/
def countedAndNamed : Registry :=
  ⟨#[(TypeEntry.make "List" .reference).withCount fun _ => .done 3,
    ((TypeEntry.make "Color" .enumeration).withConstant ⟨"red", "red", ⟨1, by decide⟩⟩).withConstant
      ⟨"prototype", "prototype", ⟨2, by decide⟩⟩]⟩

/-- A length and a constant that were written to. -/
theorem read_only_after_writes :
    let E : Engine := ⟨countedAndNamed, ⟨false, true, false⟩, .byCost⟩
    let list : HostRef := ⟨.declared 0, 0⟩
    let write name (id : Nat) := Hook.setMember (.created id) name (.string "other")
    let listed := enterAll (E.performWithin 1) [write "length" 3] (Store.initial.wrap E.types list).2
    let named := enterAll (E.performWithin 1) [write "red" 4]
      (Store.initial.typeReference (.declared 1)).2
    Store.initial.cache.Sound E.types ∧
      ((E.realm 1).getMember (.object (.created 3)) "length" listed).1 = .ok (.number (.ofInt 3)) ∧
      ((E.realm 1).getMember (.object (.created 4)) "red" named).1 = .ok (.number (.ofInt 1)) := by
  intro E list write listed named
  have hcache : Store.initial.cache.Sound E.types := ResolutionCache.sound_empty _
  have hkey : Name.normalize "red" = "red" := rfl
  have hlength : Name.normalize "length" = "length" := rfl
  refine ⟨hcache, ?_, ?_⟩
  · obtain ⟨hcounts, -⟩ := read_only_unless_displaced E 1 hcache [write "length" 3]
    obtain ⟨-, accesses, hnoted, hread⟩ := hcounts list (fun _ => .done 3) rfl
    -- the write was refused, and it is an assignment, which displaces nothing
    have haccesses : accesses = [.assign "length" (.string "other")] := by
      apply noting_injective (s := listed)
      exact hnoted.symm.trans rfl
    have hgives := hread (by simp [haccesses, Access.displaces]) "length" hlength
    exact congrArg Prod.fst hgives
  · obtain ⟨-, hconstants⟩ := read_only_unless_displaced E 1 hcache [write "red" 4]
    obtain ⟨-, accesses, hnoted, hread⟩ :=
      hconstants (.declared 1) "red" ⟨1, by decide⟩ rfl rfl (by decide)
    have haccesses : accesses = [.assign "red" (.string "other")] := by
      apply noting_injective (s := named)
      exact hnoted.symm.trans rfl
    obtain ⟨t, hgives⟩ := hread (by simp [haccesses, Access.displaces]) "red" hkey
    exact congrArg Prod.fst hgives

/-- A length that was deleted is gone, and whatever is written to it then is read back; a constant
that is called `prototype` is not the one that is read under its name. -/
theorem deleted_length_and_hidden_constant :
    let E : Engine := ⟨countedAndNamed, .default, .byCost⟩
    let R := E.realm 1
    let list : HostRef := ⟨.declared 0, 0⟩
    let id := ObjectId.created 3
    let deleted := enterAll (E.performWithin 1) [.deleteMember id "length"]
      (Store.initial.wrap E.types list).2
    let forged := enterAll (E.performWithin 1) [.setMember id "length" (.number (.ofInt 7))] deleted
    let named := (Store.initial.typeReference (.declared 1)).2
    (E.types.isCountable list.type ∧
      (Realm.guarded (R.countOf list) deleted).1 = .ok 3 ∧
      (R.getMember (.object id) "length" deleted).1 = .ok .undefined ∧
      (Realm.guarded (R.countOf list) forged).1 = .ok 3 ∧
      (R.getMember (.object id) "length" forged).1 = .ok (.number (.ofInt 7))) ∧
    E.types.isEnumeration (.declared 1) ∧
      E.types.constant? (.declared 1) "prototype" = some ⟨2, by decide⟩ ∧
      (R.getMember (.object (.created 4)) "prototype" named).1 = .ok (.object (.created 3)) :=
  ⟨⟨rfl, rfl, rfl, rfl, rfl⟩, rfl, rfl, rfl⟩

end Engine

end Membrane
