import Membrane.Proofs.CacheTransparency
import Membrane.Proofs.Spelling

/-!
# Lookups that find nothing

A request for a property that an object lacks leaves the object as it is. It fills the resolution cache
at most, and that changes no answer (`ResolutionCache.AnswersAs`). So requests find nothing again, and
whether a property is found behind an object does not depend on what was looked for before, nor on
changes of the object itself (`Store.ChangesOnly.nothingBehind`).

## Key results

- `Engine.lacks_congr`: what a request that finds nothing depends on
- `Realm.getFrom_of_lacks`: a read that finds nothing
- `Store.ChangesOnly.nothingBehind`: changes of one object do not show behind it
-/

namespace Membrane

/-! ### Requests -/

/-- The second cache answers every lookup as the first one does. -/
def ResolutionCache.AnswersAs (types : Registry) (cache cache' : ResolutionCache) : Prop :=
  ∀ t key scope, (cache'.resolve types t key scope).1 = (cache.resolve types t key scope).1

namespace ResolutionCache

variable {types : Registry} {cache cache' cache'' : ResolutionCache}

/-- A cache answers as itself. -/
theorem AnswersAs.refl (types : Registry) (cache : ResolutionCache) :
    cache.AnswersAs types cache := fun _ _ _ => rfl

/-- What answers as a cache that answers as the first one answers as the first one. -/
theorem AnswersAs.trans (h : cache.AnswersAs types cache') (h' : cache'.AnswersAs types cache'') :
    cache.AnswersAs types cache'' := fun t key scope => (h' t key scope).trans (h t key scope)

/-- What a lookup keeps is what it would have found again. -/
theorem answersAs_resolve (types : Registry) (cache : ResolutionCache) (t : TypeId) (key : String)
    (scope : MemberScope) : cache.AnswersAs types (cache.resolve types t key scope).2 := by
  intro t' key' scope'
  cases hfind : cache.find? ⟨t, scope, key⟩ with
  | some member => simp only [resolve, hfind]
  | none =>
    simp only [resolve, hfind, find?_insert]
    -- the answer is kept under one key; it is what the lookup found there
    by_cases hsame : (⟨t', scope', key'⟩ : LookupKey) = ⟨t, scope, key⟩
    · cases hsame
      simp only [if_true, hfind]
    · simp only [if_neg hsame]
      cases cache.find? ⟨t', scope', key'⟩ <;> rfl

end ResolutionCache

namespace Engine

open Store

variable {E : Engine} {s t : Store} {id p : ObjectId} {name : String}

/-- Whether an object has a property depends on the object, and on what the cache answers. -/
theorem lacks_congr (hobject : t.object? p = s.object? p)
    (hcache : s.cache.AnswersAs E.types t.cache) (name : String) :
    E.lacks t p name = E.lacks s p name := by
  have hsort : t.sort? p = s.sort? p := by simp only [sort?, hobject]
  have hslots : t.slots p = s.slots p := by simp only [slots, hobject]
  have htable : tableSlot t p name = tableSlot s p name := by simp only [tableSlot, hslots]
  unfold lacks ownProperty
  rw [hsort, htable]
  -- only a wrapper and a type reference ask the cache, for names that have no slot yet
  split
  · split
    · rfl
    · split <;> rfl
  · next target _ =>
    simp only [hostSlot, hslots]
    cases (s.slots p).state (Name.normalize name) with
    | some slot => cases slot <;> rfl
    | none =>
      simp only [bindInstance, resolve]
      -- both caches answer with one member, and may differ in what they keep for the next time
      have hsame := hcache target.type (Name.normalize name) .onInstance
      generalize s.cache.resolve E.types target.type (Name.normalize name) .onInstance = r at hsame
      generalize t.cache.resolve E.types target.type (Name.normalize name) .onInstance = r' at hsame
      obtain ⟨member, _⟩ := r
      obtain ⟨_, _⟩ := r'
      cases hsame
      cases member <;> rfl
  · next type _ =>
    simp only [hostSlot, hslots]
    cases (s.slots p).state (Name.normalize name) with
    | some slot => cases slot <;> rfl
    | none =>
      simp only [bindStatic, resolve]
      have hsame := hcache type (Name.normalize name) .onType
      generalize s.cache.resolve E.types type (Name.normalize name) .onType = r at hsame
      generalize t.cache.resolve E.types type (Name.normalize name) .onType = r' at hsame
      obtain ⟨member, _⟩ := r
      obtain ⟨_, _⟩ := r'
      cases hsame
      cases member <;> rfl
  · rfl

/-- A request that finds nothing fills the cache at most. -/
theorem lookedUp_of_lacks (hlacks : E.lacks s p name) :
    ∃ cache, E.lookedUp p name s = { s with cache } ∧ s.cache.AnswersAs E.types cache := by
  have hsame : ∃ cache, s = { s with cache } ∧ s.cache.AnswersAs E.types cache :=
    ⟨s.cache, rfl, .refl _ _⟩
  by_cases hhost : s.isHostObject p
  · cases hslot : (s.slots p).state (Name.normalize name) with
    | some slot =>
      rw [lookedUp, ownProperty_of_state hhost hslot]
      exact hsame
    | none =>
      unfold lookedUp
      unfold lacks at hlacks
      unfold ownProperty at hlacks ⊢
      obtain ⟨target, hsort⟩ | ⟨type, hsort⟩ := isHostObject_iff.1 hhost
      · simp only [hsort, hostSlot, hslot, bindInstance, resolve] at hlacks ⊢
        have hanswers :=
          s.cache.answersAs_resolve E.types target.type (Name.normalize name) .onInstance
        generalize s.cache.resolve E.types target.type (Name.normalize name) .onInstance = r
          at hlacks hanswers ⊢
        obtain ⟨member, cache⟩ := r
        -- a member that is bound to the name would not be lacking
        cases member with
        | constant n => exact ⟨cache, rfl, hanswers⟩
        | undefined => exact ⟨cache, rfl, hanswers⟩
        | _ => cases hlacks
      · simp only [hsort, hostSlot, hslot, bindStatic, resolve] at hlacks ⊢
        have hanswers := s.cache.answersAs_resolve E.types type (Name.normalize name) .onType
        generalize s.cache.resolve E.types type (Name.normalize name) .onType = r
          at hlacks hanswers ⊢
        obtain ⟨member, cache⟩ := r
        cases member with
        -- a type reference passes an indexer over as well
        | indexer i => exact ⟨cache, rfl, hanswers⟩
        | undefined => exact ⟨cache, rfl, hanswers⟩
        | _ => cases hlacks
  · rw [lookedUp, (ownProperty_of_other E hhost name).1]
    exact hsame

end Engine

namespace Realm

open Action

/-- A read that finds nothing in any object gives undefined. -/
theorem getFrom_of_lacks (R : Realm) {s : Store} {name : String} {chain : List ObjectId}
    (hlacks : ∀ p ∈ chain, R.toEngine.lacks s p name) :
    ∃ cache, R.getFrom name chain s = (.ok .undefined, { s with cache }) ∧
      s.cache.AnswersAs R.types cache := by
  induction chain generalizing s with
  | nil => exact ⟨s.cache, rfl, .refl _ _⟩
  | cons p rest ih =>
    have hfirst := hlacks p List.mem_cons_self
    obtain ⟨cache, hlooked, hanswers⟩ := Engine.lookedUp_of_lacks hfirst
    -- the cache that the first request leaves answers the others alike
    have hrest : ∀ q ∈ rest, R.toEngine.lacks { s with cache } q name := by
      intro q hq
      have hsame : R.toEngine.lacks { s with cache } q name = R.toEngine.lacks s q name :=
        Engine.lacks_congr (s := s) (t := { s with cache }) rfl hanswers name
      rw [hsame]
      exact hlacks q (List.mem_cons_of_mem _ hq)
    obtain ⟨cache', hget, hanswers'⟩ := ih hrest
    refine ⟨cache', ?_, hanswers.trans hanswers'⟩
    simp only [getFrom, bind_apply, present_of_lacks hfirst, hlooked]
    exact hget

end Realm

/-! ### Changes of one object -/

/-- What a change of the object `id` leaves alone: the other objects, all prototypes, and what the
cache answers. -/
structure Store.ChangesOnly (types : Registry) (id : ObjectId) (s t : Store) : Prop where
  others : ∀ p, p ≠ id → t.object? p = s.object? p
  prototype : ∀ p, t.heap.prototype? p = s.heap.prototype? p
  cache : s.cache.AnswersAs types t.cache

/-- No object behind another one has a property under the name. -/
def Engine.NothingBehind (E : Engine) (s : Store) (id : ObjectId) (name : String) : Prop :=
  ∀ p ∈ (s.heap.chain id).tail, p ≠ id → E.lacks s p name

/-- If the object itself lacks the property as well, no object has it that a read asks. -/
theorem Engine.NothingBehind.lacks {E : Engine} {s : Store} {id : ObjectId} {name : String}
    (h : E.NothingBehind s id name) (hself : E.lacks s id name) :
    ∀ p ∈ id :: (s.heap.chain id).tail, E.lacks s p name := by
  intro p hp
  by_cases hp' : p = id
  · rwa [hp']
  · exact h p ((List.mem_cons.1 hp).resolve_left hp') hp'

namespace Store

variable {types : Registry} {s t : Store} {id : ObjectId}

/-- A store that nothing is done to. -/
theorem changesOnly_refl (types : Registry) (id : ObjectId) (s : Store) : ChangesOnly types id s s :=
  ⟨fun _ _ => rfl, fun _ => rfl, .refl _ _⟩

/-- Lookups on types that leave the answers of the cache as they were. -/
theorem changesOnly_cache {cache : ResolutionCache} (h : s.cache.AnswersAs types cache) :
    ChangesOnly types id s { s with cache } :=
  ⟨fun _ _ => rfl, fun _ => rfl, h⟩

/-- A change of an object that keeps its prototype. -/
theorem changesOnly_modifyObject (types : Registry) (id : ObjectId) {f : ScriptObject → ScriptObject}
    (hf : ∀ o, (f o).prototype = o.prototype) : ChangesOnly types id s (s.modifyObject id f) where
  others p hp := s.heap.object?_modify_of_ne f hp
  prototype p := by
    -- a prototype is read off the object, and the change keeps it
    show ((s.heap.modify id f).object? p).bind _ = (s.heap.object? p).bind _
    by_cases hp : p = id
    · subst hp
      rw [Heap.object?_modify_self]
      cases s.heap.object? p with
      | none => rfl
      | some o => exact hf o
    · rw [Heap.object?_modify_of_ne _ _ hp]
  cache := .refl _ _

/-- Since all prototypes stay, every chain does. -/
theorem ChangesOnly.chain (h : ChangesOnly types id s t) (p : ObjectId) :
    t.heap.chain p = s.heap.chain p := by
  unfold Heap.chain
  -- the walk takes the same number of steps in both heaps, and the same link at each of them
  generalize Heap.age p + 1 = steps
  induction steps generalizing p with
  | zero => rfl
  | succ steps ih =>
    simp only [Heap.chainWithin, h.prototype p]
    cases s.heap.prototype? p with
    | none => rfl
    | some q => exact congrArg (p :: ·) (ih q)

/-- What is lacked by all objects behind one is lacked by them afterwards, since they stay. -/
theorem ChangesOnly.nothingBehind {E : Engine} (h : ChangesOnly E.types id s t) {name : String}
    (hbehind : E.NothingBehind s id name) : E.NothingBehind t id name := by
  intro p hp hne
  rw [h.chain] at hp
  rw [Engine.lacks_congr (h.others p hne) h.cache]
  exact hbehind p hp hne

end Store

end Membrane
