import Mathlib.Logic.Function.Basic
import Membrane.Proofs.Unseen

/-!
# The resolution cache does not show

A cache that only ever remembers what resolution found (`ResolutionCache.Sound`) answers every
lookup as resolution would (`Sound.resolve_fst`) and stays sound (`Sound.resolve_snd`). So two runs
whose stores differ in a sound cache alone cannot be told apart (`Engine.kept_apart`), and engines
that share one cache, clear it and fill it in any order answer as engines that have one each, empty
at the start (`Pool.answers_eq`).
-/

namespace Membrane

namespace ResolutionCache

/-- Everything that is kept is what resolution finds. -/
def Sound (types : Registry) (cache : ResolutionCache) : Prop :=
  ∀ key member, cache.find? key = some member → member = types.resolve key.type key.name key.scope

variable {types : Registry} {cache : ResolutionCache}

/-- An empty cache has no wrong answer. -/
theorem sound_empty (types : Registry) : empty.Sound types := by
  intro key member hfind
  cases hfind

/-- What is kept in the cache is found under its own key. -/
theorem find?_insert (cache : ResolutionCache) (key other : LookupKey) (member : ResolvedMember) :
    (cache.insert key member).find? other =
      if other = key then some member else cache.find? other := by
  unfold find? insert
  rw [List.lookup_cons]
  by_cases h : other = key
  · simp [h]
  · have hne : (other == key) = false := beq_eq_false_iff_ne.mpr h
    simp [h, hne]

/-- A sound cache answers as resolution does. -/
theorem Sound.resolve_fst (h : cache.Sound types) (t : TypeId) (key : String)
    (scope : MemberScope) :
    (cache.resolve types t key scope).1 = types.resolve t key scope := by
  unfold resolve
  split
  · next member hfind => exact h _ member hfind
  · rfl

/-- A sound cache keeps right answers only, so it stays sound. -/
theorem Sound.resolve_snd (h : cache.Sound types) (t : TypeId) (key : String)
    (scope : MemberScope) : (cache.resolve types t key scope).2.Sound types := by
  unfold resolve
  split
  · exact h
  · intro other member hfind
    rw [find?_insert] at hfind
    split at hfind
    · next heq =>
      -- the lookup that was just kept
      cases hfind
      rw [heq]
    · exact h other member hfind

end ResolutionCache

/-! ### Stores apart from their caches -/

namespace Store

/-- The store with another cache. -/
def withCache (s : Store) (cache : ResolutionCache) : Store := { s with cache }

/-- The stores differ in their caches at most, and both caches are sound. -/
def Apart (types : Registry) : Store → Store → Prop :=
  Beside (fun c c' => c.Sound types ∧ c'.Sound types) (· = ·)

/-- Two sound caches in one store. -/
theorem apart_withCache {types : Registry} {s : Store} {cache cache' : ResolutionCache}
    (hcache : cache.Sound types) (hcache' : cache'.Sound types) :
    Apart types (s.withCache cache) (s.withCache cache') :=
  ⟨cache', s.calls, rfl, ⟨hcache, hcache'⟩, rfl⟩

/-- Sound caches answer alike. -/
theorem answerAlike_sound (types : Registry) :
    AnswerAlike types fun c c' => c.Sound types ∧ c'.Sound types := by
  rintro c c' t key scope ⟨hc, hc'⟩
  refine ⟨?_, hc.resolve_snd t key scope, hc'.resolve_snd t key scope⟩
  rw [hc.resolve_fst, hc'.resolve_fst]

end Store

namespace Engine

/-- The engine with a cache of its own. -/
def isolated (E : Engine) : Engine := { E with options := { E.options with isolated := true } }

/-- An engine with a cache of its own is the same engine otherwise. -/
theorem twin_isolated (E : Engine) : E.Twin E.isolated := ⟨rfl, rfl, rfl, rfl⟩

/-- No change of a store shows which of its lookups the cache answers. -/
theorem admits_apart (E : Engine) :
    E.Admits (Store.Apart E.types) (fun _ => True) E.isolated :=
  admits_beside E.twin_isolated (Store.answerAlike_sound E.types)
    fun _ _ entry h => congrArg (·.push entry) h

/-- Stores apart in their caches stay so. -/
theorem kept_apart (E : Engine) : E.Kept (Store.Apart E.types) E.isolated := E.admits_apart.kept

end Engine

/-! ### Steps -/

/-- What can be asked of an engine at work, apart from the size of its cache. -/
inductive Step : Type 1 where
  | enter (hook : Hook)
  /-- Run a body of host or script code. -/
  | run {y : Yield} (body : Program y)
  | callObject (callee : ObjectId) (this : ScriptValue) (args : List ScriptValue)
  | constructObject (callee : ObjectId) (args : List ScriptValue)
  /-- The descriptor of an own property. -/
  | own (id : ObjectId) (name : String)
  | canPut (id : ObjectId) (name : String)
  | put (id : ObjectId) (name : String) (value : ScriptValue) (strict : Bool)
  | delete (id : ObjectId) (name : String) (strict : Bool)
  | define (id : ObjectId) (name : String) (d : Descriptor)
  /-- Write to the descriptor of an own property. -/
  | writeOwn (id : ObjectId) (name : String) (value : ScriptValue)
  /-- The member that a key denotes, by way of the cache. -/
  | lookup (type : TypeId) (key : String) (scope : MemberScope)
  | clearCache
  /-- Look at the store or change it from outside, the cache excepted. -/
  | outside {α : Type} (f : Store → α × Store)

namespace Step

/-- The errors of a step. -/
@[reducible] def Failure : Step → Type
  | @run y _ => y.Failure
  | _ => BridgeError

/-- The answer of a step that succeeds. -/
@[reducible] def Answer : Step → Type
  | .enter hook => hook.Answer
  | @run y _ => y.Result
  | .callObject .. | .constructObject .. => ScriptValue
  | .own .. => Option Handle
  | .canPut .. | .delete .. | .define .. => Bool
  | .put .. | .clearCache => Unit
  | .writeOwn .. => Option Handle
  | .lookup .. => ResolvedMember
  | @outside α _ => α

/-- Takes a step. -/
def take (R : Realm) : (step : Step) → Action step.Failure step.Answer
  | .enter hook => R.perform hook
  | .run body => R.run body
  | .callObject callee this args => R.callObject callee this args
  | .constructObject callee args => R.constructObject callee args
  | .own id name => R.own id name
  | .canPut id name => R.canPut id name
  | .put id name value strict => R.put id name value strict
  | .delete id name strict => R.delete id name strict
  | .define id name d => R.define id name d
  | .writeOwn id name value => do
      match ← R.own id name with
      | some handle => return some (← R.writeThrough handle value)
      | none => return none
  | .lookup type key scope => Action.state (R.toEngine.resolve · type key scope)
  | .clearCache => Action.modify (·.withCache .empty)
  | .outside f => Action.state fun s =>
      let (answer, t) := f (s.withCache .empty)
      (answer, t.withCache s.cache)

open Action Store

/-- Two engines that differ in their caches alone take every step alike. -/
theorem take_agree (E : Engine) (depth : Nat) (step : Step) :
    Agree (Apart E.types) (step.take (E.realm depth)) (step.take (E.isolated.realm depth)) := by
  have h := E.kept_apart.realm_alike depth
  have hadmits : (E.realm depth).toEngine.Admits (Apart E.types) (fun _ => True)
      (E.isolated.realm depth).toEngine := E.admits_apart
  -- every step but the last four is built from what an engine does to objects
  have hkept := hadmits.kept
  cases step with
  | enter hook => exact hkept.perform_agree h hook
  | run body => exact h.run_agree body
  | callObject callee this args => exact h.callObject_agree callee this args
  | constructObject callee args => exact h.constructObject_agree callee args
  | own id name => exact h.own_agree id name
  | canPut id name => exact h.canPut_agree id name
  | put id name value strict => exact hkept.put rfl rfl h id name value strict
  | delete id name strict => exact hkept.delete rfl rfl h id name strict
  | define id name d => exact hadmits.define_agree h trivial name d
  | writeOwn id name value =>
    refine (h.own_agree id name).bind fun found => ?_
    cases found with
    | none => exact agree_pure none
    | some handle =>
      refine (hadmits.writeThrough_agree h (fun _ _ _ => trivial) value).bind fun handle => ?_
      exact agree_pure (some handle)
  | lookup type key scope =>
    exact agree_ok fun s t hst =>
      Engine.resolve_beside E.twin_isolated (answerAlike_sound E.types) hst type key scope
  | clearCache =>
    refine agree_modify fun s t hst => ?_
    -- cleared caches are sound on both sides
    obtain ⟨cache, calls, rfl, -, rfl⟩ := hst
    exact apart_withCache (ResolutionCache.sound_empty _) (ResolutionCache.sound_empty _)
  | outside f =>
    refine agree_ok fun s t hst => ?_
    -- what goes on outside sees no cache, so it does the same on both sides
    obtain ⟨cache, calls, rfl, ⟨hs, hcache⟩, rfl⟩ := hst
    exact ⟨rfl, apart_withCache hs hcache⟩

end Step

/-! ### Engines that share a cache -/

/-- Engines over the same host types; no two of these have the same identity. Those that are not
isolated share one cache. -/
structure Pool where
  types : Registry
  options : Nat → Options
  ranker : Nat → Ranker

namespace Pool

/-- An engine of the pool: they have the types in common. -/
def engine (P : Pool) (i : Nat) : Engine := ⟨P.types, P.options i, P.ranker i⟩

/-- The same engines, each with a cache of its own. -/
def isolated (P : Pool) : Pool :=
  { P with options := fun i => { P.options i with isolated := true } }

/-- The caches of a pool: the shared one, and those of single engines. -/
inductive CacheId where
  | shared
  | own (engine : Nat)
  deriving DecidableEq, Repr

/-- The cache that an engine uses. -/
def cacheOf (P : Pool) (i : Nat) : CacheId :=
  if (P.options i).isolated then .own i else .shared

/-- The stores that the engines work on, and the caches. -/
structure State where
  worlds : Nat → Store
  caches : CacheId → ResolutionCache

/-- Nothing was looked up yet. -/
def State.cold (worlds : Nat → Store) : State := ⟨worlds, fun _ => .empty⟩

/-- An engine takes a step in one of the worlds. -/
structure Event where
  engine : Nat
  world : Nat
  step : Step

/-- An event and how its step ended. -/
structure Reply extends Event where
  outcome : Outcome step.Failure step.Answer

/-- What a lookup finds; nothing for other events. -/
def Reply.found? : Reply → Option (Outcome BridgeError ResolvedMember)
  | ⟨⟨_, _, .lookup ..⟩, outcome⟩ => some outcome
  | _ => none

/-- What a lookup ought to find; nothing for other events. -/
def Event.resolved? (types : Registry) : Event → Option (Outcome BridgeError ResolvedMember)
  | ⟨_, _, .lookup type key scope⟩ => some (.ok (types.resolve type key scope))
  | _ => none

/-- One event: the step works on the world with the cache that its engine uses. -/
def happen (P : Pool) (depth : Nat) (σ : State) (e : Event) : Reply × State :=
  let (outcome, s) := e.step.take ((P.engine e.engine).realm depth)
    ((σ.worlds e.world).withCache (σ.caches (P.cacheOf e.engine)))
  (⟨e, outcome⟩, {
    worlds := Function.update σ.worlds e.world (s.withCache .empty)
    caches := Function.update σ.caches (P.cacheOf e.engine) s.cache })

/-- The replies to events that happen one after the other. -/
def replies (P : Pool) (depth : Nat) : State → List Event → List Reply
  | _, [] => []
  | σ, e :: rest =>
      let (reply, σ) := P.happen depth σ e
      reply :: replies P depth σ rest

/-- Every cache is sound. -/
def State.Sound (types : Registry) (σ : State) : Prop := ∀ id, (σ.caches id).Sound types

variable {P : Pool} {depth : Nat} {σ τ : State}

/-- All caches are empty at first. -/
theorem sound_cold (types : Registry) (worlds : Nat → Store) : (State.cold worlds).Sound types :=
  fun _ => ResolutionCache.sound_empty types

/-- A step leaves one cache changed, and soundly. -/
private theorem sound_update (h : σ.Sound P.types) (id : CacheId) {cache : ResolutionCache}
    (hcache : cache.Sound P.types) (worlds : Nat → Store) :
    State.Sound P.types ⟨worlds, Function.update σ.caches id cache⟩ := by
  intro other
  by_cases hid : other = id
  · subst hid
    simpa using hcache
  · simpa [Function.update_of_ne hid] using h other

/-- An event in a world that two pools of the same engines agree on: the replies are the same, and
so is the world afterwards, whatever the caches have kept. -/
private theorem happen_apart (depth : Nat) (hσ : σ.Sound P.types) (hτ : τ.Sound P.types) (e : Event)
    (hworld : τ.worlds e.world = σ.worlds e.world) :
    (P.happen depth σ e).1 = (P.isolated.happen depth τ e).1 ∧
      (P.isolated.happen depth τ e).2.worlds e.world = (P.happen depth σ e).2.worlds e.world ∧
      (P.happen depth σ e).2.Sound P.types ∧ (P.isolated.happen depth τ e).2.Sound P.types := by
  -- the two sides start a step apart in their caches, and a step keeps them so
  have hstart : Store.Apart P.types
      ((σ.worlds e.world).withCache (σ.caches (P.cacheOf e.engine)))
      ((τ.worlds e.world).withCache (τ.caches (P.isolated.cacheOf e.engine))) := by
    rw [hworld]
    exact Store.apart_withCache (hσ _) (hτ _)
  have htake : Action.Agree (Store.Apart P.types) (e.step.take ((P.engine e.engine).realm depth))
      (e.step.take ((P.isolated.engine e.engine).realm depth)) :=
    e.step.take_agree (P.engine e.engine) depth
  obtain ⟨outcome, s, t, htaken, htaken', hst⟩ := htake.exists_outcome hstart
  obtain ⟨cache, calls, rfl, ⟨hs, hcache⟩, rfl⟩ := hst
  simp only [happen, htaken, htaken']
  refine ⟨trivial, ?_, sound_update hσ _ hs _, sound_update hτ _ hcache _⟩
  simp only [Function.update_self]
  rfl

/-- A lookup finds what resolution finds. -/
private theorem found_happen (hσ : σ.Sound P.types) (e : Event) :
    (P.happen depth σ e).1.found? = e.resolved? P.types := by
  obtain ⟨i, world, step⟩ := e
  cases step with
  | lookup type key scope =>
    have hfound := (hσ (P.cacheOf i)).resolve_fst type key scope
    exact congrArg (fun member => some (Outcome.ok member)) hfound
  | _ => rfl

/-- What lookups find in a history is what resolution gives, event by event. -/
private theorem filterMap_found_replies (hσ : σ.Sound P.types) (events : List Event) :
    (P.replies depth σ events).filterMap Reply.found? =
      events.filterMap (Event.resolved? P.types) := by
  induction events generalizing σ with
  | nil => rfl
  | cons e rest ih =>
    obtain ⟨-, -, hsound, -⟩ := happen_apart depth hσ hσ e rfl
    simp only [replies, List.filterMap_cons, found_happen hσ e, ih hsound]

/-- The events of one world among others, and alone with a cold cache. -/
private theorem filter_replies (world : Nat) (events : List Event) (hσ : σ.Sound P.types)
    (hτ : τ.Sound P.types) (hworld : τ.worlds world = σ.worlds world) :
    (P.replies depth σ events).filter (·.world == world) =
      P.isolated.replies depth τ (events.filter (·.world == world)) := by
  induction events generalizing σ τ with
  | nil => rfl
  | cons e rest ih =>
    by_cases hhere : e.world = world
    · -- the event is on both sides
      subst hhere
      obtain ⟨hreply, hafter, hsound, hsound'⟩ := happen_apart depth hσ hτ e hworld
      have hkeep : ((P.happen depth σ e).1.world == e.world) = true := beq_self_eq_true e.world
      simp only [replies, List.filter_cons, hkeep, beq_self_eq_true, if_true]
      rw [ih hsound hsound' hafter, hreply]
    · -- it is on one side alone, and leaves a sound cache behind
      obtain ⟨-, -, hsound, -⟩ := happen_apart depth hσ hσ e rfl
      have hskip : (e.world == world) = false := beq_eq_false_iff_ne.mpr hhere
      have hafter : τ.worlds world = (P.happen depth σ e).2.worlds world := by
        rw [hworld]
        exact (Function.update_of_ne (Ne.symm hhere) _ _).symm
      have hskip' : ((P.happen depth σ e).1.world == world) = false := hskip
      simp only [replies, List.filter_cons, hskip, hskip']
      exact ih hsound hτ hafter

/-- However engines interleave, and whichever of them share the cache, are the first to look a
member up, or clear the cache: every lookup finds what resolution finds, and what the engines
answer in a world is what they answer there alone, each with a cache of its own that is empty at the
start. -/
theorem replies_eq_cold (P : Pool) (depth : Nat) (worlds : Nat → Store) (events : List Event) :
    (P.replies depth (.cold worlds) events).filterMap Reply.found? =
        events.filterMap (Event.resolved? P.types) ∧
      ∀ world, (P.replies depth (.cold worlds) events).filter (·.world == world) =
        P.isolated.replies depth (.cold worlds) (events.filter (·.world == world)) := by
  have hsound := sound_cold P.types worlds
  exact ⟨filterMap_found_replies hsound events,
    fun world => filter_replies world events hsound hsound rfl⟩

end Pool

end Membrane
