import Mathlib.Logic.Relation
import Membrane.Proofs.CacheTransparency

/-!
# The stores that are come to

A store changes in steps (`Engine.Step`): entries into the engine, programs of host and script, writes,
deletions and definitions of any descriptors, requests for properties, new objects, and what goes on
outside the engine. What holds at first and is kept by every step holds of all the stores that it leads
to (`Engine.LeadsTo`).

## Key results

- `Engine.LeadsTo.sound`: the resolution cache stays sound
-/

namespace Membrane

namespace Engine

variable {E : Engine} {s t : Store}

/-- What can happen to a store at once. What goes on outside the engine leaves the objects of the
scripts as they are, and puts into the cache nothing but what resolution finds. -/
inductive Step (E : Engine) : Store → Store → Prop where
  | enter (depth : Nat) (hook : Hook) (s : Store) : Step E s (E.performWithin depth hook s).2
  | run {y : Yield} (depth : Nat) (p : Program y) (s : Store) : Step E s ((E.realm depth).run p s).2
  | put (depth : Nat) (id : ObjectId) (name : String) (value : ScriptValue) (strict : Bool)
      (s : Store) : Step E s ((E.realm depth).put id name value strict s).2
  | delete (depth : Nat) (id : ObjectId) (name : String) (strict : Bool) (s : Store) :
      Step E s ((E.realm depth).delete id name strict s).2
  | define (depth : Nat) (id : ObjectId) (name : String) (d : Descriptor) (s : Store) :
      Step E s ((E.realm depth).define id name d s).2
  | handOut (id : ObjectId) (name : String) (s : Store) : Step E s (E.handOut s id name).2
  | create (o : ScriptObject) (s : Store) : Step E s (s.create o).2
  | outside {s t : Store} (hheap : t.heap = s.heap)
      (hcache : s.cache.Sound E.types → t.cache.Sound E.types) : Step E s t

/-- A store that is come to from another one. -/
abbrev LeadsTo (E : Engine) : Store → Store → Prop := Relation.ReflTransGen E.Step

/-- A program leads to the store that it leaves. -/
theorem leadsTo_run {y : Yield} {depth : Nat} {p : Program y} {outcome : Outcome y.Failure y.Result}
    (hrun : (E.realm depth).run p s = (outcome, t)) : E.LeadsTo s t := by
  have hstep := Step.run depth p s (E := E)
  rw [hrun] at hstep
  exact .single hstep

/-- What is given out is looked up before, and nothing else comes into the cache. -/
private theorem cache_handOut (E : Engine) (s : Store) (id : ObjectId) (name : String) :
    (E.handOut s id name).2.cache = (E.ownProperty s id name).2.cache := by
  unfold handOut
  split
  · next hown => rw [hown]
  · next hown =>
    rw [hown]
    split
    · rfl
    · -- the cell, and the slot that refers to it, are changes of the heap
      split <;> rfl

/-- One step puts into the cache nothing but what resolution finds. -/
theorem Step.sound (h : E.Step s t) (hcache : s.cache.Sound E.types) : t.cache.Sound E.types := by
  have hadmits := E.admits_apart
  have hkept := E.kept_apart
  have hstart : Store.Apart E.types s s := ⟨s.cache, s.calls, rfl, ⟨hcache, hcache⟩, rfl⟩
  -- a store that is compared with itself keeps a cache of its own
  have hsound {u v : Store} (hapart : Store.Apart E.types u v) : u.cache.Sound E.types := by
    obtain ⟨_, _, -, ⟨hu, -⟩, -⟩ := hapart
    exact hu
  cases h with
  | enter depth hook => exact hsound (hkept.performWithin_agree depth hook s s hstart).2
  | run depth p => exact hsound ((hkept.realm_alike depth).run_agree p s s hstart).2
  | put depth id name value strict =>
    exact hsound (hkept.put rfl rfl (hkept.realm_alike depth) id name value strict s s hstart).2
  | delete depth id name strict =>
    exact hsound (hkept.delete rfl rfl (hkept.realm_alike depth) id name strict s s hstart).2
  | define depth id name d =>
    have halike := hkept.realm_alike depth
    exact hsound (Admits.define_agree hadmits halike trivial name d s s hstart).2
  | handOut id name =>
    rw [cache_handOut]
    exact hsound ((hkept.realm_alike 0).own_agree (ε := Unit) id name s s hstart).2
  | create o => exact hcache
  | outside _ hkeeps => exact hkeeps hcache

/-- The cache stays sound. -/
theorem LeadsTo.sound (h : E.LeadsTo s t) (hcache : s.cache.Sound E.types) :
    t.cache.Sound E.types := by
  induction h with
  | refl => exact hcache
  | tail _ hstep ih => exact hstep.sound ih

end Engine

end Membrane
