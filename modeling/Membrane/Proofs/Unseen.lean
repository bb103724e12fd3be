import Membrane.Proofs.KeptRelations

/-!
# What no program sees

The resolution cache and the log of calls are parts of the store that no program can look at.
`Store.Beside` relates stores that differ in these two alone, and `Engine.admits_beside` says that
the engine keeps them so, whatever the two caches have kept, as long as they answer alike.
-/

namespace Membrane

namespace Store

/-- The text of a script value does not depend on the cache. -/
private theorem showWithin_forget (types : Registry) (s : Store) (depth : Nat)
    (outer : List ObjectId) (v : ScriptValue) :
    s.forget.showWithin types depth outer v = s.showWithin types depth outer v := by
  -- the elements are the same on both sides; only the depth that is left counts
  induction depth generalizing outer v with
  | zero =>
    cases v with
    | object id =>
      rw [showWithin, showWithin]
      rfl
    | undefined | null | boolean _ | number _ | string _ => rfl
  | succ depth ih =>
    cases v with
    | object id =>
      have hinner : s.forget.showWithin types depth (id :: outer) =
          s.showWithin types depth (id :: outer) := funext (ih (id :: outer))
      rw [showWithin, showWithin]
      simp only [hinner]
      rfl
    | undefined | null | boolean _ | number _ | string _ => rfl

mutual

/-- The text of a host value does not depend on the cache. -/
private theorem showHost_forget (types : Registry) (s : Store) :
    ∀ v : HostValue, s.forget.showHost types v = s.showHost types v
  | .undefined | .null | .bool _ | .integer .. | .float _ | .double _ | .string _ | .constant ..
  | .object _ | .hostType _ => by unfold showHost; rfl
  | .array elementType items => by rw [showHost, showHost, showHostAll_forget types s items]
  | .script v => by
    rw [showHost, showHost]
    unfold showScript
    rw [showWithin_forget]
    rfl

/-- The texts of host values do not depend on the cache. -/
private theorem showHostAll_forget (types : Registry) (s : Store) :
    ∀ vs : List HostValue, s.forget.showHostAll types vs = s.showHostAll types vs
  | [] => by unfold showHostAll; rfl
  | v :: rest => by
    rw [showHostAll, showHostAll, showHost_forget types s v, showHostAll_forget types s rest]

end

/-- The stores differ at most in what no program sees: their caches as `Q` allows, and their logs as
`L` does. -/
def Beside (Q : ResolutionCache → ResolutionCache → Prop)
    (L : Array CallRecord → Array CallRecord → Prop) (s t : Store) : Prop :=
  ∃ cache calls, t = { s with cache, calls } ∧ Q s.cache cache ∧ L s.calls calls

/-- Caches that answer every lookup alike, and go on to do so. -/
def AnswerAlike (types : Registry) (Q : ResolutionCache → ResolutionCache → Prop) : Prop :=
  ∀ c c' t key scope, Q c c' → (c.resolve types t key scope).1 = (c'.resolve types t key scope).1 ∧
    Q (c.resolve types t key scope).2 (c'.resolve types t key scope).2

variable {Q : ResolutionCache → ResolutionCache → Prop}
  {L : Array CallRecord → Array CallRecord → Prop} {s t : Store}

/-- A record looks at no cache and at no earlier record. -/
theorem Beside.record (hL : ∀ c c' entry, L c c' → L (c.push entry) (c'.push entry))
    (h : Beside Q L s t) (types : Registry) (label : String) (this : Option HostRef)
    (args : List HostValue) :
    Beside Q L (s.record types label this args) (t.record types label this args) := by
  obtain ⟨cache, calls, rfl, hcache, hcalls⟩ := h
  -- what is recorded is a text, and texts do not depend on what is unseen
  have hshow : Store.showHostAll types { s with cache, calls } args =
      s.showHostAll types args := by
    rw [← showHostAll_forget types s, ← showHostAll_forget types { s with cache, calls }]
    rfl
  unfold Store.record labelling
  simp only [hshow]
  exact ⟨cache, _, rfl, hcache, hL _ _ _ hcalls⟩

end Store

/-- Putting a descriptor back does not look at the log. -/
theorem Store.putBack_entries (s : Store) (entries : Array CallRecord) (id : ObjectId)
    (key : String) (d : Descriptor) :
    ({ s with calls := entries ++ s.calls } : Store).putBack id key d =
      { s.putBack id key d with calls := entries ++ (s.putBack id key d).calls } := by
  have hslots : ({ s with calls := entries ++ s.calls } : Store).slots id = s.slots id := rfl
  unfold putBack
  rw [hslots]
  split
  · split <;> rfl
  · rfl

namespace Engine

open Store

variable {Q : ResolutionCache → ResolutionCache → Prop}
  {L : Array CallRecord → Array CallRecord → Prop} {E E' : Engine} {s t : Store}

/-- Members resolve alike beside another cache that answers alike. -/
theorem resolve_beside (htwin : E.Twin E') (hQ : AnswerAlike E.types Q) (h : Beside Q L s t)
    (type : TypeId) (key : String) (scope : MemberScope) :
    (E.resolve s type key scope).1 = (E'.resolve t type key scope).1 ∧
      Beside Q L (E.resolve s type key scope).2 (E'.resolve t type key scope).2 := by
  obtain ⟨cache, calls, rfl, hcache, hcalls⟩ := h
  obtain ⟨heq, hnext⟩ := hQ s.cache cache type key scope hcache
  unfold resolve
  rw [htwin.types]
  exact ⟨heq, _, calls, rfl, hnext, hcalls⟩

/-- Members of instances are bound alike. -/
private theorem bindInstance_beside (htwin : E.Twin E') (hQ : AnswerAlike E.types Q)
    (h : Beside Q L s t) (id : ObjectId) (target : HostRef) (name key : String) :
    (E.bindInstance s id target name key).1 = (E'.bindInstance t id target name key).1 ∧
      Beside Q L (E.bindInstance s id target name key).2
        (E'.bindInstance t id target name key).2 := by
  obtain ⟨heq, hW⟩ := resolve_beside htwin hQ h target.type key .onInstance
  unfold bindInstance
  generalize E.resolve s target.type key .onInstance = r at heq hW
  generalize E'.resolve t target.type key .onInstance = r' at heq hW
  obtain ⟨member, s⟩ := r
  obtain ⟨member', t⟩ := r'
  cases heq
  obtain ⟨cache, calls, rfl, hcache, hcalls⟩ := hW
  -- a method group makes a new object, under the same name on both sides
  cases member with
  | methodGroup group => cases id <;> exact ⟨rfl, cache, calls, rfl, hcache, hcalls⟩
  | _ => exact ⟨rfl, cache, calls, rfl, hcache, hcalls⟩

/-- Members of types are bound alike. -/
private theorem bindStatic_beside (htwin : E.Twin E') (hQ : AnswerAlike E.types Q)
    (h : Beside Q L s t) (id : ObjectId) (type : TypeId) (key : String) :
    (E.bindStatic s id type key).1 = (E'.bindStatic t id type key).1 ∧
      Beside Q L (E.bindStatic s id type key).2 (E'.bindStatic t id type key).2 := by
  obtain ⟨heq, hW⟩ := resolve_beside htwin hQ h type key .onType
  unfold bindStatic
  generalize E.resolve s type key .onType = r at heq hW
  generalize E'.resolve t type key .onType = r' at heq hW
  obtain ⟨member, s⟩ := r
  obtain ⟨member', t⟩ := r'
  cases heq
  obtain ⟨cache, calls, rfl, hcache, hcalls⟩ := hW
  -- a method group makes a new object, under the same name on both sides
  cases member with
  | methodGroup group => cases id <;> exact ⟨rfl, cache, calls, rfl, hcache, hcalls⟩
  | _ => exact ⟨rfl, cache, calls, rfl, hcache, hcalls⟩

/-- A slot in use answers by itself; an unused one is bound alike. -/
private theorem hostSlot_beside (h : Beside Q L s t) (id : ObjectId) (key : String)
    {bindUnset bindUnset' : Store → Option Handle × Store}
    (hunset : (bindUnset s).1 = (bindUnset' t).1 ∧ Beside Q L (bindUnset s).2 (bindUnset' t).2) :
    (hostSlot s id key bindUnset).1 = (hostSlot t id key bindUnset').1 ∧
      Beside Q L (hostSlot s id key bindUnset).2 (hostSlot t id key bindUnset').2 := by
  have hslots : t.slots id = s.slots id := by
    obtain ⟨cache, calls, rfl, -, -⟩ := h
    rfl
  unfold hostSlot
  rw [hslots]
  cases (s.slots id).state key with
  | none => exact hunset
  | some slot => cases slot <;> exact ⟨rfl, h⟩

/-- Own properties are found alike. -/
theorem ownProperty_beside (htwin : E.Twin E') (hQ : AnswerAlike E.types Q) (h : Beside Q L s t)
    (id : ObjectId) (name : String) :
    (E.ownProperty s id name).1 = (E'.ownProperty t id name).1 ∧
      Beside Q L (E.ownProperty s id name).2 (E'.ownProperty t id name).2 := by
  have hsort : t.sort? id = s.sort? id := by
    obtain ⟨cache, calls, rfl, -, -⟩ := h
    rfl
  have htable : tableSlot t id name = tableSlot s id name := by
    obtain ⟨cache, calls, rfl, -, -⟩ := h
    rfl
  -- arrays and plain objects answer by what both stores have in common
  unfold ownProperty
  rw [hsort, htable]
  split
  · split
    · exact ⟨rfl, h⟩
    · split <;> exact ⟨rfl, h⟩
  · next target _ => exact hostSlot_beside h id _ (bindInstance_beside htwin hQ h id target name _)
  · next type _ => exact hostSlot_beside h id _ (bindStatic_beside htwin hQ h id type _)
  · exact ⟨rfl, h⟩

/-- No change of a store shows what its cache has kept, or what its log holds. -/
theorem admits_beside (htwin : E.Twin E') (hQ : AnswerAlike E.types Q)
    (hL : ∀ c c' entry, L c c' → L (c.push entry) (c'.push entry)) :
    E.Admits (Beside Q L) (fun _ => True) E' where
  toTwin := htwin
  forget := by
    rintro s _ ⟨cache, calls, rfl, -, -⟩
    rfl
  -- no elementary change reads the cache or the record
  create := by
    rintro s _ o ⟨cache, calls, rfl, hunseen⟩
    exact ⟨cache, calls, rfl, hunseen⟩
  setCell := by
    rintro s _ cell contents ⟨cache, calls, rfl, hunseen⟩
    exact ⟨cache, calls, rfl, hunseen⟩
  newInstance := by
    rintro s _ type storage ⟨cache, calls, rfl, hunseen⟩
    exact ⟨cache, calls, rfl, hunseen⟩
  modifyInstance := by
    rintro s _ id f ⟨cache, calls, rfl, hunseen⟩
    exact ⟨cache, calls, rfl, hunseen⟩
  writeStatic := by
    rintro s _ key v ⟨cache, calls, rfl, hunseen⟩
    exact ⟨cache, calls, rfl, hunseen⟩
  record := fun s t label this args h => h.record hL E.types label this args
  own := fun s t id name h => ownProperty_beside htwin hQ h id name
  slots := by
    rintro s _ id f - ⟨cache, calls, rfl, hunseen⟩
    exact ⟨cache, calls, rfl, hunseen⟩
  elements := by
    rintro s _ id elements - ⟨cache, calls, rfl, hunseen⟩
    exact ⟨cache, calls, rfl, hunseen⟩

/-- Entries in front of the log change nothing that a program sees. -/
theorem admits_entries (E : Engine) (entries : Array CallRecord) :
    E.Admits (fun s t => t = { s with calls := entries ++ s.calls }) (fun _ => True) E := by
  have hadmits : E.Admits (Beside (· = ·) fun c c' => c' = entries ++ c) (fun _ => True) E := by
    refine admits_beside (.refl E) ?_ ?_
    · rintro c _ type key scope rfl
      exact ⟨rfl, rfl⟩
    · rintro c _ entry rfl
      exact Array.push_append
  -- equal caches and a longer record are a case of what is beside
  have heq : Beside (· = ·) (fun c c' => c' = entries ++ c) =
      fun s t => t = { s with calls := entries ++ s.calls } := by
    funext s t
    apply propext
    constructor
    · rintro ⟨cache, calls, rfl, rfl, rfl⟩
      rfl
    · rintro rfl
      exact ⟨s.cache, _, rfl, rfl, rfl⟩
  rw [← heq]
  exact hadmits

/-- What can be said of one object and of what is noted in front of the log: the changes of other
objects do not break it. -/
theorem admits_noted {α : Type} {entries : α → Array CallRecord} {P : Store → α → Prop}
    {index : Nat}
    (hobject : ∀ {s a}, P s a → (s.object? (.created index)).isSome)
    (helsewhere : ∀ {s t a}, P s a → t.object? (.created index) = s.object? (.created index) →
      t.cache = s.cache → P t a)
    (hown : ∀ {s a}, P s a → ∀ id name, P (E.ownProperty s id name).2 a) :
    E.Admits (fun s t => ∃ a, t = { s with calls := entries a ++ s.calls } ∧ P s a)
      (· ≠ .created index) E where
  toTwin := .refl E
  forget := by
    rintro s _ ⟨a, rfl, -⟩
    rfl
  -- a new object stands beside the one that is watched, which exists already
  create := by
    rintro s _ o ⟨a, rfl, h⟩
    obtain ⟨q, hq⟩ := Option.isSome_iff_exists.1 (hobject h)
    refine ⟨a, (admits_entries E (entries a)).create s _ o rfl, helsewhere h ?_ rfl⟩
    rw [hq]
    exact s.heap.object?_create_of_some o hq
  setCell := by
    rintro s _ cell contents ⟨a, rfl, h⟩
    exact ⟨a, rfl, helsewhere h rfl rfl⟩
  newInstance := by
    rintro s _ type storage ⟨a, rfl, h⟩
    exact ⟨a, rfl, helsewhere h rfl rfl⟩
  modifyInstance := by
    rintro s _ i f ⟨a, rfl, h⟩
    exact ⟨a, rfl, helsewhere h rfl rfl⟩
  writeStatic := by
    rintro s _ key v ⟨a, rfl, h⟩
    exact ⟨a, rfl, helsewhere h rfl rfl⟩
  record := by
    rintro s _ label this args ⟨a, rfl, h⟩
    exact ⟨a, (admits_entries E (entries a)).record s _ label this args rfl, helsewhere h rfl rfl⟩
  -- looking a property up may bind members of the watched object itself
  own := by
    rintro s _ id name ⟨a, rfl, h⟩
    obtain ⟨heq, hstore⟩ := (admits_entries E (entries a)).own s _ id name rfl
    exact ⟨heq, a, hstore, hown h id name⟩
  slots := by
    rintro s _ id f hne ⟨a, rfl, h⟩
    exact ⟨a, rfl, helsewhere h (s.object?_modifySlots_of_ne f (Ne.symm hne)) rfl⟩
  elements := by
    rintro s _ id elements hne ⟨a, rfl, h⟩
    exact ⟨a, rfl, helsewhere h (s.heap.object?_modify_of_ne _ (Ne.symm hne)) rfl⟩

end Engine

end Membrane
