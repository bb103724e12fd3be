import Membrane.Proofs.RefusedWrites

/-!
# Asking before writing

`Realm.canPut` looks at what stands under a name, as every write does first, whatever the sort of
the object. It says no exactly where a strict write is refused because the name is read-only
(`Realm.canPut_eq_false_iff`), and a write that is not strict is then ignored. Such a write leaves
what the question leaves: the store itself for plain objects, functions and arrays, and for wrappers
and type references a store in which the name may be bound in its slot. That shows in the list of
the object's own names (`Engine.ownNames_lookedUp`) and nowhere else.

## Key results

* `Engine.canPut_foretells_readOnly`: the answer of `canPut` against what both kinds of write do, and
  what an ignored write leaves.
-/

namespace Membrane

open Store Action

/-- A name that was never used goes to the end of the live names. -/
theorem SlotTable.liveNames_setLive_of_unused {α : Type} {t : SlotTable α} {name : String}
    (h : t.state name = none) (a : α) : (t.setLive name a).liveNames = t.liveNames ++ [name] := by
  have hnew : name ∉ t.names := by simp [mem_names_iff, h]
  have hothers : (t.names.filter fun other => ((t.setLive name a).get? other).isSome) =
      t.liveNames := by
    refine List.filter_congr fun other hother => ?_
    have hne : other ≠ name := fun heq => hnew (heq ▸ hother)
    rw [get?, get?, state_setLive_of_ne t a hne]
  rw [liveNames, names_setLive, if_neg hnew, List.filter_append, hothers]
  simp [get?, Slot.live?]

namespace Engine

variable {E : Engine} {s : Store} {id other : ObjectId} {name key : String}

/-! ### Looking up again -/

/-- A lookup that was done before is answered from the cache. -/
theorem resolve_resolve (E : Engine) (s : Store) (t : TypeId) (key : String) (scope : MemberScope) :
    E.resolve (E.resolve s t key scope).2 t key scope = E.resolve s t key scope := by
  unfold resolve ResolutionCache.resolve
  cases hfind : s.cache.find? ⟨t, scope, key⟩ with
  | some member => simp only [hfind]
  | none => simp [ResolutionCache.find?, ResolutionCache.insert]

/-- What a request has bound it finds again. -/
private theorem ownProperty_of_bind {u : Store} {d : Descriptor}
    (hhost : s.isHostObject id) (hu : u.object? id = s.object? id)
    (h : E.ownProperty s id name = bind u id (Name.normalize name) d) :
    E.ownProperty (E.lookedUp id name s) id name = E.ownProperty s id name := by
  have hsome : (u.object? id).isSome := hu ▸ isSome_of_isHostObject hhost
  have hlooked : E.lookedUp id name s =
      u.modifySlots id (·.setLive (Name.normalize name) d) := congrArg Prod.snd h
  have hsort : u.sort? id = s.sort? id := congrArg (Option.map _) hu
  have hhost' : (E.lookedUp id name s).isHostObject id := by
    rw [hlooked, isHostObject, sort?_modifySlots, hsort]
    exact hhost
  -- the first lookup leaves the descriptor in the slot, where the second one finds it
  have hslot : ((E.lookedUp id name s).slots id).state (Name.normalize name) = some (.live d) := by
    rw [hlooked, slots_modifySlots_self u _ hsome, SlotTable.state_setLive]
  rw [ownProperty_of_state hhost' hslot, h, hlooked]
  rfl

/-- An unused slot of a wrapper is bound to the member of the instance. -/
private theorem ownProperty_wrapper {target : HostRef} (hsort : s.sort? id = some (.wrapper target))
    (hunused : (s.slots id).state (Name.normalize name) = none) :
    E.ownProperty s id name = E.bindInstance s id target name (Name.normalize name) := by
  simp only [ownProperty, hsort, hostSlot, hunused]

/-- An unused slot of a type reference is bound to the member of the type. -/
private theorem ownProperty_typeReference {type : TypeId}
    (hsort : s.sort? id = some (.typeReference type))
    (hunused : (s.slots id).state (Name.normalize name) = none) :
    E.ownProperty s id name = E.bindStatic s id type (Name.normalize name) := by
  simp only [ownProperty, hsort, hostSlot, hunused]

/-- What a request binds for a method group stands apart from the object itself. -/
private theorem object?_bindMethods_self {index : Nat} {u : Store}
    (hhost : s.isHostObject (.created index))
    (hu : u.object? (.created index) = s.object? (.created index)) (group : MethodGroup)
    (target : Option HostRef) :
    (u.bindMethods (.created index) key group target).2.object? (.created index) =
      s.object? (.created index) :=
  (object?_bindMethods (hu ▸ isSome_of_isHostObject hhost) _ _ group target).trans hu

/-- A request that was made before finds the same, and changes nothing. -/
theorem ownProperty_lookedUp (hs : s.Grounded E.types) (id : ObjectId) (name : String) :
    E.ownProperty (E.lookedUp id name s) id name = E.ownProperty s id name := by
  by_cases hhost : s.isHostObject id
  swap
  · rw [lookedUp, (ownProperty_of_other E hhost name).1]
  obtain ⟨index, rfl⟩ := hs.ahead_refl.exists_created hhost
  -- a slot in use answers by itself; an unused one is bound or cached by the first lookup
  cases hslot : (s.slots (.created index)).state (Name.normalize name) with
  | some slot =>
    have hsame := ownProperty_of_state (E := E) hhost hslot
    rw [lookedUp, hsame]
    exact hsame
  | none =>
    obtain ⟨target, hsort⟩ | ⟨type, hsort⟩ := isHostObject_iff.1 hhost
    · have hown := ownProperty_wrapper (E := E) hsort hslot
      have hagain := E.resolve_resolve s target.type (Name.normalize name) .onInstance
      rcases hmember : E.resolve s target.type (Name.normalize name) .onInstance with ⟨member, u⟩
      have hu (id : ObjectId) : u.object? id = s.object? id :=
        congrArg (·.2.object? id) hmember.symm
      have hown' : E.ownProperty u (.created index) name =
          E.bindInstance u (.created index) target name (Name.normalize name) :=
        ownProperty_wrapper (by rwa [sort?, hu]) (by rwa [slots, hu])
      unfold bindInstance at hown hown'
      rw [hmember] at hagain hown
      rw [hagain] at hown'
      cases member with
      | field f => exact ownProperty_of_bind hhost (hu _) hown
      | property p => exact ownProperty_of_bind hhost (hu _) hown
      | methodGroup group =>
        exact ownProperty_of_bind hhost (object?_bindMethods_self hhost (hu _) group _) hown
      -- what is not bound is in the cache from then on
      | indexer i => rw [lookedUp, hown, hown']
      | constant n => rw [lookedUp, hown, hown']
      | undefined => rw [lookedUp, hown, hown']
    · have hown := ownProperty_typeReference (E := E) hsort hslot
      have hagain := E.resolve_resolve s type (Name.normalize name) .onType
      rcases hmember : E.resolve s type (Name.normalize name) .onType with ⟨member, u⟩
      have hu (id : ObjectId) : u.object? id = s.object? id :=
        congrArg (·.2.object? id) hmember.symm
      have hown' : E.ownProperty u (.created index) name =
          E.bindStatic u (.created index) type (Name.normalize name) :=
        ownProperty_typeReference (by rwa [sort?, hu]) (by rwa [slots, hu])
      unfold bindStatic at hown hown'
      rw [hmember] at hagain hown
      rw [hagain] at hown'
      cases member with
      | field f => exact ownProperty_of_bind hhost (hu _) hown
      | property p => exact ownProperty_of_bind hhost (hu _) hown
      | constant n => exact ownProperty_of_bind hhost (hu _) hown
      | methodGroup group =>
        exact ownProperty_of_bind hhost (object?_bindMethods_self hhost (hu _) group _) hown
      | indexer i => rw [lookedUp, hown, hown']
      | undefined => rw [lookedUp, hown, hown']

/-! ### What a lookup shows -/

/-- A lookup leaves the object as it is, or binds the name in a slot that was not in use. -/
private theorem lookedUp_cases (hs : s.Grounded E.types) (id : ObjectId) (name : String) :
    (∀ other, (E.lookedUp id name s).object? other = s.object? other) ∨
      ∃ index d f, ∃ cache : ResolutionCache, id = .created index ∧ s.isHostObject id ∧
        (s.slots id).state (Name.normalize name) = none ∧
        E.lookedUp id name s = ({ s with cache } : Store).advance index (Name.normalize name) d f := by
  by_cases hhost : s.isHostObject id
  swap
  · rw [lookedUp, (ownProperty_of_other E hhost name).1]
    exact .inl fun _ => rfl
  obtain ⟨index, rfl⟩ := hs.ahead_refl.exists_created hhost
  -- only an unused slot of a host object is changed by a lookup
  cases hslot : (s.slots (.created index)).state (Name.normalize name) with
  | some slot =>
    rw [lookedUp, ownProperty_of_state hhost hslot]
    exact .inl fun _ => rfl
  | none =>
    obtain ⟨sort, hsort⟩ : ∃ sort, s.sort? (.created index) = some sort := by
      obtain ⟨target, hsort⟩ | ⟨type, hsort⟩ := isHostObject_iff.1 hhost
      exacts [⟨_, hsort⟩, ⟨_, hsort⟩]
    obtain ⟨cache, -, hown⟩ := ownProperty_of_unset hs.cache hsort hhost hslot
    rw [lookedUp, hown]
    cases E.types.foresee index (Name.normalize name) sort with
    | none => exact .inl fun _ => rfl
    | some bound => exact .inr ⟨index, bound.1, bound.2, cache, rfl, hhost, rfl, rfl⟩

/-- A lookup leaves the other objects as they are. -/
theorem object?_lookedUp (hs : s.Grounded E.types) (hne : other ≠ id)
    (hother : (s.object? other).isSome) :
    (E.lookedUp id name s).object? other = s.object? other := by
  obtain hsame | ⟨index, d, f, cache, rfl, hhost, hunused, hlooked⟩ := lookedUp_cases hs id name
  · exact hsame other
  · rw [hlooked, object?_advance_of_ne hne]
    · rfl
    · -- a function for host methods is there only if its slot is in use
      rintro rfl
      obtain ⟨o, ho⟩ := Option.isSome_iff_exists.1 hother
      obtain ⟨-, -, hused⟩ := hs.born _ _ o ho
      rw [hunused] at hused
      cases hused

/-- Of the object's own names a lookup shows at most one more, the name itself at the end. -/
theorem ownNames_lookedUp (hs : s.Grounded E.types) (id : ObjectId) (name : String) :
    ownNames (E.lookedUp id name s) id = ownNames s id ∨
      ownNames (E.lookedUp id name s) id = ownNames s id ++ [Name.normalize name] := by
  obtain hsame | ⟨index, d, f, cache, rfl, hhost, hunused, hlooked⟩ := lookedUp_cases hs id name
  · refine .inl ?_
    simp only [ownNames, elements?, sort?, slots, hsame]
  · refine .inr ?_
    obtain ⟨o, ho, hsort⟩ := isHostObject_iff_isHost.1 hhost
    have hlooked' := object?_advance_self (s := { s with cache }) ho (Name.normalize name) d f
    rw [← hlooked] at hlooked'
    -- the slot was unused, so its name comes last
    have hunused' : o.slots.state (Name.normalize name) = none := by
      rwa [slots_of_object? ho] at hunused
    obtain ⟨target, hsort⟩ | ⟨type, hsort⟩ := hsort
    all_goals
      simp only [ownNames, elements?, sort?, slots, ho, hlooked', hsort, Option.map_some,
        Option.getD_some, SlotTable.liveNames_setLive_of_unused hunused']

end Engine

/-! ### Writes -/

namespace Realm

variable {R : Realm} {s : Store} {id : ObjectId} {name : String} {value : ScriptValue} {h : Handle}

/-- Whether a write is permitted is whether all that is known under the name is writable. -/
theorem canPut_apply (R : Realm) (s : Store) (id : ObjectId) (name : String) :
    (R.canPut id name : Action BridgeError Bool) s =
      (.ok ((R.toEngine.known s id name).all (·.descriptor.isWritable)),
        R.toEngine.lookedUp id name s) := by
  have hpresent : (R.present id name : Action BridgeError (Option Handle)) s =
      (.ok (R.toEngine.known s id name), R.toEngine.lookedUp id name s) := rfl
  rw [canPut, bind_apply, hpresent]
  cases R.toEngine.known s id name <;> rfl

/-- The length and the elements of an array refuse no write, its other properties are ordinary. -/
private theorem put_array {elements : Array ScriptValue}
    (hsort : s.sort? id = some (.array elements)) (name : String) (value : ScriptValue)
    (strict : Bool) :
    ((∀ e, (R.put id name value strict s).1 ≠ .error e) ∧
        (R.toEngine.known s id name).all (·.descriptor.isWritable)) ∨
      R.put id name value strict s = R.ordinaryPut id name value strict s := by
  have hput : R.put id name value strict s = R.arrayPut id elements name value strict s := by
    simp only [put, bind_apply, getStore, hsort]
  rw [hput]
  unfold arrayPut
  by_cases hlength : name == "length"
  · -- a value that is no length is passed over, and a length beyond all room is a panic
    refine .inl ⟨fun e => ?_, ?_⟩
    · rw [if_pos hlength]
      cases value.length? with
      | none => rintro ⟨⟩
      | some size =>
        unfold setLength
        dsimp only
        split <;> rintro ⟨⟩
    · simp only [Engine.known, Engine.ownProperty, hsort, hlength]
      rfl
  · rw [if_neg hlength]
    -- an element is always writable, and any other name goes the ordinary way
    cases hindex : Name.index? name with
    | some i =>
      refine .inl ⟨by rintro e ⟨⟩, ?_⟩
      simp only [Engine.known, Engine.ownProperty, hsort, hlength, hindex]
      cases elements[i]? <;> rfl
    | none => exact .inr rfl

/-- A write of any object is refused by nothing, or it goes by what is known under the name. -/
private theorem put_cases (R : Realm) (s : Store) (id : ObjectId) (name : String)
    (value : ScriptValue) (strict : Bool) :
    ((∀ e, (R.put id name value strict s).1 ≠ .error e) ∧
        (R.toEngine.known s id name).all (·.descriptor.isWritable)) ∨
      R.put id name value strict s = R.ordinaryPut id name value strict s ∨
      R.put id name value strict s =
        R.putFound id name value strict (R.toEngine.known s id name)
          (R.toEngine.lookedUp id name s) := by
  cases hsort : s.sort? id with
  | none => exact .inr (.inl (by simp only [put, bind_apply, getStore, hsort]))
  | some sort =>
    -- wrappers and type references are written to in the same way
    have hhost (h : s.isHostObject id) :
        ((∀ e, (R.put id name value strict s).1 ≠ .error e) ∧
            (R.toEngine.known s id name).all (·.descriptor.isWritable)) ∨
          R.put id name value strict s =
            R.putFound id name value strict (R.toEngine.known s id name)
              (R.toEngine.lookedUp id name s) := by
      rw [Tracked.put_of_host R h]
      by_cases hdeleted : (s.slots id).isDeleted (Name.normalize name)
      · rw [Engine.known_of_deleted h hdeleted, Tracked.hostPut_of_deleted R value strict hdeleted]
        exact .inl ⟨by rintro e ⟨⟩, rfl⟩
      · exact .inr (Tracked.hostPut_of_own R value strict hdeleted)
    cases sort with
    | array elements =>
      obtain htaken | hordinary := put_array (R := R) hsort name value strict
      · exact .inl htaken
      · exact .inr (.inl hordinary)
    | wrapper target =>
      obtain htaken | hfound := hhost (isHostObject_iff.2 (.inl ⟨target, hsort⟩))
      · exact .inl htaken
      · exact .inr (.inr hfound)
    | typeReference type =>
      obtain htaken | hfound := hhost (isHostObject_iff.2 (.inr ⟨type, hsort⟩))
      · exact .inl htaken
      · exact .inr (.inr hfound)
    | _ => exact .inr (.inl (by simp only [put, bind_apply, getStore, hsort]))

/-- An ordinary write goes through what is known, or to a new slot. -/
private theorem ordinaryPut_of_found (R : Realm) (value : ScriptValue) (strict : Bool)
    {found : Option Handle} (hknown : R.toEngine.known s id name = found) :
    R.ordinaryPut id name value strict s =
      (found.elim (setPlain id name value) (R.putThrough · name value strict))
        (R.toEngine.lookedUp id name s) := by
  have hpresent : (R.present id name : Action BridgeError (Option Handle)) s =
      (.ok (R.toEngine.known s id name), R.toEngine.lookedUp id name s) := rfl
  rw [ordinaryPut, bind_apply, hpresent, hknown]
  cases found <;> rfl

/-- A write through what is read-only is refused or passed over. -/
theorem putThrough_of_readOnly (hreadOnly : h.descriptor.isWritable = false) (strict : Bool) :
    R.putThrough h name value strict s =
      (if strict then .error (.invocation (.readOnly name)) else .ok (), s) := by
  unfold putThrough
  rw [hreadOnly]
  cases strict <;> rfl

/-- A write to something read-only does what the lookup does, and is refused or ignored. -/
theorem put_of_readOnly (hknown : R.toEngine.known s id name = some h)
    (hreadOnly : h.descriptor.isWritable = false) (value : ScriptValue) (strict : Bool) :
    R.put id name value strict s =
      (if strict then .error (.invocation (.readOnly name)) else .ok (),
        R.toEngine.lookedUp id name s) := by
  obtain ⟨-, hwritable⟩ | hordinary | hfound := put_cases R s id name value strict
  · -- what is taken without a question was writable
    rw [hknown, Option.all_some, hreadOnly] at hwritable
    cases hwritable
  · rw [hordinary, ordinaryPut_of_found R value strict hknown]
    exact putThrough_of_readOnly hreadOnly strict
  · rw [hfound, hknown]
    exact putThrough_of_readOnly hreadOnly strict

/-- Writing to something writable is refused by no slot: what the write runs fails as host code or
as a conversion. -/
private theorem putThrough_ne_readOnly (hwritable : h.descriptor.isWritable) (strict : Bool)
    (quoted : String) :
    (R.putThrough h name value strict s).1 ≠ .error (.invocation (.readOnly quoted)) := by
  intro herror
  have hrefusal : Unrefusing (R.putThrough h name value strict) := by
    unfold putThrough
    rw [if_pos hwritable]
    exact (R.unrefusing_writeThrough h value).bind fun _ => unrefusing_pure _
  cases hrefusal s _ herror

/-- A write to what is writable is not refused as read-only, whatever else happens to it. -/
theorem put_ne_readOnly
    (hwritable : (R.toEngine.known s id name).all (·.descriptor.isWritable)) (value : ScriptValue)
    (strict : Bool) (quoted : String) :
    (R.put id name value strict s).1 ≠ .error (.invocation (.readOnly quoted)) := by
  obtain ⟨htaken, -⟩ | hordinary | hfound := put_cases R s id name value strict
  · exact htaken _
  · rw [hordinary, ordinaryPut_of_found R value strict rfl]
    cases hknown : R.toEngine.known s id name with
    | none => exact fun h => nomatch h
    | some h =>
      rw [hknown] at hwritable
      exact putThrough_ne_readOnly hwritable strict quoted
  · rw [hfound]
    cases hknown : R.toEngine.known s id name with
    | none =>
      -- an unknown name of a host object is added, refused as unknown, or passed over
      unfold putFound
      cases strict with
      | true => exact fun h => nomatch h
      | false => cases R.options.expando <;> exact fun h => nomatch h
    | some h =>
      rw [hknown] at hwritable
      exact putThrough_ne_readOnly hwritable strict quoted

/-- The question is answered in the negative where a strict write is refused as read-only. -/
theorem canPut_eq_false_iff (R : Realm) (s : Store) (id : ObjectId) (name : String)
    (value : ScriptValue) :
    ((R.canPut id name : Action BridgeError Bool) s).1 = .ok false ↔
      ∃ quoted, (R.put id name value true s).1 = .error (.invocation (.readOnly quoted)) := by
  rw [canPut_apply]
  constructor
  · intro hfalse
    cases hknown : R.toEngine.known s id name with
    | none =>
      rw [hknown] at hfalse
      cases hfalse
    | some h =>
      rw [hknown] at hfalse
      exact ⟨name, congrArg Prod.fst (put_of_readOnly hknown (Outcome.ok.inj hfalse) value true)⟩
  · rintro ⟨quoted, hrefused⟩
    -- a write to what is writable fails otherwise, if at all
    cases hall : (R.toEngine.known s id name).all (·.descriptor.isWritable) with
    | true => exact absurd hrefused (put_ne_readOnly hall value true quoted)
    | false => rfl

end Realm

namespace Engine

/-- **`canPut` foretells which writes are refused as read-only.** For every object and name it says
no if and only if a strict write fails because the name is read-only, whatever the value. A write
that is not strict is then ignored. Both writes leave what the question leaves, so after it they
change nothing at all. Without it an ignored write of a plain object, a function or an array leaves
the store as it was; one of a wrapper or type reference leaves everything outside the heap and all
other objects as they were, the object's own names but for the name itself, and whatever operations
follow, each ends as it does without the write.

Neither the store nor the operations refer to functions for host methods that are still to be made;
no store that operations lead to does (`Realm.grounded_performAll`). -/
theorem canPut_foretells_readOnly (E : Engine) (depth : Nat) {s : Store} (hs : s.Grounded E.types)
    (id : ObjectId) (name : String) (value : ScriptValue) :
    let R := E.realm depth
    let asked := (R.canPut id name : Action BridgeError Bool) s
    let strict := R.put id name value true s
    let ignored := R.put id name value false s
    (asked.1 = .ok false ↔ ∃ quoted, strict.1 = .error (.invocation (.readOnly quoted))) ∧
      (asked.1 = .ok false →
        strict = (.error (.invocation (.readOnly name)), asked.2) ∧
        ignored = (.ok (), asked.2) ∧
        R.put id name value false asked.2 = (.ok (), asked.2) ∧
        (s.isHostObject id = false → ignored.2 = s) ∧
        (∃ heap cache, ignored.2 = { s with heap, cache }) ∧
        (∀ other, other ≠ id → (s.object? other).isSome →
          ignored.2.object? other = s.object? other) ∧
        (ownNames ignored.2 id = ownNames s id ∨
          ownNames ignored.2 id = ownNames s id ++ [Name.normalize name]) ∧
        ∀ depth operations, (E.realm depth).GroundedThrough operations s →
          let after := (E.realm depth).performAll operations ignored.2
          let plain := (E.realm depth).performAll operations s
          after.1 = plain.1 ∧ ∃ heap cache, after.2 = { plain.2 with heap, cache }) := by
  intro R asked strict ignored
  refine ⟨R.canPut_eq_false_iff s id name value, fun hfalse => ?_⟩
  have hasked : asked = (.ok ((E.known s id name).all (·.descriptor.isWritable)),
      E.lookedUp id name s) := R.canPut_apply s id name
  rw [hasked] at hfalse ⊢
  obtain ⟨h, hknown, hreadOnly⟩ : ∃ h, E.known s id name = some h ∧
      h.descriptor.isWritable = false := by
    cases hknown : E.known s id name with
    | none =>
      rw [hknown] at hfalse
      cases hfalse
    | some h =>
      rw [hknown] at hfalse
      exact ⟨h, rfl, Outcome.ok.inj hfalse⟩
  -- after the question a write looks the name up again, and finds the same without a change
  have hagain := ownProperty_lookedUp hs id name
  have hknown' : E.known (E.lookedUp id name s) id name = some h := by
    rw [known, hagain]
    exact hknown
  have hlooked : E.lookedUp id name (E.lookedUp id name s) = E.lookedUp id name s :=
    congrArg Prod.snd hagain
  have hignored : ignored = (.ok (), E.lookedUp id name s) :=
    Realm.put_of_readOnly (R := R) hknown hreadOnly value false
  have hstrict : strict = (.error (.invocation (.readOnly name)), E.lookedUp id name s) :=
    Realm.put_of_readOnly (R := R) hknown hreadOnly value true
  have hafter : R.put id name value false (E.lookedUp id name s) =
      (.ok (), E.lookedUp id name (E.lookedUp id name s)) :=
    Realm.put_of_readOnly (R := R) hknown' hreadOnly value false
  rw [hlooked] at hafter
  have hahead : s.Ahead E.types (E.lookedUp id name s) := lookup_ahead hs.ahead_refl id name
  rw [hignored]
  refine ⟨hstrict, rfl, hafter, fun hhost => ?_, ?_, fun other hne hother => ?_,
    ownNames_lookedUp hs id name, fun depth operations hoperations => ?_⟩
  · exact (ownProperty_of_other E (Bool.eq_false_iff.1 hhost) name).1
  · obtain ⟨heap, cache, hsame, -⟩ := hahead
    exact ⟨heap, cache, hsame⟩
  · exact object?_lookedUp hs hne hother
  · obtain ⟨hresults, heap, cache, hsame, -⟩ :=
      Realm.performAll_ahead (E.transparent_realm depth) hahead hoperations
    exact ⟨hresults.symm, heap, cache, hsame⟩

/-- Writing to the static method of a type is refused as the question says. -/
theorem static_method_refuses_write :
    let E : Engine := ⟨noted, .default, .byCost⟩
    let tally := ObjectId.created 4
    let s := (Store.initial.typeReference (.declared 0)).2
    s.Grounded E.types ∧
      ((E.realm 0).canPut tally "Next" s : Outcome BridgeError Bool × Store).1 = .ok false ∧
      ((E.realm 0).put tally "Next" .null true s).1 = .error (.invocation (.readOnly "Next")) := by
  intro E tally s
  -- a new type reference leaves the initial store grounded
  have hground : s.Grounded E.types := by
    have hinitial := Store.grounded_initial (groundedIn_noted .initial)
    exact (hinitial.ahead_refl.typeReference (.declared 0)).onward.ahead.grounded
  obtain ⟨-, hrefused⟩ := canPut_foretells_readOnly E 0 hground tally "Next" .null
  exact ⟨hground, rfl, congrArg Prod.fst (hrefused rfl).1⟩

/-- An ignored write binds the name that it was for. -/
theorem ignored_write_binds_name :
    let E : Engine := ⟨noted, .default, .byCost⟩
    let tally := ObjectId.created 4
    let s := (Store.initial.typeReference (.declared 0)).2
    let ignored := (E.realm 0).put tally "Next" .null false s
    ((E.realm 0).canPut tally "Next" s : Outcome BridgeError Bool × Store).1 = .ok false ∧
      ignored.1 = .ok () ∧ ownNames s tally = ["prototype"] ∧
      ownNames ignored.2 tally = ["prototype", "next"] :=
  ⟨rfl, rfl, rfl, rfl⟩

end Engine

end Membrane
