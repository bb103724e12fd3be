import Membrane.Proofs.Accesses
import Membrane.Realm.Hooks

/-!
# What a definition shows

A definition puts its descriptor into the slot of exactly the given name, on every sort of object. A
request looks elsewhere for some names: arrays make the descriptors of their length and elements, and
wrappers keep every name in the slot of its normalized form. A definition under such a name succeeds
as every other and shows nowhere (`Realm.define_shows_on_slot_names`).
-/

namespace Membrane

/-- A request for the name looks into the slot of exactly this name. Type references are left out:
they take no definitions. -/
def Store.isSlotName (s : Store) (id : ObjectId) (name : String) : Bool :=
  match s.sort? id with
  | some (.array _) => name != "length" && !Name.isIndex name
  | some (.wrapper _) => Name.normalize name == name
  | _ => true

namespace Engine

open Store

variable {E : Engine} {s t : Store} {id : ObjectId} {name key : String} {d : Descriptor}

/-- What a name of a wrapper is bound to depends on no slot. -/
private theorem bindInstance_fst (hcache : t.cache = s.cache)
    (hsize : t.heap.created.size = s.heap.created.size) (target : HostRef) :
    (E.bindInstance t id target name key).1 = (E.bindInstance s id target name key).1 := by
  unfold bindInstance resolve
  rw [hcache]
  generalize s.cache.resolve E.types target.type key .onInstance = r
  obtain ⟨member, cache⟩ := r
  cases member with
  | methodGroup group =>
    cases id with
    | created index => rfl
    | bound owner slot =>
      -- the function for the methods takes the next free identity
      simp [Engine.bind, bindMethods, Store.create, Heap.create, hsize]
  | _ => rfl

/-- A change of slots leaves as many objects as there were. -/
theorem size_modifySlots (s : Store) (id : ObjectId)
    (f : SlotTable Descriptor → SlotTable Descriptor) :
    (s.modifySlots id f).heap.created.size = s.heap.created.size :=
  s.heap.size_modify id _

/-- What has been put into the slot of a name is found there. -/
private theorem tableSlot_setLive (hthere : (s.object? id).isSome) :
    tableSlot (s.modifySlots id (·.setLive name d)) id name = some ⟨d, some (id, name)⟩ := by
  simp [tableSlot, SlotTable.get?, state_setLive_self hthere d, Slot.live?]

/-- A request looks into the slot of exactly the name, or finds what it found before a
definition. -/
theorem ownProperty_setLive (E : Engine) (hthere : (s.object? id).isSome)
    (htype : s.referencedType? id = none) (name : String) (d : Descriptor) :
    let t := s.modifySlots id (·.setLive name d)
    if s.isSlotName id name then E.ownProperty t id name = (some ⟨d, some (id, name)⟩, t)
    else (E.ownProperty t id name).1 = (E.ownProperty s id name).1 := by
  intro t
  have hsort : t.sort? id = s.sort? id := s.sort?_modifySlots id id _
  have hslot : tableSlot t id name = some ⟨d, some (id, name)⟩ := tableSlot_setLive hthere
  unfold isSlotName ownProperty
  rw [hsort]
  -- plain objects look into the slot of the name as it is spelled, arrays and wrappers need not
  cases hs : s.sort? id with
  | none => simp [hslot]
  | some sort =>
    cases sort with
    | plain => simp [hslot]
    | function => simp [hslot]
    | methods => simp [hslot]
    | typeReference type => simp [referencedType?, hs] at htype
    | array elements =>
      by_cases hlength : name = "length"
      · simp [hlength]
      · cases hindex : Name.index? name with
        | none => simp [hlength, hindex, Name.isIndex, hslot]
        | some i => simp [hlength, hindex, Name.isIndex]
    | wrapper target =>
      by_cases hkey : Name.normalize name = name
      · have hstate : (t.slots id).state name = some (.live d) := state_setLive_self hthere d
        simp [hkey, hostSlot, hstate]
      · -- the slot that the request looks into is another one
        have hstate : (t.slots id).state (Name.normalize name) =
            (s.slots id).state (Name.normalize name) := by
          rw [slots_modifySlots_self s _ hthere, SlotTable.state_setLive_of_ne _ d hkey]
        simp only [beq_iff_eq, hkey, if_false, hostSlot, hstate]
        cases (s.slots id).state (Name.normalize name) with
        | some slot => cases slot <;> rfl
        | none =>
          have hcache : t.cache = s.cache := rfl
          exact bindInstance_fst hcache (size_modifySlots s id _) target

end Engine

namespace Realm

open Action

variable {R : Realm} {s : Store} {id : ObjectId} {name : String}

/-- An own property that is found without a change of the store, and is not absent, is what a read
of the object reads. -/
theorem get_of_own {h : Handle} (hown : R.toEngine.ownProperty s id name = (some h, s))
    (habsent : h.descriptor.isAbsent = false) : R.get id name s = R.read h.descriptor s := by
  have hpresent : (R.present id name : Action BridgeError (Option Handle)) s = (.ok (some h), s) := by
    simp only [present, own, bind_apply, Action.state, hown, pure_apply]
    simp [habsent]
  show R.getFrom name (id :: (s.heap.chain id).tail) s = _
  simp only [getFrom, bind_apply, hpresent]

/-- A definition of anything but an absent property succeeds on every object that is no type
reference. It shows at once, in the own property and in reads, exactly under the names that are slot
names; under the others the own property is what it was. -/
theorem define_shows_on_slot_names (R : Realm) {d : Descriptor} (hthere : (s.object? id).isSome)
    (htype : s.referencedType? id = none) (habsent : d.isAbsent = false) (name : String) :
    ∃ t, R.define id name d s = (.ok true, t) ∧
      if s.isSlotName id name then
        R.toEngine.ownProperty t id name = (some ⟨d, some (id, name)⟩, t) ∧
          R.get id name t = R.read d t
      else (R.toEngine.ownProperty t id name).1 = (R.toEngine.ownProperty s id name).1 := by
  have hdefine : R.define id name d s = (.ok true, s.modifySlots id (·.setLive name d)) := by
    -- only a type reference refuses a definition
    unfold Store.referencedType? at htype
    simp only [define, bind_apply, getStore]
    cases hsort : s.sort? id with
    | none => rfl
    | some sort =>
      cases sort with
      | typeReference type => simp [hsort] at htype
      | _ => rfl
  refine ⟨_, hdefine, ?_⟩
  have hown := R.toEngine.ownProperty_setLive hthere htype name d
  split
  · next hname =>
    rw [if_pos hname] at hown
    exact ⟨hown, get_of_own hown habsent⟩
  · next hname =>
    rw [if_neg hname] at hown
    exact hown

/-- A name of a wrapper that is normalized. -/
theorem define_shows_under_normalized_name :
    let R : Realm := Engine.realm ⟨.empty, .default, .byCost⟩ 0
    let s := ((Store.initial.newInstance .object (.empty "cell")).2.wrap R.types ⟨.object, 0⟩).2
    s.isSlotName (.created 3) "foo" ∧
      ∃ t, R.define (.created 3) "foo" (.plain .null) s = (.ok true, t) ∧
        R.get (.created 3) "foo" t = (.ok .null, t) := by
  intro R s
  have hname : s.isSlotName (.created 3) "foo" := by decide +kernel
  have hthere : (s.object? (.created 3)).isSome := rfl
  have habsent : (Descriptor.plain .null).isAbsent = false := rfl
  obtain ⟨t, hdefine, hshown⟩ := R.define_shows_on_slot_names hthere rfl habsent "foo"
  rw [if_pos hname] at hshown
  exact ⟨hname, t, hdefine, hshown.2⟩

/-- Under a name of a wrapper that is not normalized a definition succeeds and shows nowhere: there is
no such own property, and a read gives undefined. -/
theorem define_hidden_under_other_name :
    let R : Realm := Engine.realm ⟨.empty, .default, .byCost⟩ 0
    let s := ((Store.initial.newInstance .object (.empty "cell")).2.wrap R.types ⟨.object, 0⟩).2
    ∃ t, R.define (.created 3) "Foo" (.plain .null) s = (.ok true, t) ∧
      (R.toEngine.ownProperty t (.created 3) "Foo").1.isNone ∧
      (R.get (.created 3) "Foo" t).1 = .ok .undefined :=
  ⟨_, rfl, by decide +kernel, rfl⟩

end Realm

end Membrane
