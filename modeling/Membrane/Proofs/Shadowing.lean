import Membrane.Proofs.ReadOnly

/-!
# What hides a host property

A host property takes a write if the value can be converted to its type. A value that cannot is kept
in the slot of the property, hides it from every read, and stays until the next write that the host
takes.

`Engine.overseeWithin` is the engine with everything noted, in the log that no program sees, that is
done with the property in one slot (`Use`): what hides it whenever an entry begins, and how the
writes to it end, those of host code that enters the engine again included. Apart from the notes it
does what the engine does (`Engine.overseeWithin_agree`). What hides the property is decided by the
writes that are noted (`Use.shadow`), and by nothing else (`Engine.shadow_follows_writes`).
-/

namespace Membrane

/-! ### Uses of a property -/

/-- What an entry into the engine makes of the property that is bound in a slot. -/
inductive Use where
  /-- The entry begins, and the value hides the property, or none does. -/
  | found (shadow : Option ScriptValue)
  /-- A write has succeeded whose value cannot be converted. -/
  | kept (value : ScriptValue)
  /-- A write has succeeded whose value was converted to this one. -/
  | handed (value : HostValue)
  /-- A write has failed whose value was converted to this one. -/
  | failed (value : HostValue)
  /-- The name was deleted or defined anew. -/
  | displaced

namespace Use

/-- The note of a use. -/
def note : Use → CallRecord
  | .found shadow => ⟨"found", none, shadow.toList.map fun value => .plain (.script value)⟩
  | .kept value => ⟨"kept", none, [.plain (.script value)]⟩
  | .handed value => ⟨"handed", none, [.plain value]⟩
  | .failed value => ⟨"failed", none, [.plain value]⟩
  | .displaced => ⟨"displaced", none, []⟩

/-- A use can be told from its note. -/
theorem note_injective {a b : Use} (h : a.note = b.note) : a = b := by
  cases a with
  | found shadow =>
    cases b with
    | found shadow' => cases shadow <;> cases shadow' <;> simp_all [note]
    | _ => simp [note] at h
  | _ => cases b <;> simp_all [note]

/-- What hides a property after a use of it: a write that succeeds decides, any other use leaves it
as it was. -/
def next (shadow : Option ScriptValue) : Use → Option ScriptValue
  | .kept value => some value
  | .handed _ => none
  | .found _ | .failed _ | .displaced => shadow

/-- What hides a property after the uses since it was bound: the value of the last write that
succeeded, if that is one that cannot be converted. -/
def shadow (uses : List Use) : Option ScriptValue := uses.foldl next none

/-- One more use has its effect on the value that hides the property. -/
theorem shadow_snoc (uses : List Use) (use : Use) :
    shadow (uses ++ [use]) = use.next (shadow uses) := by
  simp only [shadow, List.foldl_append, List.foldl_cons, List.foldl_nil]

/-- The use that a write has made of a property, once it is known what the value was converted to
and whether the write succeeded. -/
def ofWrite (value : ScriptValue) (converted : Option (Except ConversionError HostValue))
    (succeeded : Bool) : Option Use :=
  match converted, succeeded with
  | some (.error _), true => some (.kept value)
  | some (.ok v), true => some (.handed v)
  | some (.ok v), false => some (.failed v)
  -- nothing is known of a conversion whose steps ran out
  | some (.error _), false | none, _ => none

end Use

/-- The action has ended with a result. -/
def Outcome.isOk {ε α : Type} : Outcome ε α → Bool
  | .ok _ => true
  | _ => false

namespace Store

/-- The property in a slot of an object, and what hides it. -/
def boundProperty? (s : Store) (id : ObjectId) (key : String) :
    Option (Property × Option ScriptValue) :=
  match (s.slots id).state key with
  | some (.live (.property member _ shadow)) => some (member, shadow)
  | _ => none

/-- The store with uses noted in front of its log, the latest first. -/
def jotting (s : Store) (uses : List Use) : Store :=
  { s with calls := (uses.reverse.map Use.note).toArray ++ s.calls }

/-- The notes tell what was noted. -/
theorem jotting_injective {s : Store} {uses uses' : List Use}
    (h : (s.jotting uses).calls = (s.jotting uses').calls) : uses = uses' := by
  have hnotes : uses.map Use.note = uses'.map Use.note := by
    simpa [jotting] using congrArg Array.toList h
  exact (List.map_inj_right fun _ _ => Use.note_injective).1 hnotes

/-- Nothing jotted down leaves the store. -/
theorem jotting_nil (s : Store) : s.jotting [] = s := by
  simp [jotting]

/-- Uses jotted down one after the other are jotted down together. -/
theorem jotting_jotting (s : Store) (uses uses' : List Use) :
    (s.jotting uses).jotting uses' = s.jotting (uses ++ uses') := by
  have hcalls : ((s.jotting uses).jotting uses').calls = (s.jotting (uses ++ uses')).calls := by
    apply Array.toList_inj.1
    simp [jotting]
  exact congrArg (fun calls => { s with calls }) hcalls

/-- Conversions do not read the notes. -/
theorem convertTo?_jotting (types : Registry) (s : Store) (uses : List Use) (value : ScriptValue)
    (type : TypeId) :
    (s.jotting uses).convertTo? types value type = s.convertTo? types value type := by
  rw [← convertTo?_forget, ← convertTo?_forget types s]
  rfl

/-- Notes do not stand in the way of what is put back. -/
theorem putBack_jotting (s : Store) (uses : List Use) (id : ObjectId) (key : String)
    (d : Descriptor) : (s.jotting uses).putBack id key d = (s.putBack id key d).jotting uses :=
  s.putBack_entries _ id key d

end Store

/-- The use that an entry into the engine finds when it begins. -/
def Store.found? (s : Store) (id : ObjectId) (key : String) : Option Use :=
  (s.boundProperty? id key).map fun (_, shadow) => .found shadow

/-- The use that an entry into the engine, which began on the store `s`, has made of the property in
a slot when it ends. Type references refuse definitions. -/
def Hook.use? (types : Registry) (s : Store) (id : ObjectId) (key : String) (succeeded : Bool) :
    Hook → Option Use
  | .setMember base name value =>
      if base = id ∧ Name.normalize name = key then
        (s.boundProperty? id key).bind fun (member, _) =>
          Use.ofWrite value (s.convertTo? types value member.type) succeeded
      else none
  | .deleteMember base name =>
      if base = id ∧ Name.normalize name = key then some .displaced else none
  | .defineData base name _ _ =>
      if base = id ∧ name = key ∧ (s.hostTarget? id).isSome then some .displaced else none
  | _ => none

/-- An entry that does not change the object itself makes no further use of the property. -/
theorem Hook.use?_of_changed?_ne {types : Registry} {s : Store} {id : ObjectId} {key : String}
    {succeeded : Bool} {hook : Hook} (h : hook.changed? ≠ some id) :
    hook.use? types s id key succeeded = none := by
  cases hook <;> simp_all [changed?, use?]

/-- Which use was made does not depend on what was noted. -/
theorem Hook.use?_jotting (types : Registry) (s : Store) (uses : List Use) (id : ObjectId)
    (key : String) (succeeded : Bool) (hook : Hook) :
    hook.use? types (s.jotting uses) id key succeeded = hook.use? types s id key succeeded := by
  cases hook with
  | setMember base name value =>
    simp only [use?, Store.convertTo?_jotting]
    rfl
  | _ => rfl

/-- An entry into the engine that notes the uses of the property in one slot, those of further
entries included. -/
def Engine.overseeWithin (E : Engine) (id : ObjectId) (key : String) : Nat → (hook : Hook) →
    Action BridgeError hook.Answer
  | 0, _ => Action.exhausted
  | depth + 1, hook => fun s =>
      let (outcome, t) := Realm.perform ⟨E, overseeWithin E id key depth⟩ hook
        (s.jotting (s.found? id key).toList)
      (outcome, t.jotting (hook.use? E.types s id key outcome.isOk).toList)

/-! ### What the uses tell of the slot -/

/-- The slot of a host object that the property was bound in shows what the uses of it tell: as long
as it is not displaced, it is hidden as the writes decide, and so has every entry found it. -/
structure Store.Reflects (s : Store) (id : ObjectId) (key : String) (member : Property)
    (target : Option HostRef) (uses : List Use) : Prop where
  host : s.isHostObject id
  bound : .displaced ∉ uses →
    (s.slots id).state key = some (.live (.property member target (Use.shadow uses)))
  displaced : .displaced ∈ uses → ∃ held, (s.slots id).state key = some (Slot.holding held)
  found : ∀ before shadow after, uses = before ++ .found shadow :: after →
    .displaced ∉ before ∧ shadow = Use.shadow before

namespace Store.Reflects

variable {E : Engine} {s t : Store} {id : ObjectId} {index : Nat} {key : String} {member : Property}
  {target : Option HostRef} {uses : List Use}

/-- The property has just been bound. -/
theorem fresh (hhost : s.isHostObject id)
    (hslot : (s.slots id).state key = some (.live (.property member target none))) :
    s.Reflects id key member target [] where
  host := hhost
  bound _ := hslot
  displaced h := absurd h List.not_mem_nil
  found _ _ _ hsplit := absurd hsplit (by simp)

/-- Nothing happened to the slot. -/
theorem keep (h : s.Reflects id key member target uses) (hsort : t.sort? id = s.sort? id)
    (hslot : ∀ slot, (s.slots id).state key = some slot → (t.slots id).state key = some slot) :
    t.Reflects id key member target uses where
  host := isHostObject_of_sort?_eq h.host hsort
  bound hbound := hslot _ (h.bound hbound)
  displaced hdisplaced := by
    obtain ⟨held, hheld⟩ := h.displaced hdisplaced
    exact ⟨held, hslot _ hheld⟩
  found := h.found

/-- A store that keeps the slots in use reflects the same uses. -/
theorem keepUsed (h : s.Reflects id key member target uses) (hkeeps : KeepsUsed id s t) :
    t.Reflects id key member target uses :=
  h.keep hkeeps.1 (hkeeps.2 key)

/-- Asking for any property of any object leaves the uses reflected. -/
theorem ownProperty (h : s.Reflects (.created index) key member target uses) (other : ObjectId)
    (name : String) :
    (E.ownProperty s other name).2.Reflects (.created index) key member target uses := by
  have hasked := Engine.asked_ownProperty (E := E) (isSome_of_isHostObject h.host) other name
  by_cases hother : .created index = other
  · subst hother
    exact h.keepUsed (hasked.own rfl)
  · exact h.keepUsed (keepsUsed_of_object?_eq (hasked.other hother))

/-- Other slots can take any descriptor. -/
theorem setLive (h : s.Reflects id key member target uses) {other : String} (hne : key ≠ other)
    (d : Descriptor) : (s.modifySlots id (·.setLive other d)).Reflects id key member target uses :=
  h.keep (s.sort?_modifySlots _ _ _) fun _ hslot => state_setLive_of_ne hslot hne d

/-- What is put back elsewhere leaves the uses reflected. -/
theorem putBack (h : s.Reflects id key member target uses) {other : String} (hne : key ≠ other)
    (d : Descriptor) : (s.putBack id other d).Reflects id key member target uses :=
  h.keep (s.sort?_putBack id other d) fun _ hslot => state_putBack_of_ne hslot hne d

/-- A property that is displaced stays so, whatever value its slot is given. -/
theorem hold (h : s.Reflects id key member target uses) (hdisplaced : .displaced ∈ uses)
    (hsort : t.sort? id = s.sort? id) (held : Option (ScriptValue × Flags))
    (hslot : (t.slots id).state key = some (Slot.holding held)) :
    t.Reflects id key member target uses where
  host := isHostObject_of_sort?_eq h.host hsort
  bound hbound := absurd hdisplaced hbound
  displaced _ := ⟨held, hslot⟩
  found := h.found

/-- One more use. -/
theorem snoc (h : s.Reflects id key member target uses) (use : Use)
    (hsort : t.sort? id = s.sort? id)
    (hbound : .displaced ∉ uses ++ [use] →
      (t.slots id).state key = some (.live (.property member target (Use.shadow (uses ++ [use])))))
    (hdisplaced : .displaced ∈ uses ++ [use] →
      ∃ held, (t.slots id).state key = some (Slot.holding held))
    (hfound : ∀ shadow, use = .found shadow → .displaced ∉ uses ∧ shadow = Use.shadow uses) :
    t.Reflects id key member target (uses ++ [use]) where
  host := isHostObject_of_sort?_eq h.host hsort
  bound := hbound
  displaced := hdisplaced
  found before shadow after hsplit := by
    -- it was found now, or before
    obtain rfl | ⟨rest, last, rfl⟩ := List.eq_nil_or_concat after
    · obtain ⟨rfl, hlast⟩ := List.append_inj' hsplit rfl
      exact hfound shadow (List.cons.inj hlast).1
    · rw [List.concat_eq_append, ← List.cons_append, ← List.append_assoc] at hsplit
      obtain ⟨rfl, -⟩ := List.append_inj' hsplit rfl
      exact h.found before shadow rest rfl

/-- Until it is displaced, the property is bound with the value that hides it. -/
theorem boundProperty?_eq_some (h : s.Reflects id key member target uses)
    (hbound : .displaced ∉ uses) : s.boundProperty? id key = some (member, Use.shadow uses) := by
  unfold boundProperty?
  rw [h.bound hbound]

/-- A displaced property is no longer bound. -/
theorem boundProperty?_eq_none (h : s.Reflects id key member target uses)
    (hdisplaced : .displaced ∈ uses) : s.boundProperty? id key = none := by
  obtain ⟨held, hslot⟩ := h.displaced hdisplaced
  unfold boundProperty?
  rw [hslot]
  cases held <;> rfl

/-- An entry begins. -/
theorem begin (h : s.Reflects id key member target uses) :
    s.Reflects id key member target (uses ++ (s.found? id key).toList) := by
  -- once displaced, nothing is found and nothing is noted at the beginning of an entry
  by_cases hdisplaced : .displaced ∈ uses
  · rw [found?, h.boundProperty?_eq_none hdisplaced, Option.map_none, Option.toList_none,
      List.append_nil]
    exact h
  · rw [found?, h.boundProperty?_eq_some hdisplaced, Option.map_some, Option.toList_some]
    refine h.snoc _ rfl (fun _ => ?_) (fun hmem => ?_) ?_
    · rw [Use.shadow_snoc]
      exact h.bound hdisplaced
    · exact absurd hmem (by simp [hdisplaced])
    · rintro _ ⟨⟩
      exact ⟨hdisplaced, rfl⟩

/-- A property that is put back is there, unless it is displaced. -/
private theorem putBack_bound (h : s.Reflects id key member target uses)
    (hbound : .displaced ∉ uses) (shadow : Option ScriptValue) :
    ((s.putBack id key (.property member target shadow)).slots id).state key =
      some (.live (.property member target shadow)) := by
  rw [putBack_of_live (h.bound hbound) rfl]
  exact state_setLive_self (isSome_of_isHostObject h.host) _

/-- A value that cannot be converted stays in the slot. -/
theorem kept (h : s.Reflects id key member target uses) (hbound : .displaced ∉ uses)
    (value : ScriptValue) :
    (s.putBack id key (.property member target (some value))).Reflects id key member target
      (uses ++ [.kept value]) := by
  refine h.snoc _ (s.sort?_putBack _ _ _) (fun _ => ?_) (fun hmem => ?_) (fun _ h => nomatch h)
  · rw [Use.shadow_snoc]
    exact h.putBack_bound hbound _
  · exact absurd hmem (by simp [hbound])

/-- A write that the host took uncovers the property, if it is there still. -/
theorem handed (h : s.Reflects id key member target uses) (v : HostValue) :
    (s.putBack id key (.property member target none)).Reflects id key member target
      (uses ++ [.handed v]) := by
  refine h.snoc _ (s.sort?_putBack _ _ _) (fun hmem => ?_) (fun hmem => ?_) (fun _ h => nomatch h)
  · rw [Use.shadow_snoc]
    exact h.putBack_bound (fun hmem' => hmem (List.mem_append_left _ hmem')) _
  · have hdisplaced : .displaced ∈ uses := by simpa using hmem
    obtain ⟨held, hslot⟩ := h.displaced hdisplaced
    rw [putBack_of_holding hslot (by simp)]
    exact ⟨held, hslot⟩

/-- A write that the host refused leaves what hides the property. -/
theorem failed (h : s.Reflects id key member target uses) (v : HostValue) :
    s.Reflects id key member target (uses ++ [.failed v]) := by
  refine h.snoc _ rfl (fun hmem => ?_) (fun hmem => ?_) (fun _ h => nomatch h)
  · rw [Use.shadow_snoc]
    exact h.bound fun hmem' => hmem (List.mem_append_left _ hmem')
  · exact h.displaced (by simpa using hmem)

/-- The name is deleted or defined anew. -/
theorem displace (h : s.Reflects id key member target uses) (hsort : t.sort? id = s.sort? id)
    (held : Option (ScriptValue × Flags))
    (hslot : (t.slots id).state key = some (Slot.holding held)) :
    t.Reflects id key member target (uses ++ [.displaced]) :=
  h.snoc _ hsort (fun hmem => absurd (by simp) hmem) (fun _ => ⟨held, hslot⟩) (fun _ h => nomatch h)

end Store.Reflects

/-! ### Reads and writes of the property -/

namespace Realm

open Store Action

variable {s : Store} {id : ObjectId} {key name : String} {member : Property}
  {target : Option HostRef} {shadow : Option ScriptValue}

/-- A conversion whose failure is captured changes nothing and either gives its result or does not
end. -/
private theorem capture_convertTo {ε : Type} (R : Realm) (value : ScriptValue) (type : TypeId) :
    ((R.convertTo value type).capture : Action ε _) s =
      match s.convertTo? R.types value type with
      | some converted => (.ok converted, s)
      | none => (.exhausted, s) := by
  simp only [convertTo, capture_apply, bind_apply, getStore]
  cases s.convertTo? R.types value type with
  | none => rfl
  | some converted => cases converted <;> rfl

/-- A read gives what hides the property, and asks the host only if nothing does. -/
theorem read_property (R : Realm) (member : Property) (target : Option HostRef)
    (shadow : Option ScriptValue) (s : Store) :
    R.read (.property member target shadow) s =
      match shadow, member.get with
      | some value, _ => (.ok value, s)
      | none, none => (.ok .undefined, s)
      | none, some get =>
          match R.run (get target) s with
          | (.ok v, t) => R.fromHost v t
          | (.error cause, t) => (.error (.host cause), t)
          | (.panicked payload, t) => (.error (.host (.panicked payload.message)), t)
          | (.exhausted, t) => (.exhausted, t) := by
  -- the value in front hides the getter
  cases shadow with
  | some value => rfl
  | none =>
    cases hget : member.get with
    | none => simp only [read, readProperty, hget]; rfl
    | some get =>
      simp only [read, readProperty, hget, bind_apply, guarded, mapError, contained]
      -- whatever the getter does, its end is passed on with the panic contained
      generalize R.run (get target) s = r
      obtain ⟨o, t⟩ := r
      cases o <;> rfl

/-- A write keeps a value that cannot be converted, and hands any other to the host; if the host
takes it, nothing hides the property any more. -/
theorem write_property (R : Realm) {member : Property} {set : Setter} (hset : member.set = some set)
    (target : Option HostRef) (shadow : Option ScriptValue) (value : ScriptValue) (s : Store) :
    R.write (.property member target shadow) value s =
      match s.convertTo? R.types value member.type with
      | some (.error _) => (.ok (.property member target (some value)), s)
      | some (.ok v) =>
          match R.run (set target v) s with
          | (.ok (), t) => (.ok (.property member target none), t)
          | (.error cause, t) => (.error (.host cause), t)
          | (.panicked payload, t) => (.error (.host (.panicked payload.message)), t)
          | (.exhausted, t) => (.exhausted, t)
      | none => (.exhausted, s) := by
  simp only [write, writeProperty, hset, bind_apply, capture_convertTo]
  cases s.convertTo? R.types value member.type with
  | none => rfl
  | some converted =>
    -- a value that cannot be converted is kept in front and never reaches the setter
    cases converted with
    | error cause => rfl
    | ok v =>
      simp only [bind_apply, guarded, mapError, contained]
      generalize R.run (set target v) s = r
      obtain ⟨o, t⟩ := r
      cases o <;> rfl

/-- The use that a write of a value makes of a property on a store. -/
def useOfWrite (R : Realm) (member : Property) (target : Option HostRef) :
    ScriptValue × Store → Option Use
  | (value, s) => Use.ofWrite value (s.convertTo? R.types value member.type)
      (R.write (.property member target none) value s).1.isOk

/-- What a descriptor is after a write to it on a store. A write that fails leaves it as it was. -/
def written (R : Realm) (d : Descriptor) : ScriptValue × Store → Descriptor
  | (value, s) => match (R.write d value s).1 with
    | .ok d' => d'
    | _ => d

/-- A write makes one use of the property at most. -/
private theorem written_property (R : Realm) {member : Property} {set : Setter}
    (hset : member.set = some set) (target : Option HostRef) (shadow : Option ScriptValue)
    (write : ScriptValue × Store) :
    R.written (.property member target shadow) write =
      .property member target ((R.useOfWrite member target write).elim shadow (·.next shadow)) := by
  obtain ⟨value, s⟩ := write
  simp only [written, useOfWrite, R.write_property hset]
  cases s.convertTo? R.types value member.type with
  | none => rfl
  | some converted =>
    -- a write counts by its conversion and, if there is a value, by how the setter ended
    cases converted with
    | error cause => rfl
    | ok v =>
      dsimp only
      generalize R.run (set target v) s = r
      obtain ⟨o, t⟩ := r
      cases o <;> rfl

/-- The writes that succeed decide what hides a property that stands in no slot. -/
theorem foldl_written_property (R : Realm) {member : Property} {set : Setter}
    (hset : member.set = some set) (target : Option HostRef) (writes : List (ScriptValue × Store)) :
    writes.foldl R.written (.property member target none) =
      .property member target (Use.shadow (writes.filterMap (R.useOfWrite member target))) := by
  -- the induction needs the fold from any value that hides the property
  suffices h : ∀ shadow, writes.foldl R.written (.property member target shadow) =
      .property member target
        ((writes.filterMap (R.useOfWrite member target)).foldl Use.next shadow) from h none
  induction writes with
  | nil => exact fun _ => rfl
  | cons write rest ih =>
    intro shadow
    rw [List.foldl_cons, R.written_property hset, ih, List.filterMap_cons]
    cases R.useOfWrite member target write <;> rfl

/-- A read of the name reads the property, also when it is found as a prototype's. -/
theorem getFrom_of_property (R : Realm) (hhost : s.isHostObject id)
    (hslot : (s.slots id).state (Name.normalize name) =
      some (.live (.property member target shadow)))
    (rest : List ObjectId) :
    R.getFrom name (id :: rest) s = R.read (.property member target shadow) s := by
  have hpresent : (R.present id name : Action BridgeError (Option Handle)) s =
      (.ok (some ⟨.property member target shadow, some (id, Name.normalize name)⟩), s) := by
    simp only [Realm.present, Realm.own, bind_apply, Action.state,
      Engine.ownProperty_of_state hhost hslot]
    rfl
  simp only [Realm.getFrom, bind_apply, hpresent]

/-- A write to the name writes to the property, and puts it back into its slot. -/
theorem put_of_property (R : Realm) (hhost : s.isHostObject id)
    (hslot : (s.slots id).state (Name.normalize name) =
      some (.live (.property member target shadow)))
    (hwritable : member.isWritable) (value : ScriptValue) (strict : Bool) :
    R.put id name value strict s =
      (do
        let d ← R.write (.property member target shadow) value
        Action.modify (·.putBack id (Name.normalize name) d)) s := by
  have hlive : ¬ (s.slots id).isDeleted (Name.normalize name) := by
    rw [SlotTable.isDeleted_of_state hslot]
    exact Bool.false_ne_true
  have hwritable : (Descriptor.property member target shadow).isWritable = true := hwritable
  rw [Tracked.put_of_host R hhost, Tracked.hostPut_of_own R value strict hlive,
    Engine.ownProperty_of_state hhost hslot]
  simp only [Slot.handle, Option.filter_some, Descriptor.isAbsent, Bool.not_false, if_true,
    putFound, putThrough, hwritable, writeThrough, bind_apply]
  -- the write decides how the assignment ends
  generalize R.write (.property member target shadow) value s = r
  obtain ⟨o, t⟩ := r
  cases o <;> rfl

end Realm

/-! ### Runs that are overseen -/

/-- The second store is the first one with uses noted, which the slot of the property reflects. -/
def Overseen (id : ObjectId) (key : String) (member : Property) (target : Option HostRef)
    (s t : Store) : Prop :=
  ∃ uses, t = s.jotting uses ∧ s.Reflects id key member target uses

/-- Two runs end alike, and the slot of the property reflects the uses that the second one has
noted, with one more. -/
def EndsOverseen {ε α : Type} (id : ObjectId) (key : String) (member : Property)
    (target : Option HostRef) (used : Option Use) (r r' : Outcome ε α × Store) : Prop :=
  r.1 = r'.1 ∧ ∃ uses, r'.2 = r.2.jotting uses ∧
    r.2.Reflects id key member target (uses ++ used.toList)

namespace Overseen

open Store Action

variable {R R' : Realm} {s : Store} {id : ObjectId} {index : Nat} {key name : String}
  {member : Property} {target : Option HostRef} {uses : List Use}

/-- Changes of other objects are no uses of the property. -/
theorem admits (E : Engine) :
    E.Admits (Overseen (.created index) key member target) (· ≠ .created index) E :=
  Engine.admits_noted (fun h => isSome_of_isHostObject h.host)
    (fun h hsame _ => h.keepUsed (keepsUsed_of_object?_eq hsame)) fun h => h.ownProperty

/-- There is no further use. -/
private theorem ends_unused {ε α : Type} {r r' : Outcome ε α × Store} (hsame : r.1 = r'.1)
    (h : Overseen id key member target r.2 r'.2) : EndsOverseen id key member target none r r' := by
  obtain ⟨uses, hstore, hs⟩ := h
  exact ⟨hsame, uses, hstore, by simpa using hs⟩

/-- What keeps the relation makes no further use. -/
private theorem ends_of_agree {ε α : Type} {act act' : Action ε α}
    (h : Agree (Overseen id key member target) act act')
    (hs : s.Reflects id key member target uses) :
    EndsOverseen id key member target none (act s) (act' (s.jotting uses)) :=
  have hends := h s _ ⟨uses, rfl, hs⟩
  ends_unused hends.1 hends.2

/-- A write to the property: whether the value can be converted, and whether the host takes it,
decides what the slot holds then. -/
private theorem put_bound (hR : R'.toEngine = R.toEngine)
    (h : R.Alike (Overseen id (Name.normalize name) member target) R')
    (hs : s.Reflects id (Name.normalize name) member target uses) (hbound : .displaced ∉ uses)
    {set : Setter} (hset : member.set = some set) (value : ScriptValue) (strict : Bool) :
    EndsOverseen id (Name.normalize name) member target
      (Use.ofWrite value (s.convertTo? R.types value member.type)
        (R.put id name value strict s).1.isOk)
      (R.put id name value strict s) (R'.put id name value strict (s.jotting uses)) := by
  have hslot := hs.bound hbound
  have hwritable : member.isWritable := by
    rw [Property.isWritable, hset]
    rfl
  rw [Realm.put_of_property R hs.host hslot hwritable,
    Realm.put_of_property R' (s := s.jotting uses) hs.host hslot hwritable]
  simp only [bind_apply, Realm.write_property _ hset, convertTo?_jotting, hR]
  -- the conversion decides whether the value is kept in front or handed to the setter
  cases s.convertTo? R.types value member.type with
  | none => exact ends_unused rfl ⟨uses, rfl, hs⟩
  | some converted =>
    cases converted with
    | error cause => exact ⟨rfl, uses, putBack_jotting s uses id _ _, hs.kept hbound value⟩
    | ok v =>
      -- the setter may enter the engine itself, and its entries are overseen as well
      obtain ⟨o, u, u', hrun, hrun', uses', rfl, hafter⟩ :=
        (h.run_agree (set target v)).exists_outcome ⟨uses, rfl, hs⟩
      simp only [hrun, hrun']
      cases o with
      | ok _ => exact ⟨rfl, uses', putBack_jotting u uses' id _ _, hafter.handed v⟩
      | error e => exact ⟨rfl, uses', rfl, hafter.failed v⟩
      | panicked payload => exact ⟨rfl, uses', rfl, hafter.failed v⟩
      | exhausted => exact ⟨rfl, uses', rfl, hafter.failed v⟩

/-- A write to the name of a property that is displaced concerns the value in the slot alone. -/
private theorem put_displaced (R R' : Realm)
    (hs : s.Reflects id (Name.normalize name) member target uses) (hdisplaced : .displaced ∈ uses)
    (value : ScriptValue) (strict : Bool) :
    EndsOverseen id (Name.normalize name) member target none
      (R.put id name value strict s) (R'.put id name value strict (s.jotting uses)) := by
  obtain ⟨held, hslot⟩ := hs.displaced hdisplaced
  have hobject := isSome_of_isHostObject hs.host
  have hslots : (s.jotting uses).slots id = s.slots id := rfl
  have hset (v : ScriptValue) (flags : Flags) :
      (s.modifySlots id (·.setLive (Name.normalize name) (.data v flags))).Reflects id
        (Name.normalize name) member target uses :=
    hs.hold hdisplaced (s.sort?_modifySlots _ _ _) (some (v, flags)) (state_setLive_self hobject _)
  rw [Tracked.put_of_host R hs.host, Tracked.put_of_host R' (s := s.jotting uses) hs.host]
  -- the mark of the deletion, or the data that replaced the property
  cases held with
  | none =>
    have hdeleted : (s.slots id).isDeleted (Name.normalize name) :=
      SlotTable.isDeleted_of_state hslot
    rw [Tracked.hostPut_of_deleted R value strict hdeleted,
      Tracked.hostPut_of_deleted R' value strict (hslots ▸ hdeleted)]
    exact ends_unused rfl ⟨uses, rfl, hset value .all⟩
  | some held =>
    obtain ⟨v, flags⟩ := held
    have hlive : ¬ (s.slots id).isDeleted (Name.normalize name) := by
      rw [SlotTable.isDeleted_of_state hslot]
      exact Bool.false_ne_true
    have hput : s.putBack id (Name.normalize name) (.data value flags) =
        s.modifySlots id (·.setLive (Name.normalize name) (.data value flags)) :=
      putBack_of_live hslot rfl
    rw [Tracked.hostPut_of_own R value strict hlive,
      Tracked.hostPut_of_own R' value strict (hslots ▸ hlive),
      Engine.ownProperty_of_state hs.host hslot,
      Engine.ownProperty_of_state (s := s.jotting uses) hs.host hslot]
    simp only [Slot.holding, Slot.handle, Option.filter_some, Descriptor.isAbsent, Bool.not_false,
      if_true, Realm.putFound, Tracked.putThrough_data, putBack_jotting, hput]
    cases flags.writable with
    | true => exact ends_unused rfl ⟨uses, rfl, hset value flags⟩
    | false => cases strict <;> exact ends_unused rfl ⟨uses, rfl, hs⟩

/-- What is found under another name is written elsewhere. -/
private theorem putFound_elsewhere (hR : R'.toEngine = R.toEngine)
    (h : R.Alike (Overseen id key member target) R') (hname : key ≠ Name.normalize name)
    {found : Option Handle}
    (hhome : ∀ handle ∈ found, ∀ owner slot, handle.home = some (owner, slot) →
      owner = id ∧ slot = Name.normalize name)
    (value : ScriptValue) (strict : Bool) :
    Agree (Overseen id key member target) (R.putFound id name value strict found)
      (R'.putFound id name value strict found) := by
  -- whatever is written lands in another slot than that of the property
  cases found with
  | none =>
    simp only [Realm.putFound, hR]
    split
    · exact agree_throw _
    · split
      · refine agree_modify fun s t hst => ?_
        obtain ⟨uses, rfl, hs⟩ := hst
        exact ⟨uses, rfl, hs.setLive hname _⟩
      · exact agree_pure ()
  | some handle =>
    refine h.putThrough_agree (yields_any _) ?_ name strict
    rintro owner slot d hslot - s _ ⟨uses, rfl, hs⟩
    obtain ⟨rfl, rfl⟩ := hhome handle rfl owner slot hslot
    exact ⟨uses, putBack_jotting s uses _ _ d, hs.putBack hname d⟩

/-- A write to another name does nothing to the slot itself. -/
private theorem put_elsewhere (hR : R'.toEngine = R.toEngine)
    (h : R.Alike (Overseen (.created index) key member target) R')
    (hs : s.Reflects (.created index) key member target uses) (hname : key ≠ Name.normalize name)
    (value : ScriptValue) (strict : Bool) :
    EndsOverseen (.created index) key member target none
      (R.put (.created index) name value strict s)
      (R'.put (.created index) name value strict (s.jotting uses)) := by
  have hslots : (s.jotting uses).slots (.created index) = s.slots (.created index) := rfl
  rw [Tracked.put_of_host R hs.host, Tracked.put_of_host R' (s := s.jotting uses) hs.host]
  by_cases hdeleted : (s.slots (.created index)).isDeleted (Name.normalize name)
  · rw [Tracked.hostPut_of_deleted R value strict hdeleted,
      Tracked.hostPut_of_deleted R' value strict (hslots ▸ hdeleted)]
    exact ends_unused rfl ⟨uses, rfl, hs.setLive hname _⟩
  · rw [Tracked.hostPut_of_own R value strict hdeleted,
      Tracked.hostPut_of_own R' value strict (hslots ▸ hdeleted), hR]
    obtain ⟨hfound, uses', hstore, hafter⟩ :=
      (admits R.toEngine).own s _ (.created index) name ⟨uses, rfl, hs⟩
    rw [← hfound, hstore]
    refine ends_of_agree (putFound_elsewhere hR h hname ?_ value strict) hafter
    -- what is found under the name has its home in the slot of the name
    intro handle hhandle owner slot hslot
    have hown := (Option.filter_eq_some_iff.1 hhandle).1
    obtain hhome | ⟨hhome, -⟩ := Engine.home_of_host hs.host hown
    · rw [hhome] at hslot
      cases hslot
      exact ⟨rfl, rfl⟩
    · rw [hhome] at hslot
      cases hslot

/-- A write to the object, whatever its name denotes. -/
private theorem put_overseen (hR : R'.toEngine = R.toEngine)
    (h : R.Alike (Overseen (.created index) key member target) R') {set : Setter}
    (hset : member.set = some set) (hs : s.Reflects (.created index) key member target uses)
    (name : String) (value : ScriptValue) (strict : Bool) :
    EndsOverseen (.created index) key member target
      (Hook.use? R.types s (.created index) key (R.put (.created index) name value strict s).1.isOk
        (.setMember (.created index) name value))
      (R.put (.created index) name value strict s)
      (R'.put (.created index) name value strict (s.jotting uses)) := by
  -- a write under another name leaves the slot; under this one it depends on whether it is
  -- displaced
  by_cases hname : Name.normalize name = key
  · subst hname
    simp only [Hook.use?, and_self, if_true]
    by_cases hdisplaced : .displaced ∈ uses
    · rw [hs.boundProperty?_eq_none hdisplaced]
      exact put_displaced R R' hs hdisplaced value strict
    · rw [hs.boundProperty?_eq_some hdisplaced]
      exact put_bound hR h hs hdisplaced hset value strict
  · simp only [Hook.use?, hname, and_false, if_false]
    exact put_elsewhere hR h hs (Ne.symm hname) value strict

/-- A delete is overseen: it displaces the property if it has its name. -/
private theorem delete_overseen (R R' : Realm) (hs : s.Reflects id key member target uses)
    (name : String) (strict strict' : Bool) :
    EndsOverseen id key member target
      (Hook.use? R.types s id key (R.delete id name strict s).1.isOk (.deleteMember id name))
      (R.delete id name strict s) (R'.delete id name strict' (s.jotting uses)) := by
  rw [Tracked.delete_of_host R hs.host, Tracked.delete_of_host R' (s := s.jotting uses) hs.host]
  have hslots := slots_modifySlots_self s (·.markDeleted (Name.normalize name))
    (isSome_of_isHostObject hs.host)
  have hsort := s.sort?_modifySlots id id (·.markDeleted (Name.normalize name))
  -- the slot of the property is marked, or another one
  by_cases hname : Name.normalize name = key
  · subst hname
    simp only [Hook.use?, and_self, if_true]
    refine ⟨rfl, uses, rfl, hs.displace hsort none ?_⟩
    rw [hslots, SlotTable.state_markDeleted]
    rfl
  · simp only [Hook.use?, hname, and_false, if_false]
    refine ends_unused rfl ⟨uses, rfl, hs.keep hsort fun slot hslot => ?_⟩
    rw [hslots, SlotTable.state_markDeleted_of_ne _ (Ne.symm hname)]
    exact hslot

/-- A definition is overseen: it displaces the property if it is made under its name. -/
private theorem define_overseen (hR : R'.toEngine = R.toEngine)
    (hs : s.Reflects id key member target uses) (name : String) (value : ScriptValue)
    (flags : Flags) :
    EndsOverseen id key member target
      (Hook.use? R.types s id key (R.define id name (.data value flags) s).1.isOk
        (.defineData id name value flags))
      (R.define id name (.data value flags) s)
      (R'.define id name (.data value flags) (s.jotting uses)) := by
  -- a type reference refuses definitions; a wrapper takes them under the name as it is spelled
  by_cases hwrapper : (s.hostTarget? id).isSome
  · rw [Tracked.define_of_wrapper R hwrapper,
      Tracked.define_of_wrapper R' (s := s.jotting uses) hwrapper]
    have hsort := s.sort?_modifySlots id id (·.setLive name (.data value flags))
    by_cases hname : name = key
    · subst hname
      simp only [Hook.use?, hwrapper, and_self, if_true]
      exact ⟨rfl, uses, rfl, hs.displace hsort (some (value, flags))
        (state_setLive_self (isSome_of_isHostObject hs.host) _)⟩
    · simp only [Hook.use?, hname, false_and, and_false, if_false]
      exact ends_unused rfl ⟨uses, rfl, hs.setLive (Ne.symm hname) _⟩
  · obtain ⟨type, hsort, hdefine⟩ :=
      Tracked.define_of_reference R hs.host hwrapper name (.data value flags)
    obtain ⟨type', hsort', hdefine'⟩ :=
      Tracked.define_of_reference R' (s := s.jotting uses) hs.host hwrapper name (.data value flags)
    cases hsort.symm.trans hsort'
    rw [Hook.use?, if_neg fun h => hwrapper h.2.2, hdefine, hdefine', hR]
    exact ends_unused rfl ⟨uses, rfl, hs⟩

/-- An entry into the engine does to the slot what is noted for it, and whatever else is done with
the property on its behalf is noted as well. -/
private theorem perform_overseen (hR : R'.toEngine = R.toEngine)
    (h : R.Alike (Overseen (.created index) key member target) R') {set : Setter}
    (hset : member.set = some set) (hs : s.Reflects (.created index) key member target uses)
    (hook : Hook) :
    EndsOverseen (.created index) key member target
      (hook.use? R.types s (.created index) key (R.perform hook s).1.isOk)
      (R.perform hook s) (R'.perform hook (s.jotting uses)) := by
  have hadmits : R.toEngine.Admits (Overseen (.created index) key member target)
      (· ≠ .created index) R'.toEngine := by
    rw [hR]
    exact admits R.toEngine
  -- what changes the object is a write, a delete or a definition; all else leaves its slots
  by_cases hchanged : hook.changed? = some (.created index)
  · cases hook with
    | setMember id name value =>
      cases hchanged
      simp only [Realm.perform, h.strict]
      exact put_overseen hR h hset hs name value _
    | deleteMember id name =>
      cases hchanged
      exact delete_overseen R R' hs name _ _
    | defineData id name value flags =>
      cases hchanged
      exact define_overseen hR hs name value flags
    | _ => cases hchanged
  · rw [Hook.use?_of_changed?_ne hchanged]
    exact ends_of_agree (hadmits.perform_agree h fun id hid heq => hchanged (heq ▸ hid)) hs

end Overseen

namespace Engine

open Store Action

variable {E : Engine} {index : Nat} {key : String} {member : Property} {target : Option HostRef}

/-- The engine that is overseen does what the engine does, and the slot of the property reflects the
uses that it notes. -/
theorem overseeWithin_agree (E : Engine) {set : Setter} (hset : member.set = some set) (depth : Nat)
    (hook : Hook) :
    Agree (Overseen (.created index) key member target) (E.performWithin depth hook)
      (E.overseeWithin (.created index) key depth hook) := by
  -- the calls of a hook are entries one level deeper
  induction depth generalizing hook with
  | zero => exact fun _ _ hst => ⟨rfl, hst⟩
  | succ depth ih =>
    have halike : Realm.Alike (Overseen (.created index) key member target)
        ⟨E, E.performWithin depth⟩ ⟨E, E.overseeWithin (.created index) key depth⟩ :=
      { (Overseen.admits E).toInvariant with enter := ih }
    rintro s _ ⟨uses, rfl, hs⟩
    have hsame : Realm.toEngine ⟨E, E.overseeWithin (.created index) key depth⟩ =
        Realm.toEngine ⟨E, E.performWithin depth⟩ := rfl
    obtain ⟨houtcome, uses', hstore, hafter⟩ :=
      Overseen.perform_overseen hsame halike hset hs.begin hook
    have hbegin : (s.jotting uses).jotting (found? (s.jotting uses) (.created index) key).toList =
        s.jotting (uses ++ (s.found? (.created index) key).toList) := s.jotting_jotting uses _
    unfold overseeWithin performWithin
    simp only [hbegin, ← houtcome, hstore, Hook.use?_jotting, jotting_jotting, true_and]
    exact ⟨_, rfl, hafter⟩

/-- **The writes that succeed decide what a property reads as.** A read of a host property that is
bound to an instance, or to none, gives the value that hides it and runs nothing; if no value does,
it runs the getter. A write runs the setter with the converted value. If the value cannot be
converted it runs nothing, and the value hides the property from then on. When the setter fails or
panics, so does the write, and what hides the property stays as it is.

A binding in no slot is hidden by the value of the last write that succeeded, if that could not be
converted, and by nothing otherwise, whatever happens between the writes. So is one in a slot, until
its name is deleted or defined anew, whatever scripts and host code do, the property's own getter
and setter included. -/
theorem shadow_follows_writes (E : Engine) (depth : Nat) {member : Property} {set : Setter}
    (hset : member.set = some set) (target : Option HostRef) :
    (∀ (R : Realm) shadow s,
      (R.read (.property member target shadow) s =
        match shadow, member.get with
        | some value, _ => (.ok value, s)
        | none, none => (.ok .undefined, s)
        | none, some get =>
            match R.run (get target) s with
            | (.ok v, t) => R.fromHost v t
            | (.error cause, t) => (.error (.host cause), t)
            | (.panicked payload, t) => (.error (.host (.panicked payload.message)), t)
            | (.exhausted, t) => (.exhausted, t)) ∧
      ∀ value, R.write (.property member target shadow) value s =
        match s.convertTo? R.types value member.type with
        | some (.error _) => (.ok (.property member target (some value)), s)
        | some (.ok v) =>
            match R.run (set target v) s with
            | (.ok (), t) => (.ok (.property member target none), t)
            | (.error cause, t) => (.error (.host cause), t)
            | (.panicked payload, t) => (.error (.host (.panicked payload.message)), t)
            | (.exhausted, t) => (.exhausted, t)
        | none => (.exhausted, s)) ∧
    (∀ (R : Realm) (writes : List (ScriptValue × Store)),
      writes.foldl R.written (.property member target none) =
        .property member target (Use.shadow (writes.filterMap (R.useOfWrite member target)))) ∧
    ∀ index key s₀, s₀.isHostObject (.created index) →
      (s₀.slots (.created index)).state key = some (.live (.property member target none)) →
      let id := ObjectId.created index
      (∀ (R : Realm) s shadow, s.isHostObject id →
        (s.slots id).state key = some (.live (.property member target shadow)) →
        ∀ name, Name.normalize name = key →
          R.perform (.getMember (.object id) name) s = R.read (.property member target shadow) s ∧
          ∀ value, R.perform (.setMember id name value) s =
            (do
              let d ← R.write (.property member target shadow) value
              Action.modify (·.putBack id key d)) s) ∧
      ∀ hooks : List Hook,
        let s := enterAll (E.performWithin depth) hooks s₀
        ∃ uses, enterAll (E.overseeWithin id key depth) hooks s₀ = s.jotting uses ∧
          (∀ before shadow after, uses = before ++ .found shadow :: after →
            .displaced ∉ before ∧ shadow = Use.shadow before) ∧
          (.displaced ∉ uses → s.isHostObject id ∧
            (s.slots id).state key = some (.live (.property member target (Use.shadow uses)))) := by
  have hwritable : member.isWritable := by
    rw [Property.isWritable, hset]
    rfl
  refine ⟨fun R shadow s => ⟨?_, fun value => ?_⟩, fun R writes => ?_,
    fun index key s₀ hhost hfresh =>
      ⟨fun R s shadow hhost hslot name hname => ⟨?_, fun value => ?_⟩, fun hooks => ?_⟩⟩
  · exact R.read_property member target shadow s
  · exact R.write_property hset target shadow value s
  · exact R.foldl_written_property hset target writes
  · subst hname
    exact R.getFrom_of_property hhost hslot _
  · subst hname
    exact R.put_of_property hhost hslot hwritable value _
  · -- no use has been noted yet, and nothing hides the property
    have hstart : Overseen (.created index) key member target s₀ s₀ :=
      ⟨[], s₀.jotting_nil.symm, .fresh hhost hfresh⟩
    obtain ⟨uses, hnoted, hafter⟩ := enterAll_agree (E.overseeWithin_agree hset depth) hooks hstart
    exact ⟨uses, hnoted, hafter.found, fun hbound => ⟨hafter.host, hafter.bound hbound⟩⟩

/-- A static property that takes no value but `true`. -/
def gateProperty : Property :=
  Property.asStatic ⟨"Open", "open", .primitive .bool, false, some fun _ => .done (.bool true),
    some fun _ v => match v with
      | .bool true => .done ()
      | _ => .fail (.message "the gate stays open"), none⟩

/-- An engine with gates, whose opening is a property of flags. -/
def gateEngine : Engine :=
  ⟨⟨#[(TypeEntry.make "Gate" .reference).withProperty gateProperty]⟩, .default, .byCost⟩

/-- The store in which the property was asked for once. -/
def boundGate : Store :=
  (gateEngine.ownProperty (Store.initial.typeReference (.declared 0)).2 (.created 4) "Open").2

/-- Two values that cannot be converted, with one between them that the host takes, and one that it
refuses. -/
def gateWrites : List Hook :=
  [.string "ajar", .boolean true, .string "wide", .boolean false].map
    (.setMember (.created 4) "OPEN")

/-- A property that is hidden, uncovered, hidden again, and refuses a value. -/
theorem shadow_after_refusal :
    let gate := ObjectId.created 4
    let s := enterAll (gateEngine.performWithin 1) gateWrites boundGate
    gateProperty.set.isSome ∧ boundGate.isHostObject gate ∧
      (boundGate.slots gate).state "open" = some (.live (.property gateProperty none none)) ∧
      (gateEngine.realm 0).perform (.getMember (.object gate) "open") s =
        (.ok (.string "wide"), s) := by
  intro gate s
  have hhost : boundGate.isHostObject gate := rfl
  have hfresh : (boundGate.slots gate).state "open" =
      some (.live (.property gateProperty none none)) := rfl
  have hset : gateProperty.set = some _ := rfl
  obtain ⟨hlaws, -, hbound⟩ := shadow_follows_writes gateEngine 1 hset none
  obtain ⟨hslot, hrun⟩ := hbound 4 "open" boundGate hhost hfresh
  obtain ⟨uses, hnoted, -, hend⟩ := hrun gateWrites
  let expected : List Use := [.found none, .kept (.string "ajar"), .found (some (.string "ajar")),
    .handed (.bool true), .found none, .kept (.string "wide"), .found (some (.string "wide")),
    .failed (.bool false)]
  -- the uses are read off the notes of the run
  have huses : uses = expected := by
    have hseen : (enterAll (gateEngine.overseeWithin (.created 4) "open" 1) gateWrites
        boundGate).calls = (expected.reverse.map Use.note).toArray := rfl
    have hexpected : (s.jotting expected).calls = (expected.reverse.map Use.note).toArray := rfl
    apply jotting_injective (s := s)
    rw [hexpected, ← hseen, hnoted]
  obtain ⟨hhost', hhidden⟩ := hend (by simp [huses, expected])
  rw [huses] at hhidden
  refine ⟨rfl, hhost, hfresh, ?_⟩
  rw [(hslot (gateEngine.realm 0) s _ hhost' hhidden "open" rfl).1]
  exact (hlaws (gateEngine.realm 0) _ s).1

end Engine

end Membrane
