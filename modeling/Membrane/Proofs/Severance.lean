import Membrane.Proofs.Accesses
import Membrane.Proofs.Unseen

/-!
# Deleted names never get back to the host

Scripts make accesses to host objects, and so does host code that enters the engine again while
another access is under way. `Engine.watchWithin` is the engine with every access to one object
noted, in the order in which they take effect, in the log that no program sees; apart from the notes
it does what the engine does (`Engine.watchWithin_agree`).

What can be said of the object and of the accesses made to it so far (`Engine.Tracks`) is kept by
every run (`Engine.Tracks.watchWithin_agree`). One such statement is that what the slot of a deleted
name holds is decided by the accesses noted since, so the name is never bound to a host member again
(`Engine.severed_after_delete`).
-/

namespace Membrane

/-! ### Noting accesses -/

/-- The note of an access. -/
def Access.note : Access → CallRecord
  | .assign name value => ⟨"assign", none, [.plain (.string name), .plain (.script value)]⟩
  | .delete name => ⟨"delete", none, [.plain (.string name)]⟩
  | .define name value flags =>
      ⟨"define", none, [.plain (.string name), .plain (.script value),
        .plain (.bool flags.writable), .plain (.bool flags.enumerable),
        .plain (.bool flags.configurable)]⟩

/-- An access can be told from its note. -/
theorem Access.note_injective {a b : Access} (h : a.note = b.note) : a = b := by
  cases a with
  | define name value flags =>
    cases b with
    | define name' value' flags' =>
      obtain ⟨writable, enumerable, configurable⟩ := flags
      obtain ⟨writable', enumerable', configurable'⟩ := flags'
      simp_all [note]
    | _ => simp [note] at h
  | _ => cases b <;> simp_all [note]

/-- The store with accesses noted in front of its log, the latest first. -/
def Store.noting (s : Store) (accesses : List Access) : Store :=
  { s with calls := (accesses.reverse.map Access.note).toArray ++ s.calls }

/-- The notes tell what was noted. -/
theorem Store.noting_injective {s : Store} {accesses accesses' : List Access}
    (h : s.noting accesses = s.noting accesses') : accesses = accesses' := by
  have hcalls : (s.noting accesses).calls.toList = (s.noting accesses').calls.toList :=
    congrArg (·.calls.toList) h
  have hnotes : accesses.map Access.note = accesses'.map Access.note := by
    simpa [noting] using hcalls
  exact (List.map_inj_right fun _ _ => Access.note_injective).1 hnotes

/-- Nothing noted leaves the store. -/
theorem Store.noting_nil (s : Store) : s.noting [] = s := by
  simp [noting]

/-- The access to a host object that an entry into the engine makes. Type references refuse
definitions. -/
def Hook.access? (s : Store) (id : ObjectId) : Hook → Option Access
  | .setMember base name value => if base = id then some (.assign name value) else none
  | .deleteMember base name => if base = id then some (.delete name) else none
  | .defineData base name value flags =>
      if base = id ∧ (s.hostTarget? id).isSome then some (.define name value flags) else none
  | _ => none

/-- An entry that does not change the object itself makes no access to it. -/
theorem Hook.access?_of_changed?_ne {s : Store} {id : ObjectId} {hook : Hook}
    (h : hook.changed? ≠ some id) : hook.access? s id = none := by
  cases hook <;> simp_all [changed?, access?]

/-- Notes an access in front of the log. -/
def Store.note (s : Store) : Option Access → Store
  | some a => { s with calls := #[a.note] ++ s.calls }
  | none => s

/-- An entry into the engine that notes the accesses to one object, those of further entries
included. -/
def Engine.watchWithin (E : Engine) (id : ObjectId) : Nat → (hook : Hook) →
    Action BridgeError hook.Answer
  | 0, _ => Action.exhausted
  | depth + 1, hook => fun s =>
      Realm.perform ⟨E, watchWithin E id depth⟩ hook (s.note (hook.access? s id))

/-- Notes do not stand in the way of what is put back. -/
theorem Store.putBack_noting (s : Store) (accesses : List Access) (id : ObjectId) (key : String)
    (d : Descriptor) :
    (s.noting accesses).putBack id key d = (s.putBack id key d).noting accesses :=
  s.putBack_entries _ id key d

/-- One more note is one more access. -/
theorem Store.note_noting (s : Store) (accesses : List Access) (a : Access) :
    (s.noting accesses).note (some a) = s.noting (accesses ++ [a]) := by
  have hcalls : ((s.noting accesses).note (some a)).calls = (s.noting (accesses ++ [a])).calls := by
    apply Array.toList_inj.1
    simp [noting, note]
  exact congrArg (fun calls => { s with calls }) hcalls

open Action in
/-- What host code makes of a write is never a value in a slot. -/
theorem Realm.yields_write (R : Realm) {d : Descriptor} (hd : ∀ v flags, d ≠ .data v flags)
    (value : ScriptValue) :
    Yields (fun d' => ∀ v flags, d' ≠ .data v flags) (R.write d value) := by
  -- what is written through stays of its sort, and data is excluded
  cases d with
  | data v flags => exact absurd rfl (hd v flags)
  | accessor get flags => exact yields_pure hd
  | count target => exact yields_pure hd
  | absent => exact yields_pure hd
  | field member target =>
    simp only [Realm.write]
    cases member.set with
    | none => exact yields_pure hd
    | some set => exact yields_bind fun _ => yields_bind fun _ => yields_pure hd
  | property member target shadow =>
    exact yields_bind fun _ => yields_pure fun _ _ hdata => by cases hdata
  | sharedData cell flags => exact yields_bind fun _ => yields_pure hd
  | sharedProperty member target cell =>
    exact yields_bind fun _ => yields_bind fun _ => yields_bind fun _ => yields_pure hd
  | index member target key =>
    simp only [Realm.write]
    cases member.set with
    | none => exact yields_pure hd
    | some set =>
      exact yields_bind fun _ => yields_bind fun _ => yields_bind fun _ => yields_pure hd

/-! ### Runs that are watched -/

/-- The second store is the first one with accesses noted, and `P` holds of the first store and the
accesses. -/
def Tracked (P : Store → List Access → Prop) (s t : Store) : Prop :=
  ∃ accesses, t = s.noting accesses ∧ P s accesses

/-- A statement about a host object and the accesses made to it, which every access keeps once it is
added to them, and which nothing else that happens breaks. -/
structure Engine.Tracks (E : Engine) (id : ObjectId) (P : Store → List Access → Prop) : Prop where
  host : ∀ {s accesses}, P s accesses → s.isHostObject id
  elsewhere : ∀ {s t accesses}, P s accesses → t.object? id = s.object? id → t.cache = s.cache →
    P t accesses
  own : ∀ {s accesses}, P s accesses → ∀ other name, P (E.ownProperty s other name).2 accesses
  putBack : ∀ {s accesses}, P s accesses → ∀ key {d : Descriptor},
    (∀ v flags, d ≠ .data v flags) → P (s.putBack id key d) accesses
  assign : ∀ {s accesses}, P s accesses → ∀ name value strict,
    P (E.assign s id name value strict) (accesses ++ [.assign name value])
  delete : ∀ {s accesses}, P s accesses → ∀ name,
    P (s.modifySlots id (·.markDeleted (Name.normalize name))) (accesses ++ [.delete name])
  define : ∀ {s accesses}, P s accesses → ∀ name value flags,
    P (s.modifySlots id (·.setLive name (.data value flags))) (accesses ++ [.define name value flags])

/-- The second store is the first one with accesses noted, and the accesses decide what the slots of
deleted names hold. -/
def Watched (id : ObjectId) (s t : Store) : Prop :=
  ∃ accesses, t = s.noting accesses ∧ s.Follows id accesses

namespace Tracked

open Store Action

variable {E : Engine} {R R' : Realm} {id : ObjectId} {index : Nat} {s t : Store}
  {P : Store → List Access → Prop} {accesses : List Access}

/-- Noting accesses changes nothing that a program sees. -/
private theorem admits_noting (E : Engine) (accesses : List Access) :
    E.Admits (fun s t => t = s.noting accesses) (fun _ => True) E :=
  E.admits_entries (accesses.reverse.map Access.note).toArray

/-- Changes of other objects are no accesses. -/
theorem admits (hP : E.Tracks (.created index) P) :
    E.Admits (Tracked P) (· ≠ .created index) E :=
  Engine.admits_noted (fun h => isSome_of_isHostObject (hP.host h)) hP.elsewhere hP.own

/-! ### Writes, deletions and definitions -/

/-- A write that goes on to the host: what comes back into the slot is no value. -/
private theorem putThrough_tracked (hP : R.toEngine.Tracks id P) (h : R.Alike (Tracked P) R')
    {handle : Handle} (hhome : ∀ owner key, handle.home = some (owner, key) → owner = id)
    (hd : ∀ v flags, handle.descriptor ≠ .data v flags) (name : String) (value : ScriptValue)
    (strict : Bool) :
    Agree (Tracked P) (R.putThrough handle name value strict)
      (R'.putThrough handle name value strict) := by
  refine h.putThrough_agree (R.yields_write hd value) ?_ name strict
  rintro owner key d hslot hd s _ ⟨accesses, rfl, hs⟩
  obtain rfl := hhome owner key hslot
  exact ⟨accesses, s.putBack_noting accesses owner key d, hP.putBack hs key hd⟩

/-- Writes to host objects go the way of host objects. -/
theorem put_of_host (R : Realm) (hs : s.isHostObject id) (name : String)
    (value : ScriptValue) (strict : Bool) :
    R.put id name value strict s = R.hostPut id name value strict s := by
  obtain ⟨target, hsort⟩ | ⟨type, hsort⟩ := isHostObject_iff.1 hs
  · simp only [Realm.put, bind_apply, getStore, hsort]
  · simp only [Realm.put, bind_apply, getStore, hsort]

/-- A value that is put under a deleted name stands there as plain data. -/
theorem hostPut_of_deleted (R : Realm) {name : String} (value : ScriptValue) (strict : Bool)
    (hdeleted : (s.slots id).isDeleted (Name.normalize name)) :
    R.hostPut id name value strict s =
      (.ok (), s.modifySlots id (·.setLive (Name.normalize name) (.plain value))) := by
  simp only [Realm.hostPut, bind_apply, getStore, hdeleted, if_true]
  rfl

/-- A value that is put under another name goes to what is found there. -/
theorem hostPut_of_own (R : Realm) {name : String} (value : ScriptValue) (strict : Bool)
    (hdeleted : ¬ (s.slots id).isDeleted (Name.normalize name)) :
    R.hostPut id name value strict s =
      R.putFound id name value strict
        ((R.toEngine.ownProperty s id name).1.filter (!·.descriptor.isAbsent))
        (R.toEngine.ownProperty s id name).2 := by
  simp only [Realm.hostPut, bind_apply, getStore, hdeleted]
  rfl

/-- A value is written in the slot itself, if it is writable. -/
theorem putThrough_data (R : Realm) {v : ScriptValue} {flags : Flags} (key name : String)
    (value : ScriptValue) (strict : Bool) :
    R.putThrough ⟨.data v flags, some (id, key)⟩ name value strict s =
      if flags.writable then (.ok (), s.putBack id key (.data value flags))
      else if strict then (.error (.invocation (.readOnly name)), s)
      else (.ok (), s) := by
  -- read-only data refuses in strict mode and ignores the value otherwise
  cases hwritable : flags.writable with
  | true =>
    have hd : (Descriptor.data v flags).isWritable = true := hwritable
    simp only [Realm.putThrough, hd, if_true]
    rfl
  | false =>
    have hd : (Descriptor.data v flags).isWritable = false := hwritable
    simp only [Realm.putThrough, hd]
    cases strict <;> rfl

/-- Where nothing is found, the notes change neither the reply nor what is written. -/
private theorem putFound_none (hR : R'.toEngine = R.toEngine) (accesses : List Access)
    (name : String) (value : ScriptValue) (strict : Bool) :
    R'.putFound id name value strict none (t.noting accesses) =
        ((R.putFound id name value strict none t).1,
          (R.putFound id name value strict none t).2.noting accesses) ∧
      (R.putFound id name value strict none t).2 =
        R.toEngine.assignFound t id (Name.normalize name) value strict none := by
  simp only [Realm.putFound, Engine.assignFound, hR]
  cases strict with
  | true => exact ⟨rfl, rfl⟩
  | false => cases R.options.expando <;> exact ⟨rfl, rfl⟩

/-- A write to what is found under a name is an assignment, and what host code does on its
behalf. -/
private theorem putFound_tracked (hR : R'.toEngine = R.toEngine) (hP : R.toEngine.Tracks id P)
    (h : R.Alike (Tracked P) R') {found : Option Handle} {name : String}
    (hhome : ∀ handle ∈ found, handle.home = some (id, Name.normalize name) ∨
      handle.home = none ∧ ∀ v flags, handle.descriptor ≠ .data v flags)
    (value : ScriptValue) (strict : Bool)
    (hassign : P (R.toEngine.assignFound t id (Name.normalize name) value strict found) accesses) :
    let known := found.filter (!·.descriptor.isAbsent)
    (R.putFound id name value strict known t).1 =
        (R'.putFound id name value strict known (t.noting accesses)).1 ∧
      Tracked P (R.putFound id name value strict known t).2
        (R'.putFound id name value strict known (t.noting accesses)).2 := by
  -- nothing found and a deleted property are the same to the write
  have hunknown
      (hnone : P (R.toEngine.assignFound t id (Name.normalize name) value strict none) accesses) :
      (R.putFound id name value strict none t).1 =
          (R'.putFound id name value strict none (t.noting accesses)).1 ∧
        Tracked P (R.putFound id name value strict none t).2
          (R'.putFound id name value strict none (t.noting accesses)).2 := by
    obtain ⟨hnoting, heffect⟩ := putFound_none hR accesses name value strict
    rw [hnoting, heffect]
    exact ⟨rfl, accesses, rfl, hnone⟩
  cases found with
  | none => exact hunknown hassign
  | some handle =>
    obtain ⟨d, home⟩ := handle
    -- what was found has its home in a slot of the object itself
    have howner : ∀ owner key, home = some (owner, key) → owner = id := by
      rintro owner key rfl
      obtain hslot | ⟨hslot, -⟩ := hhome _ rfl
      · cases hslot
        rfl
      · cases hslot
    -- a write through a member leaves the slot, which is what the notes are about
    have hunchanged (hsame : R.toEngine.assignFound t id (Name.normalize name) value strict
        (some ⟨d, home⟩) = t) : P t accesses := hsame ▸ hassign
    cases d with
    | absent => exact hunknown hassign
    | data v flags =>
      obtain hslot | ⟨-, hdata⟩ := hhome _ rfl
      · cases hslot
        simp only [Option.filter_some, Descriptor.isAbsent, Bool.not_false, if_true, Realm.putFound,
          putThrough_data]
        simp only [Engine.assignFound] at hassign
        cases hwritable : flags.writable with
        | true =>
          simp only [hwritable, if_true] at hassign ⊢
          exact ⟨trivial, accesses, t.putBack_noting accesses id _ _, hassign⟩
        | false =>
          simp only [hwritable] at hassign ⊢
          cases strict <;> exact ⟨rfl, accesses, rfl, hassign⟩
      · exact absurd rfl (hdata v flags)
    | _ =>
      refine putThrough_tracked hP h howner (fun v flags hdata => ?_) name value strict t _
        ⟨accesses, rfl, hunchanged rfl⟩
      cases hdata

/-- A write is an assignment, and what host code does on its behalf. -/
private theorem put_tracked (hR : R'.toEngine = R.toEngine) (hP : R.toEngine.Tracks id P)
    (h : R.Alike (Tracked P) R') (hs : s.isHostObject id) (name : String) (value : ScriptValue)
    (strict : Bool) (hassign : P (R.toEngine.assign s id name value strict) accesses) :
    (R.put id name value strict s).1 = (R'.put id name value strict (s.noting accesses)).1 ∧
      Tracked P (R.put id name value strict s).2
        (R'.put id name value strict (s.noting accesses)).2 := by
  have hs' : (s.noting accesses).isHostObject id := hs
  have hslots : (s.noting accesses).slots id = s.slots id := rfl
  rw [put_of_host R hs, put_of_host R' hs']
  unfold Engine.assign at hassign
  -- a name marked as deleted takes the value at once; otherwise what is found decides
  by_cases hdeleted : (s.slots id).isDeleted (Name.normalize name)
  · rw [hostPut_of_deleted R value strict hdeleted,
      hostPut_of_deleted R' value strict (hslots ▸ hdeleted)]
    rw [if_pos hdeleted] at hassign
    exact ⟨rfl, accesses, rfl, hassign⟩
  · rw [hostPut_of_own R value strict hdeleted,
      hostPut_of_own R' value strict (hslots ▸ hdeleted), hR]
    rw [if_neg hdeleted] at hassign
    obtain ⟨hfound, hstore⟩ := (admits_noting R.toEngine accesses).own s _ id name rfl
    rw [← hfound, hstore]
    refine putFound_tracked hR hP h (fun handle hhandle => ?_) value strict hassign
    exact Engine.home_of_host hs hhandle

/-- A delete on a host object always succeeds and leaves the mark of a deletion. -/
theorem delete_of_host (R : Realm) (hs : s.isHostObject id) (name : String)
    (strict : Bool) :
    R.delete id name strict s =
      (.ok true, s.modifySlots id (·.markDeleted (Name.normalize name))) := by
  obtain ⟨target, hsort⟩ | ⟨type, hsort⟩ := isHostObject_iff.1 hs
  · simp only [Realm.delete, bind_apply, getStore, hsort]
    rfl
  · simp only [Realm.delete, bind_apply, getStore, hsort]
    rfl

/-- Wrappers take a definition. -/
theorem define_of_wrapper (R : Realm) (hs : (s.hostTarget? id).isSome) (name : String)
    (d : Descriptor) :
    R.define id name d s = (.ok true, s.modifySlots id (·.setLive name d)) := by
  have hsort : ∃ target, s.sort? id = some (.wrapper target) := by
    unfold hostTarget? at hs
    split at hs
    · next target hsort => exact ⟨target, hsort⟩
    · cases hs
  obtain ⟨target, hsort⟩ := hsort
  simp only [Realm.define, bind_apply, getStore, hsort]
  rfl

/-- Type references refuse a definition. -/
theorem define_of_reference (R : Realm) (hs : s.isHostObject id)
    (hwrapper : ¬ (s.hostTarget? id).isSome) (name : String) (d : Descriptor) :
    ∃ type, s.sort? id = some (.typeReference type) ∧ R.define id name d s =
      (.error (.invocation (.defineOnTypeReference (R.types.name type) name)), s) := by
  obtain ⟨target, hsort⟩ | ⟨type, hsort⟩ := isHostObject_iff.1 hs
  · refine absurd ?_ hwrapper
    simp only [hostTarget?, hsort]
    rfl
  · refine ⟨type, hsort, ?_⟩
    simp only [Realm.define, bind_apply, getStore, hsort]
    rfl

/-- An entry into the engine makes the access that is noted for it, and whatever else happens to the
object on its behalf is noted as well. -/
private theorem perform_tracked (hR : R'.toEngine = R.toEngine)
    (hP : R.toEngine.Tracks (.created index) P) (h : R.Alike (Tracked P) R') (hook : Hook)
    (hs : P s accesses) :
    let noted := (s.noting accesses).note (hook.access? (s.noting accesses) (.created index))
    (R.perform hook s).1 = (R'.perform hook noted).1 ∧
      Tracked P (R.perform hook s).2 (R'.perform hook noted).2 := by
  have hW : Tracked P s (s.noting accesses) := ⟨accesses, rfl, hs⟩
  have hhost := hP.host hs
  have hadmits : R.toEngine.Admits (Tracked P) (· ≠ .created index) R'.toEngine := by
    rw [hR]
    exact admits hP
  -- only hooks that change the object are noted; of these there are three
  by_cases hchanged : hook.changed? = some (.created index)
  · cases hook with
    | setMember id name value =>
      cases hchanged
      simp only [Hook.access?, if_true, note_noting, Realm.perform, h.strict]
      exact put_tracked hR hP h hhost name value _ (hP.assign hs name value R.options.strict)
    | deleteMember id name =>
      cases hchanged
      have hhost' : (s.noting (accesses ++ [.delete name])).isHostObject (.created index) := hhost
      simp only [Hook.access?, if_true, note_noting, Realm.perform]
      rw [delete_of_host R hhost, delete_of_host R' hhost']
      exact ⟨rfl, _, rfl, hP.delete hs name⟩
    | defineData id name value flags =>
      cases hchanged
      -- a type reference refuses the definition, and nothing is noted of it
      by_cases hwrapper : (s.hostTarget? (.created index)).isSome
      · have hnoted : ∀ accesses : List Access,
            ((s.noting accesses).hostTarget? (.created index)).isSome := fun _ => hwrapper
        simp only [Hook.access?, hnoted, and_self, if_true, note_noting, Realm.perform]
        rw [define_of_wrapper R hwrapper, define_of_wrapper R' (hnoted _)]
        exact ⟨rfl, _, rfl, hP.define hs name value flags⟩
      · have hnoted : (s.noting accesses).note (Hook.access? (s.noting accesses) (.created index)
            (.defineData (.created index) name value flags)) = s.noting accesses := by
          rw [Hook.access?, if_neg fun h => hwrapper h.2]
          rfl
        obtain ⟨type, hsort, hdefine⟩ :=
          define_of_reference R hhost hwrapper name (.data value flags)
        obtain ⟨type', hsort', hdefine'⟩ :=
          define_of_reference R' (s := s.noting accesses) hhost hwrapper name (.data value flags)
        cases hsort.symm.trans hsort'
        simp only [hnoted, Realm.perform, hdefine, hdefine', hR]
        exact ⟨trivial, hW⟩
    | _ => cases hchanged
  · rw [Hook.access?_of_changed?_ne hchanged]
    exact hadmits.perform_agree h (fun id hid heq => hchanged (heq ▸ hid)) s _ hW

end Tracked

namespace Engine

variable {E : Engine} {index : Nat} {P : Store → List Access → Prop}

/-- The engine that is watched does what the engine does, and what `P` states about the object holds
with the accesses that it notes. -/
theorem Tracks.watchWithin_agree (hP : E.Tracks (.created index) P) (depth : Nat) (hook : Hook) :
    Action.Agree (Tracked P) (E.performWithin depth hook)
      (E.watchWithin (.created index) depth hook) := by
  -- the calls of a hook are entries one level deeper
  induction depth generalizing hook with
  | zero => exact fun _ _ hst => ⟨rfl, hst⟩
  | succ depth ih =>
    have halike : Realm.Alike (Tracked P) ⟨E, E.performWithin depth⟩
        ⟨E, E.watchWithin (.created index) depth⟩ :=
      { (Tracked.admits hP).toInvariant with enter := ih }
    rintro s _ ⟨accesses, rfl, hs⟩
    have hsame : Realm.toEngine ⟨E, E.watchWithin (.created index) depth⟩ =
        Realm.toEngine ⟨E, E.performWithin depth⟩ := rfl
    exact Tracked.perform_tracked hsame hP halike hook hs

/-- What the slots of deleted names hold is decided by the accesses. -/
theorem tracks_follows (E : Engine) (index : Nat) :
    E.Tracks (.created index) (·.Follows (.created index)) where
  host h := h.1
  elsewhere h hsame _ := h.keep (Store.keepsUsed_of_object?_eq hsame)
  own {s _} h other name := by
    have hasked := asked_ownProperty (E := E) (Store.isSome_of_isHostObject h.1) other name
    refine h.keep ?_
    -- the object asked may bind a member, which the accesses so far allow
    by_cases hother : .created index = other
    · subst hother
      exact hasked.own rfl
    · exact Store.keepsUsed_of_object?_eq (hasked.other hother)
  putBack h key _ hd := h.putBack key hd
  assign h name value strict := h.assign name value strict
  delete h name := h.delete name
  define h name value flags := h.define name value flags

/-- The engine that is watched does what the engine does, and notes every access in the order in
which it takes effect. -/
theorem watchWithin_agree (E : Engine) (index : Nat) (depth : Nat) (hook : Hook) :
    Action.Agree (Watched (.created index)) (E.performWithin depth hook)
      (E.watchWithin (.created index) depth hook) :=
  (E.tracks_follows index).watchWithin_agree depth hook

end Engine

/-! ### Severance -/

/-- Entries into an engine, one after the other, whatever becomes of each. -/
def enterAll (enter : (hook : Hook) → Action BridgeError hook.Answer) (hooks : List Hook)
    (s : Store) : Store :=
  hooks.foldl (fun s hook => (enter hook s).2) s

/-- Entries that agree one by one agree in sequence. -/
theorem enterAll_agree {W : Store → Store → Prop}
    {enter enter' : (hook : Hook) → Action BridgeError hook.Answer}
    (h : ∀ hook, Action.Agree W (enter hook) (enter' hook)) (hooks : List Hook) {s t : Store}
    (hst : W s t) : W (enterAll enter hooks s) (enterAll enter' hooks t) := by
  induction hooks generalizing s t with
  | nil => exact hst
  | cons hook rest ih => exact ih (h hook s t hst).2

/-- What entries into the watched engine note, and that `P` holds with it. -/
theorem Engine.Tracks.enterAll {E : Engine} {index : Nat} {P : Store → List Access → Prop}
    (hP : E.Tracks (.created index) P) (depth : Nat) (hooks : List Hook) {s t : Store}
    (h : Tracked P s t) :
    Tracked P (enterAll (E.performWithin depth) hooks s)
      (enterAll (E.watchWithin (.created index) depth) hooks t) :=
  enterAll_agree (hP.watchWithin_agree depth) hooks h

/-- A watched store stays watched over any entries. -/
private theorem watched_enterAll (E : Engine) (index depth : Nat) (hooks : List Hook) {s t : Store}
    (h : Watched (.created index) s t) :
    Watched (.created index) (enterAll (E.performWithin depth) hooks s)
      (enterAll (E.watchWithin (.created index) depth) hooks t) :=
  (E.tracks_follows index).enterAll depth hooks h

/-- Without definitions, the slot of a deleted name holds what was assigned to it last. -/
theorem Access.held_eq_lastWritten (key : String) (accesses : List Access)
    (hdefine : ∀ value flags, .define key value flags ∉ accesses) :
    held key accesses = (lastWritten key accesses).map (·, Flags.all) := by
  -- the induction needs both folds from the same value, not only from none
  suffices h : ∀ last : Option ScriptValue,
      accesses.foldl (fun held a => a.next key held) (last.map (·, Flags.all)) =
        (accesses.foldl
          (fun last a => match a with
            | .assign name value => if Name.normalize name = key then some value else last
            | .delete name => if Name.normalize name = key then none else last
            | .define .. => last)
          last).map (·, Flags.all) from h none
  induction accesses with
  | nil => exact fun _ => rfl
  | cons a rest ih =>
    have hrest := ih fun value flags hmem => hdefine value flags (List.mem_cons_of_mem a hmem)
    intro last
    simp only [List.foldl_cons]
    rw [← hrest]
    congr 1
    cases a with
    | assign name value =>
      simp only [next]
      split
      · cases last <;> rfl
      · rfl
    | delete name =>
      simp only [next]
      split <;> rfl
    | define name value flags =>
      have hname : name ≠ key := by
        rintro rfl
        exact hdefine value flags List.mem_cons_self
      simp only [next, if_neg hname]

namespace Engine

open Store Action

variable {E : Engine} {s : Store} {id : ObjectId} {name : String}

/-- What is absent is looked for behind the object. -/
theorem get_of_absent (R : Realm) {home : Option (ObjectId × String)}
    (hown : R.toEngine.ownProperty s id name = (some ⟨.absent, home⟩, s)) :
    R.get id name s = R.getFrom name (s.heap.chain id).tail s := by
  have hpresent : (R.present id name : Action BridgeError (Option Handle)) s = (.ok none, s) := by
    simp only [Realm.present, Realm.own, bind_apply, Action.state, hown]
    rfl
  show R.getFrom name (id :: (s.heap.chain id).tail) s = _
  simp only [Realm.getFrom, bind_apply, hpresent]

/-- Own plain data is what a read gives. -/
private theorem get_of_plain (R : Realm) {v : ScriptValue} {home : Option (ObjectId × String)}
    (hown : R.toEngine.ownProperty s id name = (some ⟨.plain v, home⟩, s)) :
    R.get id name s = (.ok v, s) := by
  have hpresent : (R.present id name : Action BridgeError (Option Handle)) s =
      (.ok (some ⟨.plain v, home⟩), s) := by
    simp only [Realm.present, Realm.own, bind_apply, Action.state, hown]
    rfl
  show R.getFrom name (id :: (s.heap.chain id).tail) s = _
  simp only [Realm.getFrom, bind_apply, hpresent]
  rfl

/-- Whatever scripts and host code do to a wrapper or type reference, a name that was deleted is
never bound to the host again, however it is spelled: it holds the value that was written to it last
since it was deleted, and as long as there is none a read gives what the prototypes give. -/
theorem severed_after_delete (E : Engine) (depth : Nat) {index : Nat} {s₀ : Store}
    (hhost : s₀.isHostObject (.created index)) (hooks : List Hook) :
    let id := ObjectId.created index
    let R := E.realm depth
    let s := enterAll (E.performWithin depth) hooks s₀
    ∃ accesses, enterAll (E.watchWithin id depth) hooks s₀ = s.noting accesses ∧
      ∀ before name after, accesses = before ++ .delete name :: after →
        ∀ spelling, Name.normalize spelling = Name.normalize name →
          (∃ h, E.ownProperty s id spelling = (some h, s) ∧
            (h.descriptor = .absent ∨ ∃ v flags, h.descriptor = .data v flags)) ∧
          ((∀ v flags, .define (Name.normalize name) v flags ∉ after) →
            match Access.lastWritten (Name.normalize name) after with
            | none => E.ownProperty s id spelling = (some ⟨.absent, none⟩, s) ∧
                R.get id spelling s = R.getFrom spelling (s.heap.chain id).tail s
            | some v =>
                E.ownProperty s id spelling = (some ⟨.plain v, some (id, Name.normalize name)⟩, s) ∧
                  R.get id spelling s = (.ok v, s)) := by
  intro id R s
  have hstart : Watched id s₀ s₀ := ⟨[], s₀.noting_nil.symm, .nil hhost⟩
  obtain ⟨accesses, hnoted, hfollows⟩ := watched_enterAll E index depth hooks hstart
  refine ⟨accesses, hnoted, fun before name after hsplit spelling hspelling => ?_⟩
  -- the accesses after the delete decide the state of the slot
  have hslot := hfollows.2 before name after hsplit
  rw [← hspelling] at hslot ⊢
  have hown := ownProperty_of_state (E := E) hfollows.1 hslot
  constructor
  · refine ⟨_, hown, ?_⟩
    cases Access.held (Name.normalize spelling) after with
    | none => exact .inl rfl
    | some held => exact .inr ⟨held.1, held.2, rfl⟩
  · intro hdefine
    -- without a definition in between the slot holds the last value written, with all flags
    rw [Access.held_eq_lastWritten _ after hdefine] at hown
    cases hlast : Access.lastWritten (Name.normalize spelling) after with
    | none =>
      rw [hlast] at hown
      exact ⟨hown, get_of_absent R hown⟩
    | some v =>
      rw [hlast] at hown
      exact ⟨hown, get_of_plain R hown⟩

/-- A field of an instance that always reads as true. -/
def litField : Field := .make "Lit" .scriptValue (fun _ => .done (.bool true)) (some fun _ _ => .done ())

/-- An engine with lamps, whose light is a field that can be written. -/
def lamps : Engine := ⟨⟨#[(TypeEntry.make "Lamp" .reference).withField litField]⟩, .default, .byCost⟩

/-- A wrapper of an instance whose field is bound already. -/
def lit : Store :=
  (lamps.performWithin 1 (.getMember (.object (.created 3)) "Lit")
    (Store.initial.wrap lamps.types ⟨.declared 0, 0⟩).2).2

/-- Deletes the field and writes to it, under another spelling each. -/
def puttingOut : List Hook :=
  [.deleteMember (.created 3) "LIT", .setMember (.created 3) "lit" (.boolean false)]

/-- A bound field that is deleted, and written to afterwards, under other spellings. -/
theorem severed_lit_field :
    let id := ObjectId.created 3
    let gone := enterAll (lamps.performWithin 1) (puttingOut.take 1) lit
    let s := enterAll (lamps.performWithin 1) puttingOut lit
    lit.isHostObject id ∧
      lamps.ownProperty lit id "Lit" =
        (some ⟨.field litField (some ⟨.declared 0, 0⟩), some (id, "lit")⟩, lit) ∧
      lamps.ownProperty gone id "lIT" = (some ⟨.absent, none⟩, gone) ∧
      lamps.ownProperty s id "lIT" = (some ⟨.plain (.boolean false), some (id, "lit")⟩, s) ∧
      (lamps.realm 1).get id "lIT" s = (.ok (.boolean false), s) := by
  intro id gone s
  have hhost : lit.isHostObject id := rfl
  obtain ⟨deleted, hdeleted, hgone⟩ := severed_after_delete lamps 1 hhost (puttingOut.take 1)
  obtain ⟨written, hwritten, hsevered⟩ := severed_after_delete lamps 1 hhost puttingOut
  -- the accesses are read off the notes of the two runs
  have hdeletes : deleted = [.delete "LIT"] := by
    apply noting_injective (s := gone)
    rw [← hdeleted]
    rfl
  have hwrites : written = [.delete "LIT", .assign "lit" (.boolean false)] := by
    apply noting_injective (s := s)
    rw [← hwritten]
    rfl
  have hspelling : Name.normalize "lIT" = Name.normalize "LIT" := by decide +kernel
  obtain ⟨-, habsent⟩ := hgone [] "LIT" [] hdeletes "lIT" hspelling
  obtain ⟨-, hplain⟩ := hsevered [] "LIT" [.assign "lit" (.boolean false)] hwrites "lIT" hspelling
  have hundefined (v : ScriptValue) (flags : Flags) :
      .define (Name.normalize "LIT") v flags ∉ [Access.assign "lit" (.boolean false)] := by
    intro hmem
    cases List.mem_singleton.1 hmem
  exact ⟨hhost, rfl, (habsent (by simp)).1, hplain hundefined⟩

end Engine

end Membrane
