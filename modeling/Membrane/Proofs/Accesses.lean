import Membrane.Proofs.OwnProperties
import Membrane.Realm.Object

/-!
# Accesses to host objects

The slot of a name of a wrapper or type reference is changed by three sorts of *accesses*: the name
is assigned, deleted, or defined. Once a name was deleted, the accesses since then decide what its
slot holds (`Store.Follows`): the mark of the deleted name, or a value.

## Key results

- `Store.Follows.keep`, `Store.Follows.putBack`: what is no access changes no such slot
- `Store.Follows.assign`, `Store.Follows.delete`, `Store.Follows.define`: every access does to it
  what `Access.next` says
-/

namespace Membrane

/-- What happens to the slot of a name of a host object. -/
inductive Access where
  | assign (name : String) (value : ScriptValue)
  | delete (name : String)
  /-- A value is put into the slot of exactly this name. -/
  | define (name : String) (value : ScriptValue) (flags : Flags)

namespace Access

/-- What a slot holds after an access, when it is no longer bound to the host: a value with its
attributes, or nothing. -/
def next (key : String) (held : Option (ScriptValue × Flags)) :
    Access → Option (ScriptValue × Flags)
  | .assign name value =>
      if Name.normalize name = key then
        match held with
        | some (old, flags) => some (if flags.writable then value else old, flags)
        | none => some (value, .all)
      else held
  | .delete name => if Name.normalize name = key then none else held
  | .define name value flags => if name = key then some (value, flags) else held

/-- What the slot of a deleted name holds after the accesses since then. -/
def held (key : String) (accesses : List Access) : Option (ScriptValue × Flags) :=
  accesses.foldl (fun held a => a.next key held) none

/-- The value that accesses assigned to a name last, unless they deleted it since. -/
def lastWritten (key : String) (accesses : List Access) : Option ScriptValue :=
  accesses.foldl
    (fun last a => match a with
      | .assign name value => if Name.normalize name = key then some value else last
      | .delete name => if Name.normalize name = key then none else last
      | .define .. => last)
    none

end Access

/-- The slot that holds a value, or that is marked as deleted. -/
def Slot.holding : Option (ScriptValue × Flags) → Slot Descriptor
  | none => .deleted
  | some (value, flags) => .live (.data value flags)

/-! ### Writes -/

namespace Store

variable {s t : Store} {id : ObjectId} {key : String}

/-- What is a host object is read off its sort. -/
theorem isHostObject_of_sort?_eq (hhost : s.isHostObject id) (h : t.sort? id = s.sort? id) :
    t.isHostObject id := by
  unfold isHostObject
  rw [h]
  exact hhost

/-- A host object is there. -/
theorem isSome_of_isHostObject (hhost : s.isHostObject id) : (s.object? id).isSome := by
  cases hobject : s.object? id with
  | some o => rfl
  | none =>
    unfold isHostObject sort? at hhost
    rw [hobject] at hhost
    cases hhost

/-- What is put into a slot of an object that is there stands in it. -/
theorem state_setLive_self (hobject : (s.object? id).isSome) (d : Descriptor) :
    ((s.modifySlots id (·.setLive key d)).slots id).state key = some (.live d) := by
  rw [slots_modifySlots_self s _ hobject, SlotTable.state_setLive]

/-- The other slots of the object keep what they hold. -/
theorem state_setLive_of_ne {other : String} {slot : Slot Descriptor}
    (hslot : (s.slots id).state other = some slot) (hne : other ≠ key) (d : Descriptor) :
    ((s.modifySlots id (·.setLive key d)).slots id).state other = some slot := by
  rw [slots_modifySlots_self s _ (isSome_of_state hslot), SlotTable.state_setLive_of_ne _ d hne]
  exact hslot

/-- Putting a descriptor back changes nothing or sets the slot. -/
theorem putBack_eq (s : Store) (id : ObjectId) (key : String) (d : Descriptor) :
    s.putBack id key d = s ∨ s.putBack id key d = s.modifySlots id (·.setLive key d) := by
  unfold putBack
  split
  · split
    · exact .inr rfl
    · exact .inl rfl
  · exact .inl rfl

/-- Putting a descriptor back changes no sort. -/
theorem sort?_putBack (s : Store) (id : ObjectId) (key : String) (d : Descriptor) :
    (s.putBack id key d).sort? id = s.sort? id := by
  obtain h | h := s.putBack_eq id key d
  · rw [h]
  · rw [h, sort?_modifySlots]

/-- Putting a descriptor back changes no other slot. -/
theorem state_putBack_of_ne {other : String} {slot : Slot Descriptor}
    (hslot : (s.slots id).state other = some slot) (hne : other ≠ key) (d : Descriptor) :
    ((s.putBack id key d).slots id).state other = some slot := by
  obtain h | h := s.putBack_eq id key d
  · rw [h]
    exact hslot
  · rw [h]
    exact state_setLive_of_ne hslot hne d

/-- A slot takes back what is of the same sort as what it holds. -/
theorem putBack_of_live {old d : Descriptor} (hslot : (s.slots id).state key = some (.live old))
    (hsort : old.sameSort d = true) :
    s.putBack id key d = s.modifySlots id (·.setLive key d) := by
  unfold putBack SlotTable.get?
  rw [hslot]
  simp only [Option.bind_some, Slot.live?, hsort, if_true]

/-- The slot of a deleted name, or one that holds a value, takes no host property back. -/
theorem putBack_of_holding {held : Option (ScriptValue × Flags)} {d : Descriptor}
    (hslot : (s.slots id).state key = some (Slot.holding held))
    (hd : ∀ v flags, d ≠ .data v flags) :
    s.putBack id key d = s := by
  unfold putBack SlotTable.get?
  rw [hslot]
  -- what is put back is no value, so it is not of the sort of what stands there
  match held with
  | none => rfl
  | some (v, flags) =>
    cases d with
    | data v flags => exact absurd rfl (hd v flags)
    | _ => rfl

end Store

namespace Engine

open Store

variable {E : Engine} {s : Store} {index : Nat} {key : String}

/-- What a write does to the slot of a name that is not deleted, before it goes on to the host: a
value is replaced, and an unknown name is added if the engine is expando. -/
def assignFound (E : Engine) (s : Store) (id : ObjectId) (key : String) (value : ScriptValue)
    (strict : Bool) : Option Handle → Store
  | some ⟨.data _ flags, _⟩ => if flags.writable then s.putBack id key (.data value flags) else s
  | some ⟨.absent, _⟩ | none =>
      if !strict && E.options.expando then s.modifySlots id (·.setLive key (.plain value)) else s
  | some _ => s

/-- What a write does to the slots of a host object before it goes on to the host. -/
def assign (E : Engine) (s : Store) (id : ObjectId) (name : String) (value : ScriptValue)
    (strict : Bool) : Store :=
  let key := Name.normalize name
  if (s.slots id).isDeleted key then s.modifySlots id (·.setLive key (.plain value))
  else
    let (found, s) := E.ownProperty s id name
    E.assignFound s id key value strict found

/-- A write to what was found leaves the store as it is, or puts a descriptor into the slot. -/
private theorem assignFound_eq (t : Store) (id : ObjectId) (key : String) (value : ScriptValue)
    (strict : Bool) (found : Option Handle) :
    E.assignFound t id key value strict found = t ∨
      ∃ d, E.assignFound t id key value strict found = t.modifySlots id (·.setLive key d) := by
  unfold assignFound
  -- by what was found: a value, an unshadowed or shadowed member, nothing
  split
  · split
    · obtain h | h := t.putBack_eq id key (.data value _)
      · exact .inl h
      · exact .inr ⟨_, h⟩
    · exact .inl rfl
  · split
    · exact .inr ⟨_, rfl⟩
    · exact .inl rfl
  · split
    · exact .inr ⟨_, rfl⟩
    · exact .inl rfl
  · exact .inl rfl

/-- A write sets the slot of its own name at most, after the name was looked up perhaps. -/
theorem assign_cases (E : Engine) (s : Store) (id : ObjectId) (name : String) (value : ScriptValue)
    (strict : Bool) :
    ∃ t, (t = s ∨ t = (E.ownProperty s id name).2) ∧
      (E.assign s id name value strict = t ∨
        ∃ d, E.assign s id name value strict =
          t.modifySlots id (·.setLive (Name.normalize name) d)) := by
  by_cases hdeleted : (s.slots id).isDeleted (Name.normalize name)
  · -- a deleted name is not looked up again
    refine ⟨s, .inl rfl, .inr ⟨.plain value, ?_⟩⟩
    unfold assign
    rw [if_pos hdeleted]
  · unfold assign
    rw [if_neg hdeleted]
    exact ⟨_, .inr rfl, assignFound_eq _ _ _ value strict _⟩

/-- Before it writes, an assignment keeps the slots that are in use. -/
private theorem assign_eq (hobject : (s.object? (.created index)).isSome) (name : String)
    (value : ScriptValue) (strict : Bool) :
    ∃ t, KeepsUsed (.created index) s t ∧
      (E.assign s (.created index) name value strict = t ∨
        ∃ d, E.assign s (.created index) name value strict =
          t.modifySlots (.created index) (·.setLive (Name.normalize name) d)) := by
  obtain ⟨t, rfl | rfl, hassign⟩ := E.assign_cases s (.created index) name value strict
  · exact ⟨_, .refl _ _, hassign⟩
  · exact ⟨_, (asked_ownProperty hobject (.created index) name).own rfl, hassign⟩

/-- A deleted name takes the value that is written to it, and one that holds a value takes it if it
is writable. -/
private theorem state_assign {held : Option (ScriptValue × Flags)}
    (hhost : s.isHostObject (.created index)) {name : String}
    (hslot : (s.slots (.created index)).state (Name.normalize name) = some (Slot.holding held))
    (value : ScriptValue) (strict : Bool) :
    ((E.assign s (.created index) name value strict).slots (.created index)).state
        (Name.normalize name) =
      some (Slot.holding ((Access.assign name value).next (Name.normalize name) held)) := by
  have hobject := isSome_of_isHostObject hhost
  have hown := ownProperty_of_state (E := E) hhost hslot
  unfold assign
  -- the slot is deleted, or holds a value that is written over if it is writable
  match held with
  | none =>
    have hdeleted : (s.slots (.created index)).isDeleted (Name.normalize name) = true :=
      SlotTable.isDeleted_of_state hslot
    rw [if_pos hdeleted, state_setLive_self hobject]
    simp only [Access.next, if_true]
    rfl
  | some (old, flags) =>
    have hlive : (s.slots (.created index)).isDeleted (Name.normalize name) = false :=
      SlotTable.isDeleted_of_state hslot
    rw [if_neg (by simp [hlive]), hown]
    simp only [Slot.handle, Slot.holding, assignFound, Access.next, if_true]
    cases hwritable : flags.writable with
    | true =>
      have hput : s.putBack (.created index) (Name.normalize name) (.data value flags) =
          s.modifySlots (.created index) (·.setLive (Name.normalize name) (.data value flags)) :=
        putBack_of_live hslot rfl
      simp only [if_true, hput]
      exact state_setLive_self hobject _
    | false => exact hslot

end Engine

/-! ### Deleted names -/

/-- The accesses since a name was deleted decide what its slot holds. -/
def Store.Follows (s : Store) (id : ObjectId) (accesses : List Access) : Prop :=
  s.isHostObject id ∧ ∀ before name after, accesses = before ++ .delete name :: after →
    (s.slots id).state (Name.normalize name) =
      some (Slot.holding (Access.held (Name.normalize name) after))

namespace Store.Follows

variable {E : Engine} {s t : Store} {id : ObjectId} {index : Nat} {accesses : List Access}

/-- Nothing was done to the object, so nothing is said of its slots. -/
theorem nil (hhost : s.isHostObject id) : s.Follows id [] :=
  ⟨hhost, fun _ _ _ h => absurd h (by simp)⟩

/-- What keeps the slots in use is no access. -/
theorem keep (h : s.Follows id accesses) (hkeeps : KeepsUsed id s t) : t.Follows id accesses :=
  ⟨isHostObject_of_sort?_eq h.1 hkeeps.1,
    fun before name after hsplit => hkeeps.2 _ _ (h.2 before name after hsplit)⟩

/-- A host property that is put back finds no deleted name to put itself into. -/
theorem putBack (h : s.Follows id accesses) (key : String) {d : Descriptor}
    (hd : ∀ v flags, d ≠ .data v flags) : (s.putBack id key d).Follows id accesses := by
  refine ⟨isHostObject_of_sort?_eq h.1 (sort?_putBack s id key d), ?_⟩
  intro before name after hsplit
  have hslot := h.2 before name after hsplit
  by_cases hkey : Name.normalize name = key
  · subst hkey
    rw [putBack_of_holding hslot hd]
    exact hslot
  · exact state_putBack_of_ne hslot hkey d

/-- One more access, which treats every slot that holds a value or is marked as deleted as
`Access.next` says. -/
theorem snoc (h : s.Follows id accesses) (a : Access) (hsort : t.sort? id = s.sort? id)
    (hdelete : ∀ name, a = .delete name →
      (t.slots id).state (Name.normalize name) = some .deleted)
    (hnext : ∀ key held, (s.slots id).state key = some (Slot.holding held) →
      (t.slots id).state key = some (Slot.holding (a.next key held))) :
    t.Follows id (accesses ++ [a]) := by
  refine ⟨isHostObject_of_sort?_eq h.1 hsort, ?_⟩
  intro before name after hsplit
  -- the deletion is the new access, or one of those before it
  obtain rfl | ⟨rest, last, rfl⟩ := List.eq_nil_or_concat after
  · obtain ⟨-, hlast⟩ := List.append_inj' hsplit rfl
    exact hdelete name (List.cons.inj hlast).1
  · rw [List.concat_eq_append, ← List.cons_append, ← List.append_assoc] at hsplit
    obtain ⟨hbefore, hlast⟩ := List.append_inj' hsplit rfl
    obtain ⟨rfl, -⟩ := List.cons.inj hlast
    have hstate := hnext _ _ (h.2 before name rest hbefore)
    rw [hstate, List.concat_eq_append, Access.held, Access.held, List.foldl_append]
    rfl

/-- An assignment to the object is followed by its slots. -/
theorem assign (h : s.Follows (.created index) accesses) (name : String) (value : ScriptValue)
    (strict : Bool) :
    (E.assign s (.created index) name value strict).Follows (.created index)
      (accesses ++ [.assign name value]) := by
  have hobject := isSome_of_isHostObject h.1
  obtain ⟨t, hkeeps, hassign⟩ := Engine.assign_eq (E := E) hobject name value strict
  refine h.snoc _ ?_ (fun _ heq => nomatch heq) fun key held hslot => ?_
  · obtain hassign | ⟨d, hassign⟩ := hassign
    · rw [hassign]
      exact hkeeps.1
    · rw [hassign, sort?_modifySlots]
      exact hkeeps.1
  · -- the slot that was assigned to, and the others
    by_cases hname : Name.normalize name = key
    · subst hname
      exact Engine.state_assign h.1 hslot value strict
    · simp only [Access.next, if_neg hname]
      obtain hassign | ⟨d, hassign⟩ := hassign
      · rw [hassign]
        exact hkeeps.2 key _ hslot
      · rw [hassign]
        exact state_setLive_of_ne (hkeeps.2 key _ hslot) (Ne.symm hname) d

/-- A deletion on the object is followed by its slots. -/
theorem delete (h : s.Follows id accesses) (name : String) :
    (s.modifySlots id (·.markDeleted (Name.normalize name))).Follows id
      (accesses ++ [.delete name]) := by
  have hobject := isSome_of_isHostObject h.1
  refine h.snoc _ (s.sort?_modifySlots _ _ _) ?_ fun key held hslot => ?_
  · rintro _ ⟨⟩
    rw [slots_modifySlots_self s _ hobject, SlotTable.state_markDeleted]
  · rw [slots_modifySlots_self s _ hobject, Access.next]
    -- the slot that was deleted, and the others
    by_cases hname : Name.normalize name = key
    · rw [if_pos hname, hname, SlotTable.state_markDeleted]
      rfl
    · rw [if_neg hname, SlotTable.state_markDeleted_of_ne _ (Ne.symm hname)]
      exact hslot

/-- A definition on the object is followed by its slots, under exactly its name. -/
theorem define (h : s.Follows id accesses) (name : String) (value : ScriptValue) (flags : Flags) :
    (s.modifySlots id (·.setLive name (.data value flags))).Follows id
      (accesses ++ [.define name value flags]) := by
  have hobject := isSome_of_isHostObject h.1
  refine h.snoc _ (s.sort?_modifySlots _ _ _) (fun _ heq => nomatch heq) fun key held hslot => ?_
  rw [Access.next]
  by_cases hname : name = key
  · subst hname
    rw [if_pos rfl]
    exact state_setLive_self hobject _
  · rw [if_neg hname]
    exact state_setLive_of_ne hslot (Ne.symm hname) _

end Store.Follows

end Membrane
