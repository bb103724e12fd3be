import Membrane.Proofs.Jobs
import Membrane.Proofs.LazyBinding
import Membrane.Proofs.Severance

/-!
# Refused writes leave no trace

A write to a wrapper or type reference can fail, or be ignored, before anything is handed to the
host (`Engine.Refuses`): the value or the key of an element cannot be converted, what is found is
read-only, or nothing is found. Such a write has then done what a lookup does, and no more
(`Realm.put_of_refuses`). It has run no closure, and whatever is done with the engine later ends as
it does without it, for lookups do not show (`Engine.refused_write_unnoticed`).

What a lookup does is to bind a slot early, which the list of own names shows, and nothing else.
-/

namespace Membrane

open Store Action

/-! ### Shadows -/

/-- The value that hides a host property. -/
def Descriptor.shadow? (s : Store) : Descriptor → Option ScriptValue
  | .property _ _ shadow => shadow
  | .sharedProperty _ _ cell => s.heap.cell cell
  | _ => none

/-- The value that hides the host property in a slot. -/
def Store.shadow? (s : Store) (id : ObjectId) (key : String) : Option ScriptValue :=
  ((s.slots id).get? key).bind (·.shadow? s)

/-- What the first request binds is not hidden. -/
theorem Registry.shadow?_of_foresee {types : Registry} {index : Nat} {key : String}
    {sort : ObjectSort} {d : Descriptor} {f : Option ScriptObject}
    (h : types.foresee index key sort = some (d, f)) (s : Store) : d.shadow? s = none := by
  -- a property is bound without a value that hides it
  cases sort with
  | wrapper target =>
    simp only [foresee] at h
    cases hmember : types.resolve target.type key .onInstance <;> rw [hmember] at h <;>
      cases h <;> rfl
  | typeReference type =>
    simp only [foresee] at h
    cases hmember : types.resolve type key .onType <;> rw [hmember] at h <;> cases h <;> rfl
  | _ => cases h

/-- Lookups hide nothing, and bring nothing to light. -/
theorem Store.Ahead.shadow? {types : Registry} {s t : Store} (h : s.Ahead types t) {id : ObjectId}
    (hid : id.GroundedIn s) (key : String) : t.shadow? id key = s.shadow? id key := by
  have hcells : Descriptor.shadow? t = Descriptor.shadow? s := by
    funext d
    cases d <;> first | rfl | exact h.cell _
  unfold Store.shadow? SlotTable.get?
  obtain hsame | ⟨hunset, index, sort, d, f, -, -, hforesee, hlive, -⟩ := h.state hid key
  · rw [hsame, hcells]
  · rw [hunset, hlive]
    exact Registry.shadow?_of_foresee hforesee t

/-! ### Refused writes -/

/-- What is found under a name of an object, unless it is marked as absent. -/
def Engine.known (E : Engine) (s : Store) (id : ObjectId) (name : String) : Option Handle :=
  (E.ownProperty s id name).1.filter (!·.descriptor.isAbsent)

/-- A deleted name denotes nothing. -/
theorem Engine.known_of_deleted {E : Engine} {s : Store} {id : ObjectId} {name : String}
    (hhost : s.isHostObject id) (hdeleted : (s.slots id).isDeleted (Name.normalize name)) :
    E.known s id name = none := by
  rw [known, ownProperty_of_state hhost (SlotTable.state_of_isDeleted hdeleted)]
  rfl

/-- This outcome of a write to a host object refuses the write: it is an error of the engine's own,
or the write was ignored, because what the name denotes is read-only or because it denotes nothing
and the engine adds no members. A deleted name is none that denotes nothing: it takes any value. -/
inductive Engine.Refuses (E : Engine) (s : Store) (id : ObjectId) (name : String) :
    Outcome BridgeError Unit → Prop where
  | unconvertible (cause : ConversionError) : Refuses E s id name (.error (.conversion cause))
  | readOnly (name' : String) : Refuses E s id name (.error (.invocation (.readOnly name')))
  | unknown (name' : String) : Refuses E s id name (.error (.invocation (.unknownMember name')))
  | readOnlyIgnored {h} (hknown : E.known s id name = some h)
      (hreadOnly : h.descriptor.isWritable = false) : Refuses E s id name (.ok ())
  | unknownIgnored (hlive : (s.slots id).isDeleted (Name.normalize name) = false)
      (hknown : E.known s id name = none) (hexpando : E.options.expando = false) :
      Refuses E s id name (.ok ())

namespace Engine.Refuses

variable {E : Engine} {s : Store} {id : ObjectId} {name : String}
  {outcome : Outcome BridgeError Unit}

/-- What is known refuses a value with an error that is none of host code, or because it is
read-only. -/
theorem of_known (h : E.Refuses s id name outcome) {handle : Handle}
    (hknown : E.known s id name = some handle) :
    (∃ e, outcome = .error e ∧ ∀ cause, e ≠ .host cause) ∨
      handle.descriptor.isWritable = false := by
  -- an outcome that ignores the write is no error, and speaks of the handle
  cases h with
  | unconvertible cause => exact .inl ⟨_, rfl, fun _ h => nomatch h⟩
  | readOnly name' => exact .inl ⟨_, rfl, fun _ h => nomatch h⟩
  | unknown name' => exact .inl ⟨_, rfl, fun _ h => nomatch h⟩
  | readOnlyIgnored hfound hreadOnly =>
    rw [hknown] at hfound
    cases hfound
    exact .inr hreadOnly
  | unknownIgnored _ hnone _ =>
    rw [hknown] at hnone
    cases hnone

/-- An unknown name is ignored by engines that add no members. -/
theorem of_unknown (h : E.Refuses s id name (.ok ())) (hknown : E.known s id name = none) :
    E.options.expando = false := by
  cases h with
  | readOnlyIgnored hfound _ =>
    rw [hknown] at hfound
    cases hfound
  | unknownIgnored _ _ hexpando => exact hexpando

/-- A deleted name is not refused a value. -/
theorem not_of_deleted (hhost : s.isHostObject id)
    (hdeleted : (s.slots id).isDeleted (Name.normalize name)) : ¬ E.Refuses s id name (.ok ()) := by
  rintro (_ | _ | _ | ⟨hknown, -⟩ | ⟨hlive, -, -⟩)
  · rw [known_of_deleted hhost hdeleted] at hknown
    cases hknown
  · rw [hdeleted] at hlive
    cases hlive

end Engine.Refuses

namespace Realm

variable {R : Realm} {s t : Store} {id : ObjectId} {name : String} {d : Descriptor}
  {value : ScriptValue} {e : BridgeError}

/-- An error of host code is the only one that it ends in. -/
private theorem guarded_eq_error {act : Action HostError Unit} {u : Store}
    (h : guarded act u = (.error e, t)) (he : ∀ cause, e ≠ .host cause) : False := by
  obtain ⟨cause, -, rfl⟩ := mapError_eq_error h
  exact he cause rfl

/-- A write to a property fails with errors of host code only: other values hide it. -/
private theorem writeProperty_eq_error {member : Property} {target : Option HostRef}
    {shadow : Option ScriptValue}
    (h : R.writeProperty member target shadow value s = (.error e, t))
    (he : ∀ cause, e ≠ .host cause) : False := by
  unfold writeProperty at h
  cases hset : member.set with
  | none => rw [hset] at h; cases h
  | some set =>
    rw [hset] at h
    -- a failed conversion hides the property, and the setter fails as the host only
    obtain hrefused | ⟨r, u, -, hnext⟩ := bind_eq_error h
    · exact capture_ne_error _ _ _ (congrArg Prod.fst hrefused)
    · cases r with
      | error cause => cases hnext
      | ok v =>
        obtain hbody | ⟨_, _, -, hdone⟩ := bind_eq_error hnext
        · exact guarded_eq_error hbody he
        · cases hdone

/-- An error of a write that is none of host code comes before host code is run. -/
theorem write_eq_error (h : R.write d value s = (.error e, t)) (he : ∀ cause, e ≠ .host cause) :
    t = s ∧ ∀ job, ¬ R.WritesBy value s d job := by
  -- a value that is not converted, and the setter that would get it
  have hconversion {target : TypeId}
      (h : (R.convertTo value target).mapError BridgeError.conversion s = (.error e, t)) :
      t = s ∧ ∀ v, R.convertTo value target s ≠ (.ok v, s) := by
    obtain ⟨cause, hcause, -⟩ := mapError_eq_error h
    refine ⟨?_, fun v hv => ?_⟩
    · rw [← R.store_convertTo value target s, hcause]
    · rw [hv] at hcause
      cases hcause
  cases d with
  | data v flags => cases h
  | accessor get flags => cases h
  | count target => cases h
  | absent => cases h
  | field member target =>
    cases hset : member.set with
    | none => simp only [write, hset] at h; cases h
    | some set =>
      simp only [write, hset] at h
      obtain hrefused | ⟨v, u, -, hnext⟩ := bind_eq_error h
      · obtain ⟨hstore, hnone⟩ := hconversion hrefused
        refine ⟨hstore, ?_⟩
        rintro job (⟨-, hvalue⟩ | _ | _ | _)
        exact hnone _ hvalue
      · obtain hbody | ⟨_, _, -, hdone⟩ := bind_eq_error hnext
        · exact (guarded_eq_error hbody he).elim
        · cases hdone
  | property member target shadow =>
    obtain hproperty | ⟨_, _, -, hdone⟩ := bind_eq_error h
    · exact (writeProperty_eq_error hproperty he).elim
    · cases hdone
  | sharedData cell flags => cases h
  | sharedProperty member target cell =>
    obtain hlook | ⟨_, _, hlook, hnext⟩ := bind_eq_error h
    · cases hlook
    · cases hlook
      obtain hproperty | ⟨_, _, -, hdone⟩ := bind_eq_error hnext
      · exact (writeProperty_eq_error hproperty he).elim
      · cases hdone
  | index member target key =>
    cases hset : member.set with
    | none => simp only [write, hset] at h; cases h
    | some set =>
      simp only [write, hset] at h
      cases hkey : R.indexKey member key with
      | error cause =>
        rw [hkey] at h
        cases h
        refine ⟨rfl, ?_⟩
        rintro job (_ | _ | _ | ⟨-, hindex, -⟩)
        rw [hkey] at hindex
        cases hindex
      | ok k =>
        rw [hkey] at h
        simp only [ofExcept_mapError_ok, pure_bind] at h
        obtain hrefused | ⟨v, u, -, hnext⟩ := bind_eq_error h
        · obtain ⟨hstore, hnone⟩ := hconversion hrefused
          refine ⟨hstore, ?_⟩
          rintro job (_ | _ | _ | ⟨-, -, hvalue⟩)
          exact hnone _ hvalue
        · obtain hbody | ⟨_, _, -, hdone⟩ := bind_eq_error hnext
          · exact (guarded_eq_error hbody he).elim
          · cases hdone

/-- A write that fails without the host has changed nothing, and run nothing. -/
theorem writeThrough_eq_error {h : Handle} (herror : R.writeThrough h value s = (.error e, t))
    (he : ∀ cause, e ≠ .host cause) : t = s ∧ ∀ job, ¬ R.WritesBy value s h.descriptor job := by
  obtain hwrite | ⟨d, u, -, hrest⟩ := bind_eq_error herror
  · exact write_eq_error hwrite he
  · -- what comes after the write does not fail
    cases hhome : h.home <;> rw [hhome] at hrest <;> cases hrest

/-- A refused write to what was found did nothing. -/
theorem putThrough_of_refused {h : Handle} (strict : Bool)
    (hrefused :
      (∃ e, (R.putThrough h name value strict s).1 = .error e ∧ ∀ cause, e ≠ .host cause) ∨
        h.descriptor.isWritable = false) :
    (R.putThrough h name value strict s).2 = s ∧
      (h.descriptor.isWritable → ∀ job, ¬ R.WritesBy value s h.descriptor job) := by
  unfold putThrough at hrefused ⊢
  cases hwritable : h.descriptor.isWritable with
  | true =>
    obtain ⟨e, herror, he⟩ | hreadOnly := hrefused
    · rw [if_pos hwritable] at herror
      simp only [if_true]
      obtain hwrite | ⟨_, _, -, hdone⟩ := bind_eq_error (Prod.ext herror rfl)
      · obtain ⟨hstore, hnone⟩ := writeThrough_eq_error hwrite he
        exact ⟨hstore, fun _ => hnone⟩
      · cases hdone
    · rw [hwritable] at hreadOnly
      cases hreadOnly
  -- what cannot be written is not written at all
  | false => cases strict <;> exact ⟨rfl, fun h => nomatch h⟩

/-- A write runs a job by writing to what is known under the name. -/
theorem known_of_runs {job : Job} {u : Store} (h : R.Runs (.setMember id name value) s job u) :
    ∃ handle, R.toEngine.known s id name = some handle ∧ u = R.toEngine.lookedUp id name s ∧
      handle.descriptor.isWritable ∧ R.WritesBy value u handle.descriptor job := by
  cases h with
  | setMember hfound hwritable hwrite =>
    obtain ⟨hknown, rfl⟩ := Prod.mk.inj hfound
    exact ⟨_, Outcome.ok.inj hknown, rfl, hwritable, hwrite⟩

/-- A refused write to what is known under a name, or to an unknown name, did nothing. -/
theorem putFound_of_refuses {strict : Bool} (hrefused : R.toEngine.Refuses s id name
      (R.putFound id name value strict (R.toEngine.known s id name) t).1) :
    (R.putFound id name value strict (R.toEngine.known s id name) t).2 = t ∧
      ∀ handle, R.toEngine.known s id name = some handle → handle.descriptor.isWritable →
        ∀ job, ¬ R.WritesBy value t handle.descriptor job := by
  cases hknown : R.toEngine.known s id name with
  | some handle =>
    rw [hknown] at hrefused
    obtain ⟨hstore, hnone⟩ := putThrough_of_refused (R := R) strict (hrefused.of_known hknown)
    refine ⟨hstore, ?_⟩
    rintro _ ⟨⟩
    exact hnone
  | none =>
    rw [hknown] at hrefused
    refine ⟨?_, fun _ h => nomatch h⟩
    unfold putFound at hrefused ⊢
    cases strict with
    | true => rfl
    | false =>
      cases hexpando : R.options.expando with
      | false => simp only [Bool.false_eq_true, if_false]; rfl
      | true =>
        -- the name would be added
        simp only [hexpando, Bool.false_eq_true, if_false, if_true] at hrefused
        exact absurd (hrefused.of_unknown hknown) (by simp [hexpando])

/-- A refused write did what a lookup does, and has run nothing. -/
theorem put_of_refuses (hhost : s.isHostObject id) {strict : Bool}
    (hrefused : R.toEngine.Refuses s id name (R.put id name value strict s).1) :
    (R.put id name value strict s).2 = R.toEngine.lookedUp id name s ∧
      ∀ job u, ¬ R.Runs (.setMember id name value) s job u := by
  rw [Tracked.put_of_host R hhost] at hrefused ⊢
  -- a deleted name takes any value, so it refuses nothing
  by_cases hdeleted : (s.slots id).isDeleted (Name.normalize name)
  · rw [Tracked.hostPut_of_deleted R value strict hdeleted] at hrefused
    exact absurd hrefused (Engine.Refuses.not_of_deleted hhost hdeleted)
  · have hput : R.hostPut id name value strict s =
        R.putFound id name value strict (R.toEngine.known s id name)
          (R.toEngine.lookedUp id name s) := Tracked.hostPut_of_own R value strict hdeleted
    rw [hput] at hrefused ⊢
    obtain ⟨hstore, hnone⟩ := putFound_of_refuses hrefused
    refine ⟨hstore, fun job u hruns => ?_⟩
    obtain ⟨handle, hknown, rfl, hwritable, hwrite⟩ := known_of_runs hruns
    exact hnone handle hknown hwritable job hwrite

end Realm

/-! ### What is done later -/

/-- What is done with an engine: a move, what a program of host or script does, the request for an
own property, or one for its descriptor, which moves can define elsewhere. -/
inductive Operation where
  | move (move : Move)
  | run {y : Yield} (program : Program y)
  | own (id : ObjectId) (name : String)
  | handOut (id : ObjectId) (name : String)

namespace Operation

/-- How an operation can end. -/
@[reducible] def Result : Operation → Type
  | .move m => Outcome BridgeError m.Answer
  | @run y _ => Outcome y.Failure y.Result
  | .own .. => Option Handle
  | .handOut .. => Option Descriptor

/-- What an operation gives, and the store that it leaves. -/
def perform (R : Realm) : (operation : Operation) → Store → operation.Result × Store
  | .move m, s => m.take R s
  | .run p, s => R.run p s
  | .own id name, s => R.toEngine.ownProperty s id name
  | .handOut id name, s => R.toEngine.handOut s id name

/-- The operation refers to no function for host methods that is still to be made. -/
def GroundedIn (s : Store) : Operation → Prop
  | .move (.enter hook) => hook.GroundedIn s
  | .move (.define id _ d) => id.GroundedIn s ∧ d.GroundedIn s
  | .run p => p.GroundedIn s
  | .own id _ | .handOut id _ => id.GroundedIn s

/-- An operation ends alike on a store and on one that is ahead. -/
theorem perform_ahead {R : Realm} (hR : R.Transparent) {s t : Store} (h : s.Ahead R.types t)
    {operation : Operation} (hoperation : operation.GroundedIn s) :
    (operation.perform R s).1 = (operation.perform R t).1 ∧
      Onward R.types s (operation.perform R s).2 (operation.perform R t).2 := by
  cases operation with
  | move m =>
    -- an entry or a definition
    cases m with
    | enter hook =>
      have hsteady := hR.perform_steady h hoperation
      exact ⟨hsteady.same, hsteady.onward⟩
    | define id name d =>
      have hsteady := Realm.Transparent.define_steady h hoperation.1 name hoperation.2
      exact ⟨hsteady.same, hsteady.onward⟩
  | run p =>
    have hsteady := hR.run_steady h hoperation
    exact ⟨hsteady.same, hsteady.onward⟩
  | own id name =>
    have hgives := Engine.own_ahead h hoperation name
    exact ⟨hgives.same, hgives.onward⟩
  | handOut id name => exact Engine.handOut_ahead h hoperation name

end Operation

/-- An operation and how it ended. -/
structure Performed where
  operation : Operation
  result : operation.Result

namespace Realm

/-- How operations end, one after the other, and the store at the end of them. -/
def performAll (R : Realm) : List Operation → Store → List Performed × Store
  | [], s => ([], s)
  | operation :: rest, s =>
      let (result, s) := operation.perform R s
      let (others, s) := performAll R rest s
      (⟨operation, result⟩ :: others, s)

/-- No operation refers to a function for host methods that is still to be made when its turn
comes. -/
def GroundedThrough (R : Realm) : List Operation → Store → Prop
  | [], _ => True
  | operation :: rest, s =>
      operation.GroundedIn s ∧ GroundedThrough R rest (operation.perform R s).2

variable {R : Realm} {s t : Store}

/-- Operations one after another give the same in both stores. -/
theorem performAll_ahead (hR : R.Transparent) (h : s.Ahead R.types t)
    {operations : List Operation} (hoperations : R.GroundedThrough operations s) :
    (R.performAll operations s).1 = (R.performAll operations t).1 ∧
      Ahead R.types (R.performAll operations s).2 (R.performAll operations t).2 := by
  induction operations generalizing s t with
  | nil => exact ⟨rfl, h⟩
  | cons operation rest ih =>
    obtain ⟨hfirst, hrest⟩ := hoperations
    obtain ⟨hsame, honward⟩ := operation.perform_ahead hR h hfirst
    obtain ⟨hothers, hahead⟩ := ih honward.ahead hrest
    exact ⟨congrArg₂ List.cons (congrArg (Performed.mk operation) hsame) hothers, hahead⟩

/-- Operations keep a store grounded. -/
theorem grounded_performAll (hR : R.Transparent) (h : s.Grounded R.types)
    {operations : List Operation} (hoperations : R.GroundedThrough operations s) :
    (R.performAll operations s).2.Grounded R.types :=
  (performAll_ahead hR h.ahead_refl hoperations).2.grounded

end Realm

namespace Engine

/-- **A refused write leaves no trace.** A write to a wrapper or type reference that fails with a
conversion error of the engine's own, or because what is found is read-only or nothing is found, or
that is ignored for one of these reasons, has run no closure of the host. The instances with their
storage, the static and global variables and the log are as they were, and so is the value that
hides a property in any slot. Whatever operations follow, each ends as it does without the write.

Neither the store nor the operations refer to functions for host methods that are still to be made;
no store that operations lead to does (`Realm.grounded_performAll`). -/
theorem refused_write_unnoticed (E : Engine) (depth : Nat) {s : Store} (hs : s.Grounded E.types)
    {id : ObjectId} (hhost : s.isHostObject id) {name : String} {value : ScriptValue}
    (hrefused : E.Refuses s id name
      (E.performWithin (depth + 1) (.setMember id name value) s).1) :
    let t := (E.performWithin (depth + 1) (.setMember id name value) s).2
    (∀ job u, ¬ (E.realm depth).Runs (.setMember id name value) s job u) ∧
      (∃ heap cache, t = { s with heap, cache }) ∧
      (∀ other key, (s.object? other).isSome → t.shadow? other key = s.shadow? other key) ∧
      ∀ depth operations, (E.realm depth).GroundedThrough operations s →
        let after := (E.realm depth).performAll operations t
        let plain := (E.realm depth).performAll operations s
        after.1 = plain.1 ∧ ∃ heap cache, after.2 = { plain.2 with heap, cache } := by
  intro t
  obtain ⟨hstore, hnone⟩ := Realm.put_of_refuses (R := E.realm depth) hhost hrefused
  -- all that is left of the write is the lookup
  have hahead : s.Ahead E.types t := by
    have hlooked := lookup_ahead hs.ahead_refl id name
    exact (show t = E.lookedUp id name s from hstore) ▸ hlooked
  refine ⟨hnone, ?_, fun other key hother => ?_, fun depth operations hoperations => ?_⟩
  · obtain ⟨heap, cache, hsame, -⟩ := hahead
    exact ⟨heap, cache, hsame⟩
  · exact hahead.shadow? (ObjectId.groundedIn_of_isSome hother) key
  · obtain ⟨hresults, heap, cache, hsame, -⟩ :=
      Realm.performAll_ahead (E.transparent_realm depth) hahead hoperations
    exact ⟨hresults.symm, heap, cache, hsame⟩

/-- A static field whose bodies note that they are entered. -/
def watchedField : Field :=
  Field.asStatic ⟨"Total", "total", .primitive .bool, false,
    fun target => .ask (.record "get" target []) fun _ => .done (.bool true),
    some fun target v => .ask (.record "set" target [v]) fun _ => .done ()⟩

/-- A type with a field whose setter notes down that it ran. -/
def watchedTypes : Registry := ⟨#[(TypeEntry.make "Tally" .reference).withField watchedField]⟩

/-- Its bodies refer to nothing but what they are given. -/
theorem groundedIn_watchedTypes (s : Store) : watchedTypes.GroundedIn s := by
  intro type e hentry
  have hmember : e ∈ watchedTypes.entries := by
    cases type with
    | declared index => exact Array.mem_of_getElem? hentry
    | _ => cases hentry
  obtain rfl := List.mem_singleton.1 (Array.mem_toList_iff.2 hmember)
  have hbare : (TypeEntry.make "Tally" .reference).GroundedIn s := by
    constructor <;> exact fun _ hmem => nomatch hmem
  -- the field reads and writes a flag of the program, which holds no object
  have hfield : watchedField.GroundedIn s := by
    refine ⟨fun _ => ⟨fun _ hv => (nomatch hv), fun _ _ _ _ => trivial⟩, ?_⟩
    rintro _ ⟨⟩ t hgrows target v hv
    exact ⟨fun w hw => List.mem_singleton.1 hw ▸ hv, fun _ _ _ _ => trivial⟩
  exact { hbare with fields := fun f hf => List.mem_singleton.1 hf ▸ hfield }

/-- A value that cannot be converted, at a static field that is read later. -/
theorem unconvertible_write_unnoticed :
    let E : Engine := ⟨watchedTypes, .default, .byCost⟩
    let tally := ObjectId.created 4
    let s := (Store.initial.typeReference (.declared 0)).2
    let write := E.performWithin 1 (.setMember tally "TOTAL" (.string "many")) s
    let operations : List Operation :=
      [.own tally "total", .move (.enter (.getMember (.object tally) "Total"))]
    s.Grounded E.types ∧ s.isHostObject tally ∧ (E.realm 0).GroundedThrough operations s ∧
      write.1 = .error (.conversion (.parse "many" "bool")) ∧ write.2.calls = s.calls ∧
      ((E.realm 0).performAll operations write.2).1 = ((E.realm 0).performAll operations s).1 := by
  intro E tally s write operations
  have hground : s.Grounded E.types := by
    have hinitial := Store.grounded_initial (groundedIn_watchedTypes .initial)
    exact (hinitial.ahead_refl.typeReference (.declared 0)).onward.ahead.grounded
  have hoperations : (E.realm 0).GroundedThrough operations s := ⟨trivial, trivial, trivial⟩
  have hwrite : write.1 = .error (.conversion (.parse "many" "bool")) := rfl
  have hhost : s.isHostObject tally := rfl
  -- the text is no flag, so the write fails before the setter
  have hrefused : E.Refuses s tally "TOTAL" write.1 := by
    rw [hwrite]
    exact .unconvertible _
  obtain ⟨-, ⟨heap, cache, hstore⟩, -, hlater⟩ :=
    refused_write_unnoticed E 0 hground hhost hrefused
  exact ⟨hground, rfl, hoperations, hwrite, congrArg (·.calls) hstore,
    (hlater 0 operations hoperations).1⟩

end Engine

end Membrane
