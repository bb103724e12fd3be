import Mathlib.Logic.Relation
import Membrane.Proofs.Handles
import Membrane.Proofs.Jobs
import Membrane.Proofs.Reachability

/-!
# What a run can change

A relation between a store and what becomes of it is a *rule* of the engine (`Engine.Rule`) if every
elementary change of a store keeps to it, and one change after another. Then everything that the
engine does keeps to it, whichever way it ends: every program (`Realm.Rule.run_keeps`), every entry
(`Engine.Rule.performWithin_keeps`), and every entry as far as each job that it runs
(`Realm.Rule.runs_keeps`).

Two changes are made with something in between that can change the store in turn, so a rule speaks of
what is done as a whole. An instance is held from before the hold to after the release, and what a
write makes of a descriptor is put back into the slot that the descriptor was found in before.

A rule may leave out the deletion of slots that `spared` names. It then holds as far as none of them is
deleted, by whatever an entry does through further entries (`Engine.sparing`). A history that deletes
none of them goes from turn to turn (`Engine.Becomes`), and keeps to every rule (`Engine.Rule.becomes`);
inside an entry that happens in it, every point does (`Engine.Rule.inside`).
-/

namespace Membrane

namespace Action

variable {ε ε' α β : Type} {T : Store → Store → Prop}

/-- However the action ends, it changes the store in a way that `T` allows. -/
def Keeps (T : Store → Store → Prop) (act : Action ε α) : Prop := ∀ s, T s (act s).2

/-- The change that a known run of the action makes. -/
theorem Keeps.of_eq {act : Action ε α} (h : act.Keeps T) {s t : Store} {outcome : Outcome ε α}
    (hrun : act s = (outcome, t)) : T s t := by
  have hkeeps := h s
  rwa [hrun] at hkeeps

/-- What maps the store changes it the way the map does. -/
theorem keeps_modify {f : Store → Store} (h : ∀ s, T s (f s)) :
    (modify f : Action ε Unit).Keeps T := h

/-- Another error leaves the change as it is. -/
theorem Keeps.mapError {act : Action ε α} (h : act.Keeps T) (f : ε → ε') :
    (act.mapError f).Keeps T := by
  intro s
  have hact := h s
  unfold Action.mapError
  generalize act s = r at hact
  obtain ⟨outcome, t⟩ := r
  cases outcome <;> exact hact

/-- So does an error that is taken as a result. -/
theorem Keeps.capture {act : Action ε α} (h : act.Keeps T) :
    (act.capture : Action ε' (Except ε α)).Keeps T := by
  intro s
  have hact := h s
  rw [capture_apply]
  generalize act s = r at hact
  obtain ⟨outcome, t⟩ := r
  cases outcome <;> exact hact

/-- And so does a panic that is taken as an error. -/
theorem Keeps.contained {act : Action HostError α} (h : act.Keeps T) : act.contained.Keeps T := by
  intro s
  have hact := h s
  unfold Action.contained
  generalize act s = r at hact
  obtain ⟨outcome, t⟩ := r
  cases outcome <;> exact hact

end Action

/-- A write can make the second descriptor of the first one: another value, or the same binding of a
property, hidden by a value or not. -/
inductive Descriptor.WrittenAs : Descriptor → Descriptor → Prop where
  | same (d : Descriptor) : WrittenAs d d
  | value (v v' : ScriptValue) (flags : Flags) : WrittenAs (.data v flags) (.data v' flags)
  | shadow (member : Property) (target : Option HostRef) (shadow shadow' : Option ScriptValue) :
      WrittenAs (.property member target shadow) (.property member target shadow')

/-- The deletion of a slot that `spared` names. -/
def Hook.deletes (spared : ObjectId → String → Bool) : Hook → Bool
  | .deleteMember base name => spared base (Name.normalize name)
  | _ => false

namespace Engine

/-- No slot at all. -/
def noSlot : ObjectId → String → Bool := fun _ _ => false

/-- An entry into the engine that comes to its end where a slot that `spared` names is to be deleted,
further entries included. -/
def sparingWithin (E : Engine) (spared : ObjectId → String → Bool) : Nat → (hook : Hook) →
    Action BridgeError hook.Answer
  | 0, _ => Action.exhausted
  | depth + 1, hook =>
      if hook.deletes spared then Action.exhausted
      else Realm.perform ⟨E, sparingWithin E spared depth⟩ hook

/-- The engine as far as it deletes none of the slots that `spared` names. -/
def sparing (E : Engine) (spared : ObjectId → String → Bool) (depth : Nat) : Realm :=
  ⟨E, E.sparingWithin spared depth⟩

/-- Where no slot is named, nothing is cut short. -/
theorem sparingWithin_noSlot (E : Engine) (depth : Nat) (hook : Hook) :
    E.sparingWithin noSlot depth hook = E.performWithin depth hook := by
  -- on the depth: the engine that entries go through is the one of the level below
  induction depth generalizing hook with
  | zero => rfl
  | succ depth ih =>
    have hdeletes : hook.deletes noSlot = false := by cases hook <;> rfl
    have hrealm : (⟨E, E.sparingWithin noSlot depth⟩ : Realm) = ⟨E, E.performWithin depth⟩ :=
      congrArg (Realm.mk E) (funext ih)
    rw [sparingWithin, if_neg (Bool.eq_false_iff.1 hdeletes), hrealm]
    rfl

/-- The engine that spares no slot is the engine at work. -/
theorem sparing_noSlot (E : Engine) (depth : Nat) : E.sparing noSlot depth = E.realm depth :=
  congrArg (Realm.mk E) (funext (E.sparingWithin_noSlot depth))

end Engine

/-- A relation between a store and what becomes of it that every elementary change of the objects keeps
to, except for the deletion of slots that `spared` names. -/
structure Engine.ObjectRule (spared : ObjectId → String → Bool) (T : Store → Store → Prop)
    (E : Engine) : Prop where
  trans : ∀ s t u, T s t → T t u → T s u
  -- making objects, and looking a property up, which may bind a member
  newObject : ∀ s prototype, T s (s.newObject prototype).2
  newArray : ∀ s elements, T s (s.newArray elements).2
  newFunction : ∀ s name body, T s (s.newFunction name body).2
  wrap : ∀ s ref, T s (s.wrap E.types ref).2
  typeReference : ∀ s type, T s (s.typeReference type).2
  own : ∀ s id name, T s (E.ownProperty s id name).2
  -- writes: a plain value goes where no host member stands, anything else back to where it was
  -- found
  plain : ∀ s id key value,
    (s.isHostObject id → ∀ d, (s.slots id).get? key = some d → d.isAbsent) →
    T s (s.modifySlots id (·.setLive key (.plain value)))
  written : ∀ s t id name handle owner key d, (E.ownProperty s id name).1 = some handle →
    handle.home = some (owner, key) → handle.descriptor.isWritable → handle.descriptor.WrittenAs d →
    T (E.ownProperty s id name).2 t → T s (t.putBack owner key d)
  -- definitions, and the cells through which a handle that is handed out is shared
  define : ∀ s id name d, s.referencedType? id = none → E.types.HandsOut d →
    T s (s.modifySlots id (·.setLive name d))
  addCell : ∀ s contents, T s (s.addCell contents).2
  setCell : ∀ s cell contents, T s (s.setCell cell contents)
  shared : ∀ s t id name handle owner key cell d contents,
    (E.ownProperty s id name).1 = some handle → handle.home = some (owner, key) →
    handle.descriptor.sharedIn cell = some (d, contents) →
    t = ((E.ownProperty s id name).2.addCell contents).2 →
    T s (t.modifySlots owner (·.setLive key d))
  -- deletes: host objects keep a mark, and a spared name is not deleted
  remove : ∀ s id name, ¬ s.isHostObject id → T s (s.modifySlots id (·.remove name))
  delete : ∀ s id key, s.isHostObject id → spared id key = false →
    T s (s.modifySlots id (·.markDeleted key))
  elements : ∀ s id elements, (s.elements? id).isSome → T s (s.setElements id elements)

/-- A relation that every elementary change of the store keeps to, except for the deletion of slots that
`spared` names. -/
structure Engine.Rule (spared : ObjectId → String → Bool) (T : Store → Store → Prop) (E : Engine) :
    Prop extends E.ObjectRule spared T where
  refl : ∀ s, T s s
  newInstance : ∀ s type storage, T s (s.newInstance type storage).2
  restore : ∀ s id storage, T s (s.modifyInstance id fun i => { i with storage })
  holding : ∀ s t ref layout mode i, s.borrow E.types ref layout mode = .ok i →
    T (s.acquire ref.id mode) t → T s (t.release ref.id mode)
  writeStatic : ∀ s key v, T s (s.writeStatic key v)
  record : ∀ s label this args, T s (s.record E.types label this args)

/-- What leaves the objects and the cache alone keeps to a relation that looks at nothing else. -/
theorem Engine.ObjectRule.rule {spared : ObjectId → String → Bool} {T : Store → Store → Prop}
    {E : Engine} (h : E.ObjectRule spared T)
    (hapart : ∀ s t : Store, t.heap = s.heap → t.cache = s.cache → T s t) : E.Rule spared T :=
  { h with
    refl := fun s => hapart s s rfl rfl
    newInstance := fun s _ _ => hapart s _ rfl rfl
    restore := fun s _ _ => hapart s _ rfl rfl
    holding := fun s t ref _ mode _ _ hT => by
      have hheld := hapart s (s.acquire ref.id mode) rfl rfl
      exact h.trans _ _ _ (h.trans _ _ _ hheld hT) (hapart t _ rfl rfl)
    writeStatic := fun s _ _ => hapart s _ rfl rfl
    record := fun s _ _ _ => hapart s _ rfl rfl }

/-- A rule of the engine that its way back into it keeps to as well. -/
structure Realm.Rule (spared : ObjectId → String → Bool) (T : Store → Store → Prop) (R : Realm) :
    Prop extends R.toEngine.Rule spared T where
  enter : ∀ hook, (R.enter hook).Keeps T

namespace Realm.Rule

open Action

variable {spared : ObjectId → String → Bool} {T : Store → Store → Prop} {R : Realm}
  {ε ε' α β : Type}

/-! ### Sequences -/

/-- A result at once. -/
theorem keeps_pure (h : R.Rule spared T) (a : α) : (pure a : Action ε α).Keeps T := h.refl

/-- A failure at once. -/
theorem keeps_throw (h : R.Rule spared T) (e : ε) : (throw e : Action ε α).Keeps T := h.refl

/-- The store itself is read. -/
theorem keeps_getStore (h : R.Rule spared T) : (getStore : Action ε Store).Keeps T := h.refl

/-- A look at the store. -/
theorem keeps_read (h : R.Rule spared T) (f : Store → α) :
    Keeps T (fun s => (.ok (f s), s) : Action ε α) := h.refl

/-- An outcome that is known already. -/
theorem keeps_ofExcept (h : R.Rule spared T) (r : Except ε α) : (ofExcept r).Keeps T := by
  cases r with
  | ok a => exact h.keeps_pure a
  | error e => exact h.keeps_throw e

/-- A result that is known already, or none at all. -/
theorem keeps_ofOption (h : R.Rule spared T) (r : Option α) : (ofOption r : Action ε α).Keeps T := by
  cases r with
  | some a => exact h.keeps_pure a
  | none => exact h.refl

/-- One action after another. -/
theorem keeps_bind (h : R.Rule spared T) {act : Action ε α} {next : α → Action ε β} (hact : act.Keeps T)
    (hnext : ∀ a, (next a).Keeps T) : (act >>= next).Keeps T := by
  intro s
  have hfirst := hact s
  -- the first part keeps to the rule also where the second is never come to
  rw [bind_apply]
  generalize act s = r at hfirst
  obtain ⟨outcome, t⟩ := r
  cases outcome with
  | ok a => exact h.trans s t _ hfirst (hnext a t)
  | error e => exact hfirst
  | panicked payload => exact hfirst
  | exhausted => exact hfirst

/-- One action for each entry of a list. -/
theorem keeps_mapM (h : R.Rule spared T) {ι : Type} {f : ι → Action ε α} (hf : ∀ i, (f i).Keeps T)
    (l : List ι) : (l.mapM f).Keeps T := by
  induction l with
  | nil => exact h.keeps_pure []
  | cons i rest ih =>
    rw [List.mapM_cons]
    exact h.keeps_bind (hf i) fun a => h.keeps_bind ih fun others => h.keeps_pure (a :: others)

/-! ### New objects -/

mutual

/-- A host value made visible: a wrapper for each object in it, and an array for each of its arrays.
-/
private theorem fromHost (h : R.Rule spared T) (s : Store) :
    ∀ v : HostValue, T s (s.fromHost R.types v).2
  -- only an object, a type and an array make anything new
  | .undefined | .null | .bool _ | .integer .. | .float _ | .double _ | .string _ | .constant ..
  | .script _ => by unfold Store.fromHost; exact h.refl s
  | .object ref => by unfold Store.fromHost; exact h.wrap s ref
  | .hostType type => by unfold Store.fromHost; exact h.typeReference s type
  | .array _ items => by
    unfold Store.fromHost
    exact h.trans _ _ _ (fromHostAll h s items) (h.newArray _ _)

/-- The entries of an array, in their order. -/
private theorem fromHostAll (h : R.Rule spared T) (s : Store) :
    ∀ vs : List HostValue, T s (s.fromHostAll R.types vs).2
  | [] => by unfold Store.fromHostAll; exact h.refl s
  | v :: rest => by
    unfold Store.fromHostAll
    exact h.trans _ _ _ (fromHost h s v) (fromHostAll h _ rest)

end

/-- A host value made visible to scripts. -/
theorem fromHost_keeps (h : R.Rule spared T) (v : HostValue) :
    (R.fromHost v : Action ε ScriptValue).Keeps T :=
  fun s => h.fromHost s v

/-! ### Programs -/

/-- A conversion to a host type looks at the store only. -/
theorem convertTo_keeps (h : R.Rule spared T) (v : ScriptValue) (target : TypeId) :
    (R.convertTo v target).Keeps T :=
  h.keeps_bind h.keeps_getStore fun _ => h.keeps_bind (h.keeps_ofOption _) h.keeps_ofExcept

/-- So does the conversion of a value as a whole. -/
private theorem toHost_keeps (h : R.Rule spared T) (v : ScriptValue) (target : Option TypeId) :
    (R.toHost v target).Keeps T :=
  h.keeps_bind h.keeps_getStore fun _ => h.keeps_bind (h.keeps_ofOption _) h.keeps_ofExcept

/-- A look at the contents of an instance. -/
private theorem peek_keeps (h : R.Rule spared T) (ref : HostRef) (layout : String) :
    (R.peek ref layout).Keeps T :=
  h.keeps_bind h.keeps_getStore fun _ =>
    h.keeps_bind (h.keeps_ofExcept _) fun i => h.keeps_pure i.storage

/-- A change of the contents of an instance. -/
private theorem update_keeps (h : R.Rule spared T) (ref : HostRef) (layout : String)
    (change : Storage → Except HostError Storage) : (R.update ref layout change).Keeps T := by
  refine h.keeps_bind h.keeps_getStore fun _ => h.keeps_bind (h.keeps_ofExcept _) fun i => ?_
  refine h.keeps_bind (h.keeps_ofExcept _) fun storage => ?_
  exact keeps_modify fun s => h.restore s ref.id storage

/-- What is done while an instance is held, with the hold and its release. -/
theorem holding_keeps (h : R.Rule spared T) (ref : HostRef) (layout : String) (mode : BorrowMode)
    {act : Action HostError α} (hact : act.Keeps T) :
    (R.holding ref layout mode act).Keeps T := by
  intro s
  unfold Realm.holding
  cases hborrow : s.borrow R.types ref layout mode with
  | error e => exact h.refl s
  | ok i =>
    -- the store with the mark need not keep to the rule, so the part is taken as a whole
    exact h.holding s _ ref layout mode i hborrow (hact _)

/-- The answer to whatever a program asks. -/
theorem answer_keeps (h : R.Rule spared T) (query : Query) :
    (R.answer query : Action ε query.Answer).Keeps T := by
  -- by the query: what it makes or changes is a case of the rule, what it reads changes nothing
  cases query with
  | enter hook => exact (h.enter hook).capture
  | fromHost v => exact h.fromHost_keeps v
  | toHost v target => exact (h.toHost_keeps v target).capture
  | convertTo v target => exact (h.convertTo_keeps v target).capture
  | coerce v target => exact h.keeps_pure _
  | extract c v => exact h.keeps_pure _
  | newObject prototype => exact fun s => h.newObject s prototype
  | newArray elements => exact fun s => h.newArray s elements
  | wrap ref => exact fun s => h.wrap s ref
  | typeReference type => exact fun s => h.typeReference s type
  | newInstance type storage => exact fun s => h.newInstance s type storage
  | hostTarget v => exact h.keeps_read fun s => v.object?.bind s.hostTarget?
  | describe v => exact h.keeps_read fun s => s.describe R.types v
  | global name => exact h.keeps_read fun s => s.global name
  | peek ref layout => exact (h.peek_keeps ref layout).capture
  | update ref layout change => exact (h.update_keeps ref layout change).capture
  | readStatic key => exact h.keeps_read fun s => s.readStatic key
  | writeStatic key v => exact fun s => h.writeStatic s key v
  | record label this args => exact fun s => h.record s label this args

/-- However a program ends, it keeps to the rule. -/
theorem run_keeps (h : R.Rule spared T) {y : Yield} (p : Program y) : (R.run p).Keeps T := by
  -- what is inside a hold is a program of its own, with its own hypothesis
  induction p with
  | done result => exact h.keeps_pure result
  | fail cause => exact h.keeps_throw cause
  | panic payload => exact h.refl
  | ask query next ih => exact h.keeps_bind (h.answer_keeps query) ih
  | hold ref layout mode inside next ihInside ih =>
    exact h.keeps_bind (h.holding_keeps ref layout mode ihInside).capture ih
  | makeFunction name body next _ ih => exact h.keeps_bind (fun s => h.newFunction s name body) ih

/-- What is done behind the guard of host code. -/
theorem guarded_keeps {act : Action HostError α} (hact : act.Keeps T) : (guarded act).Keeps T :=
  hact.contained.mapError BridgeError.host

/-! ### Calls -/

/-- The arguments of a call, those made by default included. -/
theorem convertArguments_keeps (h : R.Rule spared T) (position : Nat) (params : List Parameter)
    (args : List ScriptValue) : (R.convertArguments position params args).Keeps T := by
  induction params generalizing position args with
  | nil => exact h.keeps_pure []
  | cons p params ih =>
    -- an argument is converted, a parameter without one runs the default if it has any
    cases args with
    | cons arg args =>
      refine h.keeps_bind ((h.convertTo_keeps arg p.type).mapError BridgeError.conversion)
        fun first => ?_
      exact h.keeps_bind (ih (position + 1) args) fun others => h.keeps_pure (first :: others)
    | nil =>
      have hrest (first : HostValue) : (do
          let others ← R.convertArguments (position + 1) params []
          return first :: others).Keeps T :=
        h.keeps_bind (ih (position + 1) []) fun others => h.keeps_pure (first :: others)
      simp only [convertArguments]
      cases p.default with
      | none => exact h.keeps_bind (h.keeps_throw _) hrest
      | some default => exact h.keeps_bind ((h.run_keeps default).mapError BridgeError.host) hrest

/-- The attempts that fail change the store like the one that does not. -/
theorem firstSuccess_keeps (h : R.Rule spared T) {ι : Type} {attempt : ι → Action BridgeError α}
    (hattempt : ∀ i, (attempt i).Keeps T) (l : List ι) : (firstSuccess attempt l).Keeps T := by
  induction l with
  | nil => exact h.keeps_pure none
  | cons i rest ih =>
    refine h.keeps_bind (hattempt i).capture fun r => ?_
    cases r with
    | ok a => exact h.keeps_pure (some a)
    | error e => exact ih

/-- What a call makes of the attempt that succeeded, if any did. -/
private theorem settle_keeps (h : R.Rule spared T) {finish : α → Action BridgeError ScriptValue}
    (hfinish : ∀ a, (finish a).Keeps T) (refusal : InvocationError) (found : Option α) :
    (settle finish refusal found).Keeps T := by
  cases found with
  | some a => exact hfinish a
  | none => exact h.keeps_throw _

/-- An attempt at a method. -/
theorem tryCandidate_keeps (h : R.Rule spared T) (this : Option HostRef) (args : List ScriptValue)
    (candidate : Candidate .value) : (R.tryCandidate this args candidate).Keeps T :=
  h.keeps_bind (h.convertArguments_keeps 0 candidate.params args) fun converted =>
    guarded_keeps (h.run_keeps (candidate.body ⟨this, converted⟩))

/-- An attempt at a constructor. -/
theorem tryConstructor_keeps (h : R.Rule spared T) (args : List ScriptValue)
    (candidate : Candidate .storage) : (R.tryConstructor args candidate).Keeps T :=
  h.keeps_bind (h.convertArguments_keeps 0 candidate.params args) fun converted =>
    guarded_keeps (h.run_keeps (candidate.body ⟨none, converted⟩))

/-- A call of a group of methods. -/
private theorem callMethods_keeps (h : R.Rule spared T) (group : MethodGroup) (target : Option HostRef)
    (args : List ScriptValue) : (R.callMethods group target args).Keeps T := by
  refine h.keeps_bind h.keeps_getStore fun s => ?_
  refine h.keeps_bind (h.firstSuccess_keeps (h.tryCandidate_keeps target args) _) fun found => ?_
  exact h.settle_keeps h.fromHost_keeps _ found

/-- The value that a type has by default. -/
private theorem defaultValue_keeps (h : R.Rule spared T) (type : TypeId) :
    (R.defaultValue type).Keeps T := by
  unfold Realm.defaultValue
  split
  · exact h.keeps_pure _
  · exact h.keeps_pure _
  · split
    · next make _ =>
      refine h.keeps_bind ((h.run_keeps make).mapError BridgeError.host) fun storage => ?_
      exact h.keeps_bind (fun s => h.newInstance s type storage) fun ref => h.keeps_pure _
    · exact h.keeps_pure none
  · exact h.keeps_pure none

/-- A construction through the constructors of a type. -/
private theorem constructOverload_keeps (h : R.Rule spared T) (type : TypeId) (args : List ScriptValue) :
    (R.constructOverload type args).Keeps T := by
  refine h.keeps_bind h.keeps_getStore fun s => ?_
  refine h.keeps_bind (h.firstSuccess_keeps (h.tryConstructor_keeps args) _) fun found => ?_
  refine h.settle_keeps (fun storage => ?_) _ found
  exact h.keeps_bind (fun s => h.newInstance s type storage) fun ref =>
    h.fromHost_keeps (.object ref)

/-- A construction of a type, by default or through a constructor. -/
private theorem constructType_keeps (h : R.Rule spared T) (type : TypeId) (args : List ScriptValue) :
    (R.constructType type args).Keeps T := by
  unfold Realm.constructType
  split
  · refine h.keeps_bind (h.defaultValue_keeps type) fun byDefault => ?_
    cases byDefault with
    | some v => exact h.fromHost_keeps v
    | none => exact h.constructOverload_keeps type args
  · exact h.constructOverload_keeps type args

/-! ### Reading and writing -/

/-- The count of an instance. -/
private theorem countOf_keeps (h : R.Rule spared T) (target : HostRef) : (R.countOf target).Keeps T := by
  unfold Realm.countOf
  split
  · next count _ => exact h.run_keeps (count target)
  · exact h.keeps_pure 0

/-- A read through an indexer, which takes a missing entry for `undefined`. -/
private theorem readIndexed_keeps (h : R.Rule spared T) {get : Action HostError HostValue}
    (hget : get.Keeps T) : (R.readIndexed get).Keeps T := by
  refine h.keeps_bind hget.contained.capture fun r => ?_
  split
  · exact h.fromHost_keeps _
  · exact h.keeps_pure ScriptValue.undefined
  · exact h.keeps_throw _

/-- A read of a bound property, which may be hidden by a value. -/
private theorem readProperty_keeps (h : R.Rule spared T) (member : Property) (target : Option HostRef)
    (shadow : Option ScriptValue) : (R.readProperty member target shadow).Keeps T := by
  unfold Realm.readProperty
  split
  · exact h.keeps_pure _
  · split
    · exact h.keeps_pure ScriptValue.undefined
    · next get _ => exact h.keeps_bind (guarded_keeps (h.run_keeps (get target))) h.fromHost_keeps

/-- A read of what a name stands for. -/
theorem read_keeps (h : R.Rule spared T) (d : Descriptor) : (R.read d).Keeps T := by
  -- only host members and getters run code, and only a method group or an array makes objects
  cases d with
  | data value flags => exact h.keeps_pure _
  | accessor get flags => exact h.run_keeps get
  | count target =>
    exact h.keeps_bind (guarded_keeps (h.countOf_keeps target)) fun n => h.keeps_pure _
  | absent => exact h.keeps_pure ScriptValue.undefined
  | field member target =>
    exact h.keeps_bind (guarded_keeps (h.run_keeps (member.get target))) h.fromHost_keeps
  | property member target shadow => exact h.readProperty_keeps member target shadow
  | sharedData cell flags => exact h.keeps_bind h.keeps_getStore fun s => h.keeps_pure _
  | sharedProperty member target cell =>
    exact h.keeps_bind h.keeps_getStore fun s => h.readProperty_keeps member target _
  | index member target key =>
    simp only [Realm.read]
    split
    · next get k _ _ => exact h.readIndexed_keeps (h.run_keeps (get target k))
    · exact h.keeps_pure ScriptValue.undefined

/-- A write to what descriptors share. -/
private theorem setCell_keeps (h : R.Rule spared T) (cell : Nat) (contents : Option ScriptValue) :
    (modify (·.setCell cell contents) : Action ε Unit).Keeps T :=
  keeps_modify fun s => h.setCell s cell contents

/-- A write to a bound property. Where the conversion fails, the value hides it. -/
private theorem writeProperty_keeps (h : R.Rule spared T) (member : Property) (target : Option HostRef)
    (shadow : Option ScriptValue) (value : ScriptValue) :
    (R.writeProperty member target shadow value).Keeps T := by
  unfold Realm.writeProperty
  cases member.set with
  | none => exact h.keeps_pure _
  | some set =>
    refine h.keeps_bind (h.convertTo_keeps value member.type).capture fun r => ?_
    cases r with
    | ok v => exact h.keeps_bind (guarded_keeps (h.run_keeps (set target v))) fun _ => h.keeps_pure _
    | error e => exact h.keeps_pure _

/-- A write to what a name stands for. -/
private theorem write_keeps (h : R.Rule spared T) (d : Descriptor) (value : ScriptValue) :
    (R.write d value).Keeps T := by
  have hset (set : Program .nothing) (d' : Descriptor) : (do
      guarded (R.run set)
      return d' : Action BridgeError Descriptor).Keeps T :=
    h.keeps_bind (guarded_keeps (h.run_keeps set)) fun _ => h.keeps_pure d'
  have hconvert (type : TypeId) : ((R.convertTo value type).mapError BridgeError.conversion).Keeps T :=
    (h.convertTo_keeps value type).mapError _
  -- a setter is run after the conversion; everything else changes the descriptor or its cell
  cases d with
  | data old flags => exact h.keeps_pure _
  | accessor get flags => exact h.keeps_pure _
  | count target => exact h.keeps_pure _
  | absent => exact h.keeps_pure _
  | field member target =>
    simp only [Realm.write]
    cases member.set with
    | none => exact h.keeps_pure _
    | some set => exact h.keeps_bind (hconvert member.type) fun v => hset (set target v) _
  | property member target shadow =>
    exact h.keeps_bind (h.writeProperty_keeps member target shadow value) fun _ => h.keeps_pure _
  | sharedData cell flags =>
    exact h.keeps_bind (h.setCell_keeps cell (some value)) fun _ => h.keeps_pure _
  | sharedProperty member target cell =>
    refine h.keeps_bind h.keeps_getStore fun s => ?_
    refine h.keeps_bind (h.writeProperty_keeps member target _ value) fun shadow => ?_
    exact h.keeps_bind (h.setCell_keeps cell shadow) fun _ => h.keeps_pure _
  | index member target key =>
    simp only [Realm.write]
    cases member.set with
    | none => exact h.keeps_pure _
    | some set =>
      refine h.keeps_bind (h.keeps_ofExcept _) fun k => ?_
      exact h.keeps_bind (hconvert member.valueType) fun v => hset (set target k v) _

/-- A lookup that takes what is absent for nothing. -/
theorem present_keeps (h : R.Rule spared T) (id : ObjectId) (name : String) :
    (R.present id name : Action ε (Option Handle)).Keeps T :=
  h.keeps_bind (fun s => h.own s id name) fun _ => h.keeps_pure _

/-- A read along a prototype chain. -/
private theorem getFrom_keeps (h : R.Rule spared T) (name : String) (chain : List ObjectId) :
    (R.getFrom name chain).Keeps T := by
  induction chain with
  | nil => exact h.keeps_pure ScriptValue.undefined
  | cons id rest ih =>
    refine h.keeps_bind (h.present_keeps id name) fun found => ?_
    cases found with
    | some handle => exact h.read_keeps handle.descriptor
    | none => exact ih

/-- A read of a name of an object. -/
theorem get_keeps (h : R.Rule spared T) (id : ObjectId) (name : String) : (R.get id name).Keeps T :=
  h.keeps_bind h.keeps_getStore fun s => h.getFrom_keeps name (s.heap.chain id)

/-- What a write leaves to be put back into the slot. -/
private theorem writtenAs_write (R : Realm) (d : Descriptor) (value : ScriptValue) :
    Yields d.WrittenAs (R.write d value) := by
  cases d with
  | data v flags => exact yields_pure (.value v value flags)
  | accessor get flags => exact yields_pure (.same _)
  | count target => exact yields_pure (.same _)
  | absent => exact yields_pure (.same _)
  | field member target =>
    simp only [Realm.write]
    cases member.set with
    | none => exact yields_pure (.same _)
    | some set => exact yields_bind fun _ => yields_bind fun _ => yields_pure (.same _)
  | property member target shadow => exact yields_bind fun _ => yields_pure (.shadow ..)
  -- the cell is written in place, so the descriptor stays
  | sharedData cell flags => exact yields_bind fun _ => yields_pure (.same _)
  | sharedProperty member target cell =>
    exact yields_bind fun _ => yields_bind fun _ => yields_bind fun _ => yields_pure (.same _)
  | index member target key =>
    simp only [Realm.write]
    cases member.set with
    | none => exact yields_pure (.same _)
    | some set =>
      exact yields_bind fun _ => yields_bind fun _ => yields_bind fun _ => yields_pure (.same _)

/-- A write to what has been found of a name, from the lookup on. -/
private theorem putThrough_keeps (h : R.Rule spared T) {s : Store} {id : ObjectId} {name : String}
    {handle : Handle} (hfound : (R.toEngine.ownProperty s id name).1 = some handle)
    (value : ScriptValue) (strict : Bool) :
    T s (R.putThrough handle name value strict (R.toEngine.ownProperty s id name).2).2 := by
  have hown := h.own s id name
  unfold Realm.putThrough
  split
  · next hwritable =>
    have hwrite := h.write_keeps handle.descriptor value (R.toEngine.ownProperty s id name).2
    have hwritten := writtenAs_write R handle.descriptor value (R.toEngine.ownProperty s id name).2
    simp only [Realm.writeThrough, bind_apply]
    generalize R.write handle.descriptor value (R.toEngine.ownProperty s id name).2 = r
      at hwrite hwritten
    obtain ⟨outcome, t⟩ := r
    -- only a write that succeeds puts anything back, and only where there is a slot for it
    cases outcome with
    | ok d =>
      cases hhome : handle.home with
      | none => exact h.trans _ _ _ hown hwrite
      | some home =>
        exact h.written s t id name handle home.1 home.2 d hfound hhome hwritable
          (hwritten d rfl) hwrite
    | error e => exact h.trans _ _ _ hown hwrite
    | panicked payload => exact h.trans _ _ _ hown hwrite
    | exhausted => exact h.trans _ _ _ hown hwrite
  · split
    · exact hown
    · exact hown

/-- What is done with what is found of a name, after it has been looked up. -/
private theorem lookedUp_keeps (h : R.Rule spared T) {s : Store} {id : ObjectId} {name : String}
    {next : Option Handle → Action ε α}
    (hfound : ∀ handle, (R.toEngine.ownProperty s id name).1 = some handle →
      T s (next (some handle) (R.toEngine.ownProperty s id name).2).2)
    (hmissing : (∀ handle, (R.toEngine.ownProperty s id name).1 = some handle →
      handle.descriptor.isAbsent) →
      T (R.toEngine.ownProperty s id name).2 (next none (R.toEngine.ownProperty s id name).2).2) :
    T s ((R.present id name >>= next) s).2 := by
  show T s (next ((R.toEngine.ownProperty s id name).1.filter (!·.descriptor.isAbsent))
    (R.toEngine.ownProperty s id name).2).2
  -- a deleted property is found, but does not count as present
  cases hpresent : (R.toEngine.ownProperty s id name).1.filter (!·.descriptor.isAbsent) with
  | some handle => exact hfound handle (Option.filter_eq_some_iff.1 hpresent).1
  | none =>
    refine h.trans _ _ _ (h.own s id name) (hmissing fun handle hhandle => ?_)
    simpa using Option.filter_eq_none_iff.1 hpresent handle hhandle

/-- A write to a name of an object that is not a host object. -/
private theorem ordinaryPut_keeps (h : R.Rule spared T) {s : Store} {id : ObjectId}
    (hhost : ¬ s.isHostObject id) (name : String) (value : ScriptValue) (strict : Bool) :
    T s (R.ordinaryPut id name value strict s).2 := by
  -- the lookup leaves such an object alone, so a missing name gets a slot in the same store
  refine h.lookedUp_keeps (fun handle hfound => h.putThrough_keeps hfound value strict) fun _ => ?_
  rw [(Engine.ownProperty_of_other R.toEngine hhost name).1]
  exact h.plain s id name value fun hs => absurd hs hhost

/-- A write to a deleted name puts a value into its slot. -/
private theorem putDeleted_keeps (h : R.Rule spared T) {s : Store} {id : ObjectId} {key : String}
    (hdeleted : (s.slots id).isDeleted key) (value : ScriptValue) :
    T s (s.modifySlots id (·.setLive key (.plain value))) := by
  refine h.plain s id key value fun _ d hd => ?_
  obtain ⟨slot, hslot, hlive⟩ := Option.bind_eq_some_iff.1 hd
  rw [SlotTable.isDeleted_of_state hslot] at hdeleted
  cases slot with
  | live d' => cases hdeleted
  | deleted => cases hlive

/-- A write to a name of a wrapper or a type reference. -/
private theorem hostPut_keeps (h : R.Rule spared T) {s : Store} {id : ObjectId}
    (hhost : s.isHostObject id) (name : String) (value : ScriptValue) (strict : Bool) :
    T s (R.hostPut id name value strict s).2 := by
  rw [Realm.hostPut, bind_apply]
  simp only [getStore]
  by_cases hdeleted : (s.slots id).isDeleted (Name.normalize name)
  · simp only [hdeleted, if_true]
    exact h.putDeleted_keeps hdeleted value
  · simp only [hdeleted]
    refine h.lookedUp_keeps (fun handle hfound => h.putThrough_keeps hfound value strict)
      fun habsent => ?_
    simp only [Realm.putFound]
    split
    · exact h.refl _
    · split
      · -- what stands in the slot now has just been found, and it is absent
        exact h.plain _ id _ value fun _ d hd => habsent _ (Engine.found_of_live hhost hd)
      · exact h.refl _

/-- A write to a name of an array: its length, an element, or any other name. -/
private theorem arrayPut_keeps (h : R.Rule spared T) {s : Store} {id : ObjectId}
    {elements : Array ScriptValue} (hsort : s.sort? id = some (.array elements)) (name : String)
    (value : ScriptValue) (strict : Bool) :
    T s (R.arrayPut id elements name value strict s).2 := by
  have helements (elements' : Array ScriptValue) : T s (s.setElements id elements') :=
    h.elements s id elements' (by simp only [Store.elements?, hsort, Option.isSome_some])
  unfold Realm.arrayPut
  -- the length and the elements stand outside the slots; other names go the ordinary way
  split
  · cases value.length? with
    | none => exact h.refl s
    | some size =>
      simp only [Realm.setLength]
      split
      · exact h.refl s
      · exact helements _
  · cases Name.index? name with
    | some i => exact helements _
    | none =>
      refine h.ordinaryPut_keeps (fun hhost => ?_) name value strict
      rw [Store.isHostObject, hsort] at hhost
      cases hhost

/-- A write to a name of any object. -/
theorem put_keeps (h : R.Rule spared T) (id : ObjectId) (name : String) (value : ScriptValue)
    (strict : Bool) : (R.put id name value strict).Keeps T := by
  intro s
  rw [Realm.put, bind_apply]
  simp only [getStore]
  have hordinary (hother : ¬ s.isHostObject id) :
      T s (R.ordinaryPut id name value strict s).2 := h.ordinaryPut_keeps hother name value strict
  have hhost (hhost : s.isHostObject id) :
      T s (R.hostPut id name value strict s).2 := h.hostPut_keeps hhost name value strict
  rw [Store.isHostObject] at hordinary hhost
  -- the sort of the object decides how it is written
  rcases hsort : s.sort? id with _ | sort
  · exact hordinary (by simp [hsort])
  · cases sort with
    | array elements => exact h.arrayPut_keeps hsort name value strict
    | wrapper target => exact hhost (by simp [hsort])
    | typeReference type => exact hhost (by simp [hsort])
    | plain => exact hordinary (by simp [hsort])
    | function _ body => exact hordinary (by simp [hsort])
    | methods group target => exact hordinary (by simp [hsort])

/-- A deletion from an object that is not a host object. What cannot be removed stays. -/
private theorem ordinaryDelete_keeps (h : R.Rule spared T) {s : Store} {id : ObjectId}
    (hhost : ¬ s.isHostObject id) (name : String) (strict : Bool) :
    T s (R.ordinaryDelete id name strict s).2 := by
  -- again the lookup leaves the store as it is
  have hsame := (Engine.ownProperty_of_other R.toEngine hhost name).1
  rw [Realm.ordinaryDelete, bind_apply]
  simp only [Realm.own, state, hsame]
  cases (R.toEngine.ownProperty s id name).1 with
  | none => exact h.refl s
  | some handle =>
    by_cases hremovable : (handle.descriptor.isAbsent || handle.descriptor.isConfigurable) = true
    · simp only [hremovable, if_true]
      exact h.remove s id name hhost
    · simp only [hremovable]
      cases strict <;> exact h.refl s

/-- A deletion from any object of a name that is not spared. -/
theorem delete_keeps (h : R.Rule spared T) {id : ObjectId} {name : String}
    (hname : spared id (Name.normalize name) = false) (strict : Bool) :
    (R.delete id name strict).Keeps T := by
  intro s
  rw [Realm.delete, bind_apply]
  simp only [getStore]
  have hordinary (hother : ¬ s.isHostObject id) : T s (R.ordinaryDelete id name strict s).2 :=
    h.ordinaryDelete_keeps hother name strict
  rw [Store.isHostObject] at hordinary
  -- only the host objects mark a name as deleted, and `hname` is about those
  rcases hsort : s.sort? id with _ | sort
  · exact hordinary (by simp [hsort])
  · cases sort with
    | array elements =>
      split
      · exact h.refl s
      · cases Name.index? name with
        | some i =>
          exact h.elements s id _ (by simp only [Store.elements?, hsort, Option.isSome_some])
        | none => exact hordinary (by simp [hsort])
    | wrapper target => exact h.delete s id _ (Store.isHostObject_iff.2 (.inl ⟨target, hsort⟩)) hname
    | typeReference type => exact h.delete s id _ (Store.isHostObject_iff.2 (.inr ⟨type, hsort⟩)) hname
    | plain => exact hordinary (by simp [hsort])
    | function _ body => exact hordinary (by simp [hsort])
    | methods group target => exact hordinary (by simp [hsort])

/-- A definition of what can have been given out. -/
theorem define_keeps (h : R.Rule spared T) (id : ObjectId) (name : String) {d : Descriptor}
    (hd : R.types.HandsOut d) : (R.define id name d).Keeps T := by
  intro s
  rw [Realm.define, bind_apply]
  simp only [getStore]
  have hdefine (htype : s.referencedType? id = none) : T s (s.modifySlots id (·.setLive name d)) :=
    h.define s id name d htype hd
  rw [Store.referencedType?] at hdefine
  -- a type reference takes no definition, and every other object puts it into its slot
  rcases hsort : s.sort? id with _ | sort
  · exact hdefine (by simp only [hsort])
  · cases sort with
    | typeReference type => exact h.refl s
    | plain => exact hdefine (by simp only [hsort])
    | array elements => exact hdefine (by simp only [hsort])
    | function _ body => exact hdefine (by simp only [hsort])
    | methods group target => exact hdefine (by simp only [hsort])
    | wrapper target => exact hdefine (by simp only [hsort])

/-- What is given out is looked up before, and then moved to a cell if a write can change it. -/
theorem handOut_keeps (h : R.Rule spared T) (s : Store) (id : ObjectId) (name : String) :
    T s (R.toEngine.handOut s id name).2 := by
  have hown := h.own s id name
  unfold Engine.handOut
  split
  · next hmissing => rwa [hmissing] at hown
  · next handle t hfound =>
    rw [hfound] at hown
    split
    · -- nothing that a write can change: it is given out as it was found
      exact hown
    · next d contents hshared =>
      split
      · next owner key hhome =>
        exact h.shared s _ id name handle owner key _ d contents (by rw [hfound]) hhome hshared
          (by rw [hfound])
      · exact h.trans _ _ _ hown (h.addCell t contents)

/-! ### Entry points -/

/-- A call of a function, a group of methods, or a type. -/
private theorem callObject_keeps (h : R.Rule spared T) (callee : ObjectId) (this : ScriptValue)
    (args : List ScriptValue) : (R.callObject callee this args).Keeps T := by
  refine h.keeps_bind h.keeps_getStore fun s => ?_
  split
  · next body _ => exact h.run_keeps (body this args)
  · next group target _ => exact h.callMethods_keeps group target args
  · next type _ => exact h.constructType_keeps type args
  · exact h.keeps_throw _

/-- A read of a member of a value. Only an object can have host code run. -/
theorem getMember_keeps (h : R.Rule spared T) (base : ScriptValue) (name : String) :
    (R.getMember base name).Keeps T := by
  have hrefusal : (do
      let s ← Action.getStore
      Action.throw (.conversion (.incompatible (s.typeTag base) "object")) :
      Action BridgeError ScriptValue).Keeps T :=
    h.keeps_bind h.keeps_getStore fun _ => h.keeps_throw _
  -- other values than objects have no members, and only undefined and null refuse
  cases base with
  | object id => exact h.get_keeps id name
  | undefined => exact hrefusal
  | null => exact hrefusal
  | boolean b => exact h.keeps_pure _
  | number x => exact h.keeps_pure _
  | string text => exact h.keeps_pure _

/-- A call of what may turn out not to be callable. -/
private theorem callable_keeps (h : R.Rule spared T) (this : ScriptValue) (args : List ScriptValue)
    (refuse : Store → BridgeError) (callee : ScriptValue) : (do
      let s ← Action.getStore
      match callee.object?.filter s.isCallable with
      | some id => R.callObject id this args
      | none => Action.throw (refuse s)).Keeps T := by
  refine h.keeps_bind h.keeps_getStore fun s => ?_
  split
  · next id _ => exact h.callObject_keeps id this args
  · exact h.keeps_throw _

/-- A construction through a type reference. -/
private theorem construct_keeps (h : R.Rule spared T) (callee : ScriptValue) (args : List ScriptValue) :
    (R.construct callee args).Keeps T := by
  unfold Realm.construct
  split
  · refine h.keeps_bind h.keeps_getStore fun s => ?_
    split
    · next type _ => exact h.constructType_keeps type args
    · exact h.keeps_throw _
  · exact h.keeps_bind h.keeps_getStore fun s => h.keeps_throw _

/-- The instance test along the prototype chain, which reads a prototype first. -/
private theorem ordinaryHasInstance_keeps (h : R.Rule spared T) (callee : ObjectId)
    (value : ScriptValue) : (R.ordinaryHasInstance callee value).Keeps T := by
  refine h.keeps_bind h.keeps_getStore fun s => ?_
  split
  · exact h.keeps_throw _
  · split
    · refine h.keeps_bind (h.get_keeps callee "prototype") fun found => ?_
      split
      · exact h.keeps_bind h.keeps_getStore fun s => h.keeps_pure _
      · exact h.keeps_pure false
    · exact h.keeps_pure false

/-- The instance test of a value against any callee. -/
private theorem instanceOf_keeps (h : R.Rule spared T) (value callee : ScriptValue) :
    (R.instanceOf value callee).Keeps T := by
  unfold Realm.instanceOf
  split
  · next id =>
    refine h.keeps_bind h.keeps_getStore fun s => ?_
    split
    · split
      · exact h.keeps_pure true
      · exact h.ordinaryHasInstance_keeps id value
    · exact h.ordinaryHasInstance_keeps id value
  · exact h.keeps_bind h.keeps_getStore fun s => h.keeps_throw _

/-- A read of the length and of every element of an object that is like an array. -/
private theorem arrayLike_keeps (h : R.Rule spared T) (id : ObjectId) : (R.arrayLike id).Keeps T := by
  refine h.keeps_bind h.keeps_getStore fun s => ?_
  split
  · exact h.keeps_throw _
  · refine h.keeps_bind (h.get_keeps id "length") fun length => ?_
    split
    · split
      · exact h.keeps_throw _
      · exact h.keeps_mapM (fun i => h.get_keeps id (toString i)) _
    · exact h.keeps_pure []

/-- An entry into the engine that deletes nothing that is spared. -/
theorem perform_keeps (h : R.Rule spared T) {hook : Hook} (hhook : hook.deletes spared = false) :
    (R.perform hook).Keeps T := by
  cases hook with
  | getMember base name => exact h.getMember_keeps base name
  | setMember base name value => exact h.put_keeps base name value _
  | deleteMember base name => exact h.delete_keeps hhook _
  | defineData base name value flags => exact h.define_keeps base name (.script rfl)
  | call callee this args => exact h.callable_keeps this args _ callee
  | callMethod base name args =>
    exact h.keeps_bind (h.getMember_keeps base name) (h.callable_keeps base args _)
  | construct callee args => exact h.construct_keeps callee args
  | instanceOf value callee => exact h.instanceOf_keeps value callee
  | arrayLike base => exact h.arrayLike_keeps base

/-! ### Jobs -/

/-- Until a lookup comes to what it finds. -/
private theorem finds_keeps (h : R.Rule spared T) {name : String} {chain : List ObjectId} {s t : Store}
    {d : Descriptor} (hfinds : R.Finds name chain s d t) : T s t := by
  induction hfinds with
  | here hfound => exact (h.present_keeps _ name).of_eq hfound
  | next hmissing _ ih => exact h.trans _ _ _ ((h.present_keeps _ name).of_eq hmissing) ih

/-- Until a default is run for an argument. -/
private theorem suppliedBy_keeps (h : R.Rule spared T) {params : List Parameter} {args : List ScriptValue}
    {s t : Store} {job : Job} (hsupplied : R.SuppliedBy params args s job t) : T s t := by
  induction hsupplied with
  | default _ => exact h.refl _
  | afterDefault _ hrun _ ih => exact h.trans _ _ _ ((h.run_keeps _).of_eq hrun) ih
  | afterArgument harg _ ih => exact h.trans _ _ _ ((h.convertTo_keeps _ _).of_eq harg) ih

/-- Until a candidate runs a default or its body. -/
private theorem tries_keeps (h : R.Rule spared T) {y : Yield} {purpose : Purpose} {this : Option HostRef}
    {args : List ScriptValue} {attempt : Candidate y → Action BridgeError α}
    (hattempt : ∀ c, (attempt c).Keeps T) {candidates : List (Candidate y)} {s t : Store} {job : Job}
    (htries : R.Tries purpose this args attempt candidates s job t) : T s t := by
  -- the candidates before it have failed, and what they did is kept
  induction htries with
  | argument harg => exact h.suppliedBy_keeps harg
  | body hargs => exact (h.convertArguments_keeps _ _ _).of_eq hargs
  | later hfailed _ ih => exact h.trans _ _ _ ((hattempt _).of_eq hfailed) ih

/-- Until a construction comes to a job. -/
private theorem constructs_keeps (h : R.Rule spared T) {type : TypeId} {args : List ScriptValue}
    {s t : Store} {job : Job} (hnew : R.Constructs type args s job t) : T s t := by
  cases hnew with
  | default hmake => exact h.refl s
  | overload hsearch htry => exact h.tries_keeps (h.tryConstructor_keeps args) htry

/-- Until a call comes to a job. -/
private theorem calls_keeps (h : R.Rule spared T) {callee : ObjectId} {this : ScriptValue}
    {args : List ScriptValue} {s t : Store} {job : Job} (hcall : R.Calls callee this args s job t) :
    T s t := by
  cases hcall with
  | function hsort => exact h.refl s
  | methods hsort htry => exact h.tries_keeps (h.tryCandidate_keeps _ args) htry
  | type hsort hnew => exact h.constructs_keeps hnew

/-- Until one of the elements comes to a job. -/
private theorem readsElements_keeps (h : R.Rule spared T) {id : ObjectId} {indices : List Nat}
    {s t : Store} {job : Job} (hreads : R.ReadsElements id indices s job t) : T s t := by
  induction hreads with
  | here hread => exact h.finds_keeps hread.choose_spec.1
  | later hread _ ih => exact h.trans _ _ _ ((h.get_keeps id _).of_eq hread) ih

/-- Until an entry comes to a job, it keeps to the rule. -/
theorem runs_keeps (h : R.Rule spared T) {hook : Hook} {s t : Store} {job : Job}
    (hruns : R.Runs hook s job t) : T s t := by
  -- what comes before the job: a lookup, or lookups and attempts that came to an end
  cases hruns with
  | getMember hread => exact h.finds_keeps hread.choose_spec.1
  | setMember hfound _ _ => exact (h.present_keeps _ _).of_eq hfound
  | call _ hcall => exact h.calls_keeps hcall
  | lookUp hread => exact h.finds_keeps hread.choose_spec.1
  | callMethod hmember _ hcall =>
    exact h.trans _ _ _ ((h.getMember_keeps _ _).of_eq hmember) (h.calls_keeps hcall)
  | construct _ hnew => exact h.constructs_keeps hnew
  | instanceOf _ _ hread => exact h.finds_keeps hread.choose_spec.1
  | length _ hread => exact h.finds_keeps hread.choose_spec.1
  | element _ hlength _ _ hread =>
    exact h.trans _ _ _ ((h.get_keeps _ "length").of_eq hlength) (h.readsElements_keeps hread)

end Realm.Rule

namespace Engine.Rule

variable {spared : ObjectId → String → Bool} {T : Store → Store → Prop} {E : Engine}

/-- Every entry into the engine keeps to the rule as far as it deletes nothing that is spared, and so
does all that host code does through further entries. -/
theorem sparingWithin_keeps (h : E.Rule spared T) (depth : Nat) (hook : Hook) :
    (E.sparingWithin spared depth hook).Keeps T := by
  -- entries with one level less are the way back into the engine
  induction depth generalizing hook with
  | zero => exact h.refl
  | succ depth ih =>
    have hrule : Realm.Rule spared T ⟨E, E.sparingWithin spared depth⟩ := { h with enter := ih }
    unfold sparingWithin
    split
    · exact h.refl
    · next hhook => exact hrule.perform_keeps (Bool.eq_false_iff.2 hhook)

/-- The engine at work keeps to the rule as far as it deletes nothing that is spared. -/
theorem sparing (h : E.Rule spared T) (depth : Nat) : (E.sparing spared depth).Rule spared T :=
  { h with enter := h.sparingWithin_keeps depth }

/-- The engine at work keeps to the rule. -/
theorem realm (h : E.Rule noSlot T) (depth : Nat) : (E.realm depth).Rule noSlot T := by
  rw [← sparing_noSlot]
  exact h.sparing depth

end Engine.Rule

/-! ### Histories -/

namespace Engine

variable {spared : ObjectId → String → Bool} {T : Store → Store → Prop} {E : Engine} {s t : Store}

/-- At every point inside an entry the store is what the rule allows, if it allows holds. -/
theorem Rule.inside (h : E.Rule noSlot T)
    (hacquire : ∀ (s : Store) id mode, T s (s.acquire id mode)) {follow : Job → Prop}
    {depth d : Nat} {hook : Hook} {held : List (Nat × BorrowMode)} {y : Yield} {p : Program y}
    (hinside : E.Inside follow depth hook s d held p t) : T s t := by
  -- on the way to the point: each step of it adds one change
  induction hinside with
  | job hruns => exact (h.realm depth).runs_keeps hruns
  | answered _ hanswer ih =>
    exact h.trans _ _ _ ih (((h.realm _).answer_keeps _).of_eq hanswer)
  | held _ _ ih => exact h.trans _ _ _ ih (hacquire _ _ _)
  | @released d _ _ ref layout mode inside _ _ _ _ _ hheld ih =>
    have hkeeps := (h.realm d).holding_keeps ref layout mode ((h.realm d).run_keeps inside)
    -- the hold that was entered is not on the way any more, so it is taken from outside
    exact h.trans _ _ _ ih (hkeeps.capture.of_eq hheld)
  | made _ ih => exact h.trans _ _ _ ih (h.newFunction _ _ _)
  | reentered _ hruns _ ih => exact h.trans _ _ _ ih ((h.realm _).runs_keeps hruns)

/-- What can happen to a store at once while none of the slots that `spared` names is deleted: entries
into the engine, programs of host and script, writes, deletions, definitions and requests, each of
them with what it does through further entries, and what goes on outside the engine. What is defined is
anything that a request can have given out. What goes on outside leaves the objects of the scripts as
they are, and puts into the cache nothing but what resolution finds. -/
inductive Turn (E : Engine) (spared : ObjectId → String → Bool) : Store → Store → Prop where
  | enter (depth : Nat) (hook : Hook) (s : Store)
      (hspared : E.sparingWithin spared depth hook s = E.performWithin depth hook s) :
      Turn E spared s (E.performWithin depth hook s).2
  | run {y : Yield} (depth : Nat) (p : Program y) (s : Store)
      (hspared : (E.sparing spared depth).run p s = (E.realm depth).run p s) :
      Turn E spared s ((E.realm depth).run p s).2
  -- writes and deletes that do not go through a hook and may be strict on their own
  | put (depth : Nat) (id : ObjectId) (name : String) (value : ScriptValue) (strict : Bool)
      (s : Store) (hspared : (E.sparing spared depth).put id name value strict s =
        (E.realm depth).put id name value strict s) :
      Turn E spared s ((E.realm depth).put id name value strict s).2
  | delete (depth : Nat) (id : ObjectId) (name : String) (strict : Bool) (s : Store)
      (hspared : spared id (Name.normalize name) = false) :
      Turn E spared s ((E.realm depth).delete id name strict s).2
  | define (depth : Nat) (id : ObjectId) (name : String) {d : Descriptor} (hd : E.types.HandsOut d)
      (s : Store) : Turn E spared s ((E.realm depth).define id name d s).2
  -- a handle is taken from a slot, which then shares it
  | handOut (id : ObjectId) (name : String) (s : Store) : Turn E spared s (E.handOut s id name).2
  | own (id : ObjectId) (name : String) (s : Store) : Turn E spared s (E.ownProperty s id name).2
  -- the host or the program changes what is neither an object nor looked up
  | outside {s t : Store} (hheap : t.heap = s.heap)
      (hcache : s.cache.Sound E.types → t.cache.Sound E.types) : Turn E spared s t

/-- A store that a history in which nothing is deleted that `spared` names leads to. -/
abbrev Becomes (E : Engine) (spared : ObjectId → String → Bool) : Store → Store → Prop :=
  Relation.ReflTransGen (E.Turn spared)

/-- What goes on in one turn keeps to every rule that what goes on outside keeps to. -/
theorem Rule.turn (h : E.Rule spared T)
    (houtside : ∀ s t : Store, t.heap = s.heap →
      (s.cache.Sound E.types → t.cache.Sound E.types) → T s t)
    (hturn : E.Turn spared s t) : T s t := by
  have hrule (depth : Nat) := h.sparing depth
  -- a turn deletes nothing that is spared, so it goes as the engine that spares it
  cases hturn with
  | enter depth hook _ hspared => exact hspared ▸ h.sparingWithin_keeps depth hook s
  | run depth p _ hspared => exact hspared ▸ (hrule depth).run_keeps p s
  | put depth id name value strict _ hspared =>
    exact hspared ▸ (hrule depth).put_keeps id name value strict s
  | delete depth id name strict _ hspared => exact (hrule depth).delete_keeps hspared strict s
  | define depth id name hd => exact (hrule depth).define_keeps id name hd s
  | handOut id name => exact (hrule 0).handOut_keeps s id name
  | own id name => exact h.own s id name
  | outside hheap hcache => exact houtside s t hheap hcache

/-- A history keeps to every rule that what goes on outside keeps to. -/
theorem Rule.becomes (h : E.Rule spared T)
    (houtside : ∀ s t : Store, t.heap = s.heap →
      (s.cache.Sound E.types → t.cache.Sound E.types) → T s t)
    (hhistory : E.Becomes spared s t) : T s t := by
  induction hhistory with
  | refl => exact h.refl s
  | tail _ hturn ih => exact h.trans _ _ _ ih (h.turn houtside hturn)

end Engine

end Membrane
