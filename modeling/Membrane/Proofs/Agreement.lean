import Membrane.Realm.Hooks

/-!
# Two runs side by side

`Action.Agree W` compares two actions on stores that a relation `W` relates: they end alike, and
the stores they leave are related again. It is closed under everything that actions are built with,
so a relation that no elementary change of the store breaks (`Engine.Invariant`) is kept by programs
(`Realm.Alike.run_agree`), by calls and by reads.

A relation between stores that are equal is an invariant of one run; relations that tell two stores
apart compare two runs.
-/

namespace Membrane

namespace Store

/-- The store, apart from what no program sees: the resolution cache and the log of calls. -/
def forget (s : Store) : Store := { s with cache := .empty, calls := #[] }

/-- The natural host form of a value depends on nothing else than what programs see. -/
theorem naturalWithin_forget (types : Registry) (s : Store) (depth : Nat) (v : ScriptValue) :
    s.forget.naturalWithin types depth v = s.naturalWithin types depth v := by
  -- both sides find the same elements, so each case is the same equation twice
  induction depth generalizing v with
  | zero =>
    cases helements : s.arrayElements? v with
    | none =>
      exact (naturalWithin_of_scalar (s := s.forget) helements 0).trans
        (naturalWithin_of_scalar helements 0).symm
    | some elements =>
      exact (naturalWithin_zero (s := s.forget) helements).trans (naturalWithin_zero helements).symm
  | succ depth ih =>
    have hih : s.forget.naturalWithin types depth = s.naturalWithin types depth := funext ih
    cases helements : s.arrayElements? v with
    | none =>
      exact (naturalWithin_of_scalar (s := s.forget) helements _).trans
        (naturalWithin_of_scalar helements _).symm
    | some elements =>
      rw [naturalWithin_succ helements, ← hih]
      exact naturalWithin_succ (s := s.forget) helements depth

/-- The natural shape of a value is part of what programs see. -/
theorem natural?_forget (types : Registry) (s : Store) (v : ScriptValue) :
    s.forget.natural? types v = s.natural? types v :=
  naturalWithin_forget types s _ v

/-- So is what a value converts to. -/
theorem convertTo?_forget (types : Registry) (s : Store) (v : ScriptValue) (target : TypeId) :
    s.forget.convertTo? types v target = s.convertTo? types v target := by
  simp only [convertTo?, natural?_forget]

/-- So is the host form of a value, with a target or without. -/
theorem toHost?_forget (types : Registry) (s : Store) (v : ScriptValue) (target : Option TypeId) :
    s.forget.toHost? types v target = s.toHost? types v target := by
  unfold toHost?
  simp only [natural?_forget]
  rfl

end Store

namespace Action

variable {ε ε' α β : Type} {W : Store → Store → Prop}

/-- On related stores the two actions end alike and leave related stores. -/
def Agree (W : Store → Store → Prop) (act act' : Action ε α) : Prop :=
  ∀ s t, W s t → (act s).1 = (act' t).1 ∧ W (act s).2 (act' t).2

/-- How the two actions end, and where they leave the stores. -/
theorem Agree.exists_outcome {act act' : Action ε α} (h : Agree W act act') {s t : Store}
    (hst : W s t) : ∃ outcome u v, act s = (outcome, u) ∧ act' t = (outcome, v) ∧ W u v := by
  obtain ⟨heq, hW⟩ := h s t hst
  exact ⟨(act s).1, (act s).2, (act' t).2, rfl, by rw [heq], hW⟩

/-- Steps of the store that give the same and keep the stores related. -/
theorem agree_ok {f f' : Store → α × Store}
    (h : ∀ s t, W s t → (f s).1 = (f' t).1 ∧ W (f s).2 (f' t).2) :
    Agree W (Action.state f : Action ε α) (Action.state f') := by
  intro s t hst
  obtain ⟨heq, hW⟩ := h s t hst
  exact ⟨congrArg Outcome.ok heq, hW⟩

/-- A change of the store that keeps the stores related. -/
theorem agree_modify {f f' : Store → Store} (h : ∀ s t, W s t → W (f s) (f' t)) :
    Agree W (modify f : Action ε Unit) (modify f') :=
  fun s t hst => ⟨rfl, h s t hst⟩

/-- A result without a step. -/
theorem agree_pure (a : α) : Agree W (pure a : Action ε α) (pure a) :=
  fun _ _ hst => ⟨rfl, hst⟩

/-- An error without a step. -/
theorem agree_throw (e : ε) : Agree W (throw e : Action ε α) (throw e) :=
  fun _ _ hst => ⟨rfl, hst⟩

/-- A panic without a step. -/
theorem agree_panic (payload : Panic) : Agree W (panic payload : Action ε α) (panic payload) :=
  fun _ _ hst => ⟨rfl, hst⟩

/-- A result that is there already, or an error. -/
theorem agree_ofExcept (r : Except ε α) : Agree W (ofExcept r) (ofExcept r) := by
  cases r with
  | ok a => exact agree_pure a
  | error e => exact agree_throw e

/-- A result that is there already, or the end of what was granted. -/
theorem agree_ofOption (r : Option α) : Agree W (ofOption r : Action ε α) (ofOption r) := by
  cases r with
  | some a => exact agree_pure a
  | none => exact fun _ _ hst => ⟨rfl, hst⟩

/-- Every result of the action is as `P` demands. -/
def Yields (P : α → Prop) (act : Action ε α) : Prop := ∀ s a, (act s).1 = .ok a → P a

/-- Nothing is asked of the result. -/
theorem yields_any (act : Action ε α) : Yields (fun _ => True) act := fun _ _ _ => trivial

/-- The result is there already. -/
theorem yields_pure {P : α → Prop} {a : α} (h : P a) : Yields P (pure a : Action ε α) := by
  rintro s b hb
  cases hb
  exact h

/-- The result of a sequence is that of its second part. -/
theorem yields_bind {P : β → Prop} {act : Action ε α} {next : α → Action ε β}
    (h : ∀ a, Yields P (next a)) : Yields P (act >>= next) := by
  intro s b hb
  simp only [bind_apply] at hb
  -- only a first part that gives a result comes to the second one
  generalize act s = r at hb
  obtain ⟨o, t⟩ := r
  cases o with
  | ok a => exact h a t b hb
  | error e => cases hb
  | panicked payload => cases hb
  | exhausted => cases hb

/-- As `Agree.bind`, for actions whose results are of a special kind. -/
theorem Agree.bindOf {P : α → Prop} {act act' : Action ε α} {next next' : α → Action ε β}
    (h : Agree W act act') (hP : Yields P act)
    (hnext : ∀ a, P a → Agree W (next a) (next' a)) : Agree W (act >>= next) (act' >>= next') := by
  intro s t hst
  obtain ⟨outcome, u, v, hact, hact', hW⟩ := h.exists_outcome hst
  -- both first parts end in the same way, and the second ones go on from related stores
  simp only [bind_apply, hact, hact']
  cases outcome with
  | ok a =>
    have ha : P a := hP s a (by rw [hact])
    exact hnext a ha u v hW
  | error e => exact ⟨rfl, hW⟩
  | panicked payload => exact ⟨rfl, hW⟩
  | exhausted => exact ⟨rfl, hW⟩

/-- Actions that agree, followed by actions that agree whatever the result. -/
theorem Agree.bind {act act' : Action ε α} {next next' : α → Action ε β} (h : Agree W act act')
    (hnext : ∀ a, Agree W (next a) (next' a)) : Agree W (act >>= next) (act' >>= next') :=
  h.bindOf (yields_any act) fun a _ => hnext a

/-- Errors are renamed alike. -/
theorem Agree.mapError {act act' : Action ε α} (h : Agree W act act') (f : ε → ε') :
    Agree W (act.mapError f) (act'.mapError f) := by
  intro s t hst
  obtain ⟨outcome, u, v, hact, hact', hW⟩ := h.exists_outcome hst
  simp only [Action.mapError, hact, hact']
  cases outcome <;> exact ⟨rfl, hW⟩

/-- Errors are caught alike. -/
theorem Agree.capture {act act' : Action ε α} (h : Agree W act act') :
    Agree W (act.capture : Action ε' (Except ε α)) act'.capture := by
  intro s t hst
  obtain ⟨outcome, u, v, hact, hact', hW⟩ := h.exists_outcome hst
  simp only [capture_apply, hact, hact']
  cases outcome <;> exact ⟨rfl, hW⟩

/-- Panics are caught alike. -/
theorem Agree.contained {act act' : Action HostError α} (h : Agree W act act') :
    Agree W act.contained act'.contained := by
  intro s t hst
  obtain ⟨outcome, u, v, hact, hact', hW⟩ := h.exists_outcome hst
  simp only [Action.contained, hact, hact']
  cases outcome <;> exact ⟨rfl, hW⟩

/-- A list of actions, one after the other. -/
theorem agree_mapM {ι : Type} {f f' : ι → Action ε α} (h : ∀ i, Agree W (f i) (f' i)) :
    ∀ l : List ι, Agree W (l.mapM f) (l.mapM f')
  | [] => by simpa using agree_pure []
  | i :: rest => by
    simp only [List.mapM_cons]
    exact (h i).bind fun a => (agree_mapM h rest).bind fun others => agree_pure (a :: others)

/-- Actions that look at the store first, as programs see it. -/
theorem agree_getStore {f f' : Store → Action ε α} (hW : ∀ s t, W s t → t.forget = s.forget)
    (hf : ∀ s, f s = f s.forget) (hf' : ∀ s, f' s = f' s.forget)
    (h : ∀ s, Agree W (f s) (f' s)) : Agree W (getStore >>= f) (getStore >>= f') := by
  intro s t hst
  -- both look at the store that programs see, and go on with their own
  show (f s s).1 = (f' t t).1 ∧ W (f s s).2 (f' t t).2
  rw [hf s, hf' t, hW s t hst]
  exact h s.forget s t hst

/-- A look at the store as programs see it. -/
theorem agree_read {f : Store → α} (hW : ∀ s t, W s t → t.forget = s.forget)
    (hf : ∀ s, f s = f s.forget) :
    Agree W (fun s => (.ok (f s), s) : Action ε α) (fun s => (.ok (f s), s)) := by
  intro s t hst
  refine ⟨?_, hst⟩
  show Outcome.ok (f s) = Outcome.ok (f t)
  rw [hf s, hf t, hW s t hst]

end Action

/-! ### Relations that the engine keeps -/

/-- Two engines that differ at most in having a resolution cache of their own. -/
structure Engine.Twin (E E' : Engine) : Prop where
  types : E'.types = E.types
  ranker : E'.ranker = E.ranker
  strict : E'.options.strict = E.options.strict
  expando : E'.options.expando = E.options.expando

/-- An engine beside itself. -/
theorem Engine.Twin.refl (E : Engine) : E.Twin E := ⟨rfl, rfl, rfl, rfl⟩

/-- A relation between the stores of two engines that no elementary change of the store breaks;
programs see no difference between related stores. -/
structure Engine.Invariant (W : Store → Store → Prop) (E E' : Engine) : Prop
    extends E.Twin E' where
  -- what is unrelated is unseen
  forget : ∀ s t, W s t → t.forget = s.forget
  -- changes on both sides keep the relation
  create : ∀ s t o, W s t → W (s.create o).2 (t.create o).2
  setCell : ∀ s t cell contents, W s t → W (s.setCell cell contents) (t.setCell cell contents)
  newInstance : ∀ s t type storage, W s t →
    W (s.newInstance type storage).2 (t.newInstance type storage).2
  modifyInstance : ∀ s t id f, W s t → W (s.modifyInstance id f) (t.modifyInstance id f)
  writeStatic : ∀ s t key v, W s t → W (s.writeStatic key v) (t.writeStatic key v)
  record : ∀ s t label this args, W s t →
    W (s.record E.types label this args) (t.record E.types label this args)
  -- the same property is found on both sides
  own : ∀ s t id name, W s t →
    (E.ownProperty s id name).1 = (E'.ownProperty t id name).1 ∧
      W (E.ownProperty s id name).2 (E'.ownProperty t id name).2

/-- Two realms whose engines keep `W`, and whose ways back into the engine keep it as well. -/
structure Realm.Alike (W : Store → Store → Prop) (R R' : Realm) : Prop
    extends R.toEngine.Invariant W R'.toEngine where
  enter : ∀ hook, Action.Agree W (R.enter hook) (R'.enter hook)

namespace Realm.Alike

open Action

variable {W : Store → Store → Prop} {R R' : Realm} {ε : Type}

/-! ### New objects -/

/-- Related stores have the same objects. -/
theorem heap_eq (h : R.Alike W R') {s t : Store} (hst : W s t) : t.heap = s.heap := by
  have hheap : t.forget.heap = s.forget.heap := by rw [h.forget s t hst]
  exact hheap

/-- The identity of a new object is the same on both sides. -/
private theorem create_eq (h : R.Alike W R') {s t : Store} (hst : W s t) (o : ScriptObject) :
    (t.create o).1 = (s.create o).1 := by
  simp [Store.create, Heap.create, h.heap_eq hst]

/-- A new array has the same identity on both sides. -/
private theorem newArray (h : R.Alike W R') {s t : Store} (hst : W s t)
    (elements : List ScriptValue) :
    (s.newArray elements).1 = (t.newArray elements).1 ∧
      W (s.newArray elements).2 (t.newArray elements).2 := by
  simp only [Store.newArray, h.create_eq hst, true_and]
  exact h.create s t _ hst

/-- A new wrapper has the same identity on both sides. -/
private theorem wrap (h : R.Alike W R') {s t : Store} (hst : W s t) (ref : HostRef) :
    (s.wrap R.types ref).1 = (t.wrap R'.types ref).1 ∧
      W (s.wrap R.types ref).2 (t.wrap R'.types ref).2 := by
  simp only [Store.wrap, h.types, h.create_eq hst, true_and]
  exact h.create s t _ hst

/-- A new type reference has the same identity on both sides. -/
private theorem typeReference (h : R.Alike W R') {s t : Store} (hst : W s t) (type : TypeId) :
    (s.typeReference type).1 = (t.typeReference type).1 ∧
      W (s.typeReference type).2 (t.typeReference type).2 := by
  -- the object in the slot `prototype` is made first, so its identity is in the second one
  have hW := h.create s t (.make .plain (some Store.objectPrototype)) hst
  simp only [Store.typeReference, h.create_eq hst, h.create_eq hW, true_and]
  exact h.create _ _ _ hW

mutual

/-- The script form of a host value is made alike: objects are new on both sides, in the same order.
-/
private theorem fromHost (h : R.Alike W R') {s t : Store} (hst : W s t) :
    ∀ v : HostValue, (s.fromHost R.types v).1 = (t.fromHost R'.types v).1 ∧
      W (s.fromHost R.types v).2 (t.fromHost R'.types v).2
  | .undefined | .null | .bool _ | .integer .. | .float _ | .double _ | .string _ | .constant ..
  | .script _ => by unfold Store.fromHost; exact ⟨rfl, hst⟩
  | .object ref => by simpa only [Store.fromHost] using h.wrap hst ref
  | .hostType id => by simpa only [Store.fromHost] using h.typeReference hst id
  | .array _ items => by
    -- the elements are made before the array
    obtain ⟨heq, hW⟩ := fromHostAll h hst items
    simp only [Store.fromHost, ← heq]
    exact h.newArray hW _

/-- The script forms of several host values are made one after the other. -/
private theorem fromHostAll (h : R.Alike W R') {s t : Store} (hst : W s t) :
    ∀ vs : List HostValue, (s.fromHostAll R.types vs).1 = (t.fromHostAll R'.types vs).1 ∧
      W (s.fromHostAll R.types vs).2 (t.fromHostAll R'.types vs).2
  | [] => by unfold Store.fromHostAll; exact ⟨rfl, hst⟩
  | v :: rest => by
    obtain ⟨hfirst, hW⟩ := fromHost h hst v
    obtain ⟨hothers, hW⟩ := fromHostAll h hW rest
    simp only [Store.fromHostAll, hfirst, hothers, true_and]
    exact hW

end

/-! ### Programs -/

/-- The script form of a host value. -/
theorem fromHost_agree (h : R.Alike W R') (v : HostValue) :
    Agree W (R.fromHost v : Action ε ScriptValue) (R'.fromHost v) :=
  agree_ok fun _ _ hst => h.fromHost hst v

/-- A conversion to a host type reads the objects, and changes nothing. -/
theorem convertTo_agree (h : R.Alike W R') (v : ScriptValue) (target : TypeId) :
    Agree W (R.convertTo v target) (R'.convertTo v target) := by
  unfold Realm.convertTo
  rw [h.types]
  refine agree_getStore h.forget (fun s => ?_) (fun s => ?_) fun s => ?_
  · simp only [Store.convertTo?_forget]
  · simp only [Store.convertTo?_forget]
  · exact (agree_ofOption _).bind agree_ofExcept

/-- The host form of a value reads the objects, and changes nothing. -/
theorem toHost_agree (h : R.Alike W R') (v : ScriptValue) (target : Option TypeId) :
    Agree W (R.toHost v target) (R'.toHost v target) := by
  unfold Realm.toHost
  rw [h.types]
  refine agree_getStore h.forget (fun s => ?_) (fun s => ?_) fun s => ?_
  · simp only [Store.toHost?_forget]
  · simp only [Store.toHost?_forget]
  · exact (agree_ofOption _).bind agree_ofExcept

/-- A look at the storage of an instance. -/
private theorem peek_agree (h : R.Alike W R') (ref : HostRef) (layout : String) :
    Agree W (R.peek ref layout) (R'.peek ref layout) := by
  unfold Realm.peek
  rw [h.types]
  refine agree_getStore h.forget (fun _ => rfl) (fun _ => rfl) fun s => ?_
  exact (agree_ofExcept _).bind fun i => agree_pure i.storage

/-- A change of the storage of an instance. -/
private theorem update_agree (h : R.Alike W R') (ref : HostRef) (layout : String)
    (change : Storage → Except HostError Storage) :
    Agree W (R.update ref layout change) (R'.update ref layout change) := by
  unfold Realm.update
  rw [h.types]
  refine agree_getStore h.forget (fun _ => rfl) (fun _ => rfl) fun s => ?_
  refine (agree_ofExcept _).bind fun i => (agree_ofExcept _).bind fun storage => ?_
  exact agree_modify fun s t hst => h.modifyInstance s t ref.id _ hst

/-- A part that holds an instance: it is marked and unmarked alike. -/
private theorem holding_agree {α : Type} (h : R.Alike W R') (ref : HostRef) (layout : String)
    (mode : BorrowMode) {act act' : Action HostError α} (hact : Agree W act act') :
    Agree W (R.holding ref layout mode act) (R'.holding ref layout mode act') := by
  intro s t hst
  -- whether the instance may be held is part of what programs see
  have hborrow : t.borrow R.types ref layout mode = s.borrow R.types ref layout mode := by
    show t.forget.borrow R.types ref layout mode = s.forget.borrow R.types ref layout mode
    rw [h.forget s t hst]
  unfold Realm.holding
  rw [h.types, hborrow]
  cases s.borrow R.types ref layout mode with
  | error e => exact ⟨rfl, hst⟩
  | ok i =>
    -- marking, the part itself, and unmarking keep the stores related one after the other
    obtain ⟨heq, hW⟩ := hact _ _ (h.modifyInstance s t ref.id
      (fun i => { i with borrow := i.borrow.acquire mode }) hst)
    exact ⟨heq, h.modifyInstance _ _ ref.id _ hW⟩

/-- Every question of a program has the same answer on both sides. -/
theorem answer_agree (h : R.Alike W R') (query : Query) :
    Agree W (R.answer query : Action ε query.Answer) (R'.answer query) := by
  cases query with
  | enter hook => exact (h.enter hook).capture
  | fromHost v => exact h.fromHost_agree v
  | toHost v target => exact (h.toHost_agree v target).capture
  | convertTo v target => exact (h.convertTo_agree v target).capture
  | coerce v target => simp only [answer, h.types]; exact agree_pure _
  | extract c v => simp only [answer, h.types]; exact agree_pure _
  | newObject prototype =>
    refine agree_ok fun s t hst => ?_
    -- the prototype is taken if it is there, and both stores have the same objects
    have hthere (p : ObjectId) : t.object? p = s.object? p := by
      rw [Store.object?, h.heap_eq hst, Store.object?]
    simp only [Store.newObject, hthere, h.create_eq hst, true_and]
    exact h.create s t _ hst
  | newArray elements => exact agree_ok fun s t hst => h.newArray hst elements
  | wrap ref => exact agree_ok fun s t hst => h.wrap hst ref
  | typeReference type => exact agree_ok fun s t hst => h.typeReference hst type
  | newInstance type storage =>
    refine agree_ok fun s t hst => ?_
    -- the new instance takes the next free number
    have hsize : t.forget.instances = s.forget.instances := by rw [h.forget s t hst]
    refine ⟨?_, h.newInstance s t type storage hst⟩
    show (⟨type, s.instances.size⟩ : HostRef) = ⟨type, t.instances.size⟩
    exact congrArg (fun instances : Array Instance => HostRef.mk type instances.size) hsize.symm
  | hostTarget v => exact agree_read h.forget fun _ => rfl
  | describe v => simp only [answer, h.types]; exact agree_read h.forget fun _ => rfl
  | global name => exact agree_read h.forget fun _ => rfl
  | peek ref layout => exact (h.peek_agree ref layout).capture
  | update ref layout change => exact (h.update_agree ref layout change).capture
  | readStatic key => exact agree_read h.forget fun _ => rfl
  | writeStatic key v => exact agree_modify fun s t hst => h.writeStatic s t key v hst
  | record label this args =>
    simp only [answer, h.types]
    exact agree_modify fun s t hst => h.record s t label this args hst

/-- A program runs alike in both realms. -/
theorem run_agree (h : R.Alike W R') {y : Yield} (p : Program y) :
    Agree W (R.run p) (R'.run p) := by
  -- an answer is the same on both sides, so the program goes on in the same way
  induction p with
  | done result => exact agree_pure result
  | fail cause => exact agree_throw cause
  | panic payload => exact agree_panic payload
  | ask query next ih => exact (h.answer_agree query).bind ih
  | hold ref layout mode inside next ihInside ih =>
    exact (h.holding_agree ref layout mode ihInside).capture.bind ih
  | makeFunction name body next _ ih =>
    refine (agree_ok fun s t hst => ?_).bind ih
    simp only [Store.newFunction, h.create_eq hst, true_and]
    exact h.create s t _ hst

/-- Host code behind a call boundary. -/
theorem guarded_agree {α : Type} {act act' : Action HostError α} (hact : Agree W act act') :
    Agree W (guarded act) (guarded act') :=
  hact.contained.mapError BridgeError.host

/-! ### Calls -/

/-- Arguments are converted alike, from left to right, and omitted ones get their defaults. -/
theorem convertArguments_agree (h : R.Alike W R') (position : Nat) (params : List Parameter)
    (args : List ScriptValue) :
    Agree W (R.convertArguments position params args)
      (R'.convertArguments position params args) := by
  induction params generalizing position args with
  | nil => exact agree_pure []
  | cons p params ih =>
    -- an argument is given, or omitted
    cases args with
    | cons arg args =>
      refine ((h.convertTo_agree arg p.type).mapError BridgeError.conversion).bind fun first => ?_
      exact (ih (position + 1) args).bind fun others => agree_pure (first :: others)
    | nil =>
      simp only [convertArguments]
      -- a required parameter refuses, an optional one runs its default
      cases p.default with
      | none => exact (agree_throw _).bind fun first =>
          (ih (position + 1) []).bind fun others => agree_pure (first :: others)
      | some default =>
        refine ((h.run_agree default).mapError BridgeError.host).bind fun first => ?_
        exact (ih (position + 1) []).bind fun others => agree_pure (first :: others)

/-- The first attempt that succeeds is the same on both sides. -/
theorem firstSuccess_agree {ι α : Type} {attempt attempt' : ι → Action BridgeError α}
    (h : ∀ i, Agree W (attempt i) (attempt' i)) (l : List ι) :
    Agree W (firstSuccess attempt l) (firstSuccess attempt' l) := by
  induction l with
  | nil => exact agree_pure none
  | cons i rest ih =>
    refine (h i).capture.bind fun r => ?_
    -- a failed attempt is dropped, but what it did to the store is not
    cases r with
    | ok a => exact agree_pure (some a)
    | error e => exact ih

/-- What comes after the attempts: the result is finished, or all of them have failed. -/
theorem settle_agree {α : Type} {finish finish' : α → Action BridgeError ScriptValue}
    (hfinish : ∀ a, Agree W (finish a) (finish' a)) (refusal : InvocationError)
    (found : Option α) : Agree W (settle finish refusal found) (settle finish' refusal found) := by
  cases found with
  | some a => exact hfinish a
  | none => exact agree_throw _

/-- One overload of a method: its arguments, then its body. -/
private theorem tryCandidate_agree (h : R.Alike W R') (this : Option HostRef)
    (args : List ScriptValue) (candidate : Candidate .value) :
    Agree W (R.tryCandidate this args candidate) (R'.tryCandidate this args candidate) :=
  (h.convertArguments_agree 0 candidate.params args).bind fun converted =>
    guarded_agree (h.run_agree (candidate.body ⟨this, converted⟩))

/-- One constructor: its arguments, then its body. -/
private theorem tryConstructor_agree (h : R.Alike W R') (args : List ScriptValue)
    (candidate : Candidate .storage) :
    Agree W (R.tryConstructor args candidate) (R'.tryConstructor args candidate) :=
  (h.convertArguments_agree 0 candidate.params args).bind fun converted =>
    guarded_agree (h.run_agree (candidate.body ⟨none, converted⟩))

/-- A call of host methods ranks and tries the overloads alike. -/
theorem callMethods_agree (h : R.Alike W R') (group : MethodGroup) (target : Option HostRef)
    (args : List ScriptValue) :
    Agree W (R.callMethods group target args) (R'.callMethods group target args) := by
  unfold Realm.callMethods
  rw [h.types, h.ranker]
  refine agree_getStore h.forget (fun _ => rfl) (fun _ => rfl) fun s => ?_
  refine (firstSuccess_agree (h.tryCandidate_agree target args) _).bind fun found => ?_
  exact settle_agree h.fromHost_agree _ found

/-- A new instance gets the same number on both sides. -/
private theorem newInstance_agree (h : R.Alike W R') (type : TypeId) (storage : Storage) :
    Agree W (Action.state (·.newInstance type storage) : Action ε HostRef)
      (Action.state (·.newInstance type storage)) :=
  h.answer_agree (.newInstance type storage)

/-- The default value of a type, which is a new instance for value types that have one. -/
private theorem defaultValue_agree (h : R.Alike W R') (type : TypeId) :
    Agree W (R.defaultValue type) (R'.defaultValue type) := by
  unfold Realm.defaultValue
  rw [h.types]
  cases R.types.kind type with
  | primitive kind => exact agree_pure _
  | declared kind =>
    cases kind with
    | value =>
      cases (R.types.entry? type).bind (·.defaultInstance) with
      | none => exact agree_pure none
      | some make =>
        -- the factory is run bare, so a panic of it goes on alike, too
        refine ((h.run_agree make).mapError BridgeError.host).bind fun storage => ?_
        exact (h.newInstance_agree type storage).bind fun ref =>
          agree_pure (some (HostValue.object ref))
    | reference => exact agree_pure none
    | enumeration => exact agree_pure _
    | interface => exact agree_pure none

/-- A construction by the constructors of the type. -/
private theorem constructOverload_agree (h : R.Alike W R') (type : TypeId)
    (args : List ScriptValue) :
    Agree W (R.constructOverload type args) (R'.constructOverload type args) := by
  unfold Realm.constructOverload
  rw [h.types, h.ranker]
  refine agree_getStore h.forget (fun _ => rfl) (fun _ => rfl) fun s => ?_
  refine (firstSuccess_agree (h.tryConstructor_agree args) _).bind fun found => ?_
  refine settle_agree (fun storage => ?_) _ found
  exact (h.newInstance_agree type storage).bind fun ref => h.fromHost_agree (.object ref)

/-- A construction, by default where a value type is constructed without arguments. -/
theorem constructType_agree (h : R.Alike W R') (type : TypeId) (args : List ScriptValue) :
    Agree W (R.constructType type args) (R'.constructType type args) := by
  unfold Realm.constructType
  rw [h.types]
  split
  · refine (h.defaultValue_agree type).bind fun byDefault => ?_
    cases byDefault with
    | some v => exact h.fromHost_agree v
    | none => exact h.constructOverload_agree type args
  · exact h.constructOverload_agree type args

/-! ### Reading and writing -/

/-- The number of elements of an instance. -/
private theorem countOf_agree (h : R.Alike W R') (target : HostRef) :
    Agree W (R.countOf target) (R'.countOf target) := by
  unfold Realm.countOf
  rw [h.types]
  cases (R.types.entry? target.type).bind (·.count) with
  | some count => exact h.run_agree (count target)
  | none => exact agree_pure 0

/-- A read of an indexed element, for which a missing key is undefined. -/
private theorem readIndexed_agree (h : R.Alike W R') {get get' : Action HostError HostValue}
    (hget : Agree W get get') : Agree W (R.readIndexed get) (R'.readIndexed get') := by
  refine hget.contained.capture.bind fun r => ?_
  cases r with
  | ok v => exact h.fromHost_agree v
  | error e =>
    -- a missing key is the one error that is no error of the read
    cases e with
    | keyNotFound key => exact agree_pure ScriptValue.undefined
    | _ => exact agree_throw _

/-- A key converts alike, since both engines have the same types. -/
private theorem indexKey_eq (h : R.Alike W R') (member : Indexer) (key : String) :
    R'.indexKey member key = R.indexKey member key := by
  simp only [Realm.indexKey, h.types]

/-- A read of a property, or of the value that hides it. -/
private theorem readProperty_agree (h : R.Alike W R') (member : Property) (target : Option HostRef)
    (shadow : Option ScriptValue) :
    Agree W (R.readProperty member target shadow) (R'.readProperty member target shadow) := by
  cases shadow with
  | some shadow => exact agree_pure shadow
  | none =>
    simp only [Realm.readProperty]
    cases member.get with
    | none => exact agree_pure ScriptValue.undefined
    | some get => exact (guarded_agree (h.run_agree (get target))).bind h.fromHost_agree

/-- Both sides read the same cells, so a shared descriptor is the same on both. -/
theorem read_agree (h : R.Alike W R') (d : Descriptor) : Agree W (R.read d) (R'.read d) := by
  -- by the sort of the descriptor; where a program runs, its runs agree
  cases d with
  | data value flags => exact agree_pure value
  | accessor get flags => exact h.run_agree get
  | count target =>
    exact (guarded_agree (h.countOf_agree target)).bind fun n =>
      agree_pure (ScriptValue.number (.ofInt n))
  | absent => exact agree_pure ScriptValue.undefined
  | field member target =>
    exact (guarded_agree (h.run_agree (member.get target))).bind h.fromHost_agree
  | property member target shadow => exact h.readProperty_agree member target shadow
  | sharedData cell flags =>
    exact agree_getStore h.forget (fun _ => rfl) (fun _ => rfl) fun s => agree_pure _
  | sharedProperty member target cell =>
    exact agree_getStore h.forget (fun _ => rfl) (fun _ => rfl) fun s =>
      h.readProperty_agree member target (s.heap.cell cell)
  | index member target key =>
    simp only [Realm.read, h.indexKey_eq]
    cases member.get with
    | none => exact agree_pure ScriptValue.undefined
    | some get =>
      cases R.indexKey member key with
      | error e => exact agree_pure ScriptValue.undefined
      | ok k => exact h.readIndexed_agree (h.run_agree (get target k))

/-- A change of a cell. -/
private theorem setCell_agree (h : R.Alike W R') (cell : Nat) (contents : Option ScriptValue) :
    Agree W (modify (·.setCell cell contents) : Action ε Unit) (modify (·.setCell cell contents)) :=
  agree_modify fun s t hst => h.setCell s t cell contents hst

/-- A write to a property hides it with the same values on both sides. -/
private theorem writeProperty_agree (h : R.Alike W R') (member : Property) (target : Option HostRef)
    (shadow : Option ScriptValue) (value : ScriptValue) :
    Agree W (R.writeProperty member target shadow value)
      (R'.writeProperty member target shadow value) := by
  unfold Realm.writeProperty
  cases member.set with
  | none => exact agree_pure _
  | some set =>
    refine (h.convertTo_agree value member.type).capture.bind fun r => ?_
    -- a value that converts goes to the setter, any other one hides the property
    cases r with
    | ok v => exact (guarded_agree (h.run_agree (set target v))).bind fun _ => agree_pure _
    | error e => exact agree_pure _

/-- A write to what stands in a slot makes the same descriptor on both sides. -/
theorem write_agree (h : R.Alike W R') (d : Descriptor) (value : ScriptValue) :
    Agree W (R.write d value) (R'.write d value) := by
  cases d with
  | data old flags => exact agree_pure _
  | accessor get flags => exact agree_pure _
  | count target => exact agree_pure _
  | absent => exact agree_pure _
  | field member target =>
    simp only [Realm.write]
    cases member.set with
    | none => exact agree_pure _
    | some set =>
      have hconvert := h.convertTo_agree value member.type
      refine (hconvert.mapError BridgeError.conversion).bind fun v => ?_
      exact (guarded_agree (h.run_agree (set target v))).bind fun _ => agree_pure _
  | property member target shadow =>
    exact (h.writeProperty_agree member target shadow value).bind fun _ => agree_pure _
  | sharedData cell flags => exact (h.setCell_agree cell (some value)).bind fun _ => agree_pure _
  | sharedProperty member target cell =>
    -- both stores have the same cells, since they have the same heap
    refine agree_getStore h.forget (fun _ => rfl) (fun _ => rfl) fun s => ?_
    refine (h.writeProperty_agree member target (s.heap.cell cell) value).bind fun shadow => ?_
    exact (h.setCell_agree cell shadow).bind fun _ => agree_pure _
  | index member target key =>
    simp only [Realm.write, h.indexKey_eq]
    cases member.set with
    | none => exact agree_pure _
    | some set =>
      -- the key is converted before the value
      refine (agree_ofExcept _).bind fun k => ?_
      refine ((h.convertTo_agree value member.valueType).mapError BridgeError.conversion).bind
        fun v => ?_
      exact (guarded_agree (h.run_agree (set target k v))).bind fun _ => agree_pure _

/-- A request for an own property. -/
theorem own_agree (h : R.Alike W R') (id : ObjectId) (name : String) :
    Agree W (R.own id name : Action ε (Option Handle)) (R'.own id name) :=
  agree_ok fun s t hst => h.own s t id name hst

/-- A request for an own property that is not marked as absent. -/
theorem present_agree (h : R.Alike W R') (id : ObjectId) (name : String) :
    Agree W (R.present id name : Action ε (Option Handle)) (R'.present id name) :=
  (h.own_agree id name).bind fun _ => agree_pure _

/-- The question whether a write may go ahead. -/
theorem canPut_agree (h : R.Alike W R') (id : ObjectId) (name : String) :
    Agree W (R.canPut id name : Action ε Bool) (R'.canPut id name) := by
  refine (h.present_agree id name).bind fun found => ?_
  cases found with
  | some handle => exact agree_pure _
  | none => exact agree_pure true

/-- A read along a chain of objects. -/
theorem getFrom_agree (h : R.Alike W R') (name : String) (chain : List ObjectId) :
    Agree W (R.getFrom name chain) (R'.getFrom name chain) := by
  -- the first object of the chain that has the property decides
  induction chain with
  | nil => exact agree_pure ScriptValue.undefined
  | cons id rest ih =>
    refine (h.present_agree id name).bind fun found => ?_
    cases found with
    | some handle => exact h.read_agree handle.descriptor
    | none => exact ih

/-- A read of a property, of the object or behind it. -/
theorem get_agree (h : R.Alike W R') (id : ObjectId) (name : String) :
    Agree W (R.get id name) (R'.get id name) :=
  agree_getStore h.forget (fun _ => rfl) (fun _ => rfl) fun s =>
    h.getFrom_agree name (s.heap.chain id)

/-! ### Entry points -/

/-- A call of an object runs its body, its methods or the construction of its type. -/
theorem callObject_agree (h : R.Alike W R') (callee : ObjectId) (this : ScriptValue)
    (args : List ScriptValue) :
    Agree W (R.callObject callee this args) (R'.callObject callee this args) := by
  unfold Realm.callObject
  rw [h.types]
  refine agree_getStore h.forget (fun _ => rfl) (fun _ => rfl) fun s => ?_
  split
  · next body _ => exact h.run_agree (body this args)
  · next group target _ => exact h.callMethods_agree group target args
  · next type _ => exact h.constructType_agree type args
  · exact agree_throw _

/-- Only type references are constructed. -/
theorem constructObject_agree (h : R.Alike W R') (callee : ObjectId) (args : List ScriptValue) :
    Agree W (R.constructObject callee args) (R'.constructObject callee args) := by
  unfold Realm.constructObject
  rw [h.types]
  refine agree_getStore h.forget (fun _ => rfl) (fun _ => rfl) fun s => ?_
  split
  · next type _ => exact h.constructType_agree type args
  · exact agree_throw _

/-- A refusal whose text depends on the store as programs see it. -/
private theorem refusal_agree {α : Type} (h : R.Alike W R') {f : Store → BridgeError}
    (hf : ∀ s, f s = f s.forget) :
    Agree W (getStore >>= fun s => (Action.throw (f s) : Action BridgeError α))
      (getStore >>= fun s => Action.throw (f s)) :=
  agree_getStore h.forget (fun s => congrArg Action.throw (hf s))
    (fun s => congrArg Action.throw (hf s)) fun _ => agree_throw _

/-- A read of a member, of an object or of another value. -/
theorem getMember_agree (h : R.Alike W R') (base : ScriptValue) (name : String) :
    Agree W (R.getMember base name) (R'.getMember base name) := by
  cases base with
  | object id => exact h.get_agree id name
  | undefined => exact h.refusal_agree fun _ => rfl
  | null => exact h.refusal_agree fun _ => rfl
  | boolean b => exact agree_pure _
  | number x => exact agree_pure _
  | string text => exact agree_pure _

/-- A call of a value, if it is callable. -/
theorem call_agree (h : R.Alike W R') (callee this : ScriptValue) (args : List ScriptValue) :
    Agree W (R.call callee this args) (R'.call callee this args) := by
  refine agree_getStore h.forget (fun _ => rfl) (fun _ => rfl) fun s => ?_
  cases callee.object?.filter s.isCallable with
  | some id => exact h.callObject_agree id this args
  | none => exact agree_throw _

/-- A call of a member of a value. -/
theorem callMethod_agree (h : R.Alike W R') (base : ScriptValue) (name : String)
    (args : List ScriptValue) :
    Agree W (R.callMethod base name args) (R'.callMethod base name args) := by
  refine (h.getMember_agree base name).bind fun callee => ?_
  -- whether it is callable is decided when it has been read
  refine agree_getStore h.forget (fun _ => rfl) (fun _ => rfl) fun s => ?_
  cases callee.object?.filter s.isCallable with
  | some id => exact h.callObject_agree id base args
  | none => exact agree_throw _

/-- A construction by a value. -/
theorem construct_agree (h : R.Alike W R') (callee : ScriptValue) (args : List ScriptValue) :
    Agree W (R.construct callee args) (R'.construct callee args) := by
  cases callee with
  | object id => exact h.constructObject_agree id args
  | undefined | null | boolean _ | number _ | string _ => exact h.refusal_agree fun _ => rfl

/-- The test for the prototype of a callee among those of a value. -/
private theorem ordinaryHasInstance_agree (h : R.Alike W R') (callee : ObjectId)
    (value : ScriptValue) :
    Agree W (R.ordinaryHasInstance callee value) (R'.ordinaryHasInstance callee value) := by
  unfold Realm.ordinaryHasInstance
  rw [h.types]
  refine agree_getStore h.forget (fun _ => rfl) (fun _ => rfl) fun s => ?_
  split
  · exact agree_throw _
  · cases value with
    | object id =>
      -- reading the prototype can run host code, so the chain is walked on the store after it
      refine (h.get_agree callee "prototype").bind fun found => ?_
      cases found with
      | object prototype =>
        exact agree_getStore h.forget (fun _ => rfl) (fun _ => rfl) fun s => agree_pure _
      | undefined | null | boolean _ | number _ | string _ => exact agree_pure false
    | undefined | null | boolean _ | number _ | string _ => exact agree_pure false

/-- The test whether a value is an instance of a callee. -/
theorem hasInstance_agree (h : R.Alike W R') (callee : ObjectId) (value : ScriptValue) :
    Agree W (R.hasInstance callee value) (R'.hasInstance callee value) := by
  refine agree_getStore h.forget (fun _ => rfl) (fun _ => rfl) fun s => ?_
  split
  · split
    · exact agree_pure true
    · exact h.ordinaryHasInstance_agree callee value
  · exact h.ordinaryHasInstance_agree callee value

/-- The test for two values. -/
theorem instanceOf_agree (h : R.Alike W R') (value callee : ScriptValue) :
    Agree W (R.instanceOf value callee) (R'.instanceOf value callee) := by
  cases callee with
  | object id => exact h.hasInstance_agree id value
  | undefined | null | boolean _ | number _ | string _ => exact h.refusal_agree fun _ => rfl

/-- The elements of an object that can be read as a sequence. -/
theorem arrayLike_agree (h : R.Alike W R') (id : ObjectId) :
    Agree W (R.arrayLike id) (R'.arrayLike id) := by
  unfold Realm.arrayLike
  rw [h.types]
  refine agree_getStore h.forget (fun _ => rfl) (fun _ => rfl) fun s => ?_
  split
  · exact agree_throw _
  · -- the length is read once, and then every element below it
    refine (h.get_agree id "length").bind fun length => ?_
    cases length.number? with
    | none => exact agree_pure []
    | some x =>
      dsimp only
      split
      · exact agree_throw _
      · exact agree_mapM (fun i => h.get_agree id (toString i)) _

end Realm.Alike

end Membrane
