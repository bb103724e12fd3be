import Membrane.Realm.Hooks

/-!
# What more nesting does not change

`Action.Below act act'` says that `act'` does what `act` does, wherever `act` does not end because
its granted steps ran out. It is closed under everything that actions are built with, because no
program sees such an end: it ends whatever runs. So a realm whose way back into the engine is below
that of another (`Realm.Within`) is below it in everything it does, whatever the options of either.

## Key results

* `Engine.performWithin_below`: an entry that ends with some limit of nested entries ends in the
  same way with every greater limit.
-/

namespace Membrane

namespace Action

variable {ε ε' α β : Type}

/-- Either the granted steps run out in `act`, or `act'` ends as `act` does. -/
def Below (act act' : Action ε α) : Prop :=
  ∀ s, (∃ t, act s = (.exhausted, t)) ∨ act' s = act s

/-- An action does as it does itself. -/
theorem Below.refl (act : Action ε α) : Below act act := fun _ => .inr rfl

/-- Equal actions do alike. -/
theorem below_of_eq {act act' : Action ε α} (h : act' = act) : Below act act' := by
  rw [h]
  exact .refl act

/-- What comes to no end is below every action. -/
theorem below_exhausted (act : Action ε α) : Below exhausted act := fun s => .inl ⟨s, rfl⟩

/-- Where the first one ends, the second one ends alike. -/
theorem Below.eq_of_ne_exhausted {act act' : Action ε α} (h : Below act act') {s : Store}
    (hs : (act s).1 ≠ .exhausted) : act' s = act s := by
  obtain ⟨t, ht⟩ | heq := h s
  · rw [ht] at hs
    exact absurd rfl hs
  · exact heq

/-- One action after another. -/
theorem Below.bind {act act' : Action ε α} {next next' : α → Action ε β} (h : Below act act')
    (hnext : ∀ a, Below (next a) (next' a)) : Below (act >>= next) (act' >>= next') := by
  intro s
  obtain ⟨t, ht⟩ | heq := h s
  · exact .inl ⟨t, by rw [bind_apply, ht]⟩
  · simp only [bind_apply, heq]
    generalize act s = r
    obtain ⟨o, t⟩ := r
    -- the first parts have ended alike, so what follows decides
    cases o with
    | ok a => exact hnext a t
    | error e => exact .inr rfl
    | panicked payload => exact .inr rfl
    | exhausted => exact .inr rfl

/-- The same action first, then actions one below the other whatever its result. -/
theorem Below.bind_right (act : Action ε α) {next next' : α → Action ε β}
    (hnext : ∀ a, Below (next a) (next' a)) : Below (act >>= next) (act >>= next') :=
  (Below.refl act).bind hnext

/-- Another error. -/
theorem Below.mapError {act act' : Action ε α} (h : Below act act') (f : ε → ε') :
    Below (act.mapError f) (act'.mapError f) := by
  intro s
  obtain ⟨t, ht⟩ | heq := h s
  · exact .inl ⟨t, by rw [Action.mapError, ht]⟩
  · exact .inr (by simp only [Action.mapError, heq])

/-- An error that is taken as a result. -/
theorem Below.capture {act act' : Action ε α} (h : Below act act') :
    Below (act.capture : Action ε' (Except ε α)) act'.capture := by
  intro s
  obtain ⟨t, ht⟩ | heq := h s
  · exact .inl ⟨t, by rw [capture_apply, ht]⟩
  · exact .inr (by simp only [capture_apply, heq])

/-- A panic that is taken as an error. -/
theorem Below.contained {act act' : Action HostError α} (h : Below act act') :
    Below act.contained act'.contained := by
  intro s
  obtain ⟨t, ht⟩ | heq := h s
  · exact .inl ⟨t, by rw [Action.contained, ht]⟩
  · exact .inr (by simp only [Action.contained, heq])

/-- What is done behind the guard of host code. -/
theorem Below.guarded {act act' : Action HostError α} (h : Below act act') :
    Below (Realm.guarded act) (Realm.guarded act') :=
  h.contained.mapError BridgeError.host

/-- One action for each entry of a list. -/
theorem below_mapM {ι : Type} {f f' : ι → Action ε α} (h : ∀ i, Below (f i) (f' i)) (l : List ι) :
    Below (l.mapM f) (l.mapM f') := by
  induction l with
  | nil => exact .refl _
  | cons i rest ih =>
    simp only [List.mapM_cons]
    exact (h i).bind fun a => ih.bind fun others => .refl (pure (a :: others))

end Action

/-- An entry that writes or deletes: the options say what comes of a refusal. -/
def Hook.isWrite : Hook → Bool
  | .setMember .. | .deleteMember .. => true
  | _ => false

/-- Two realms over the same host types, the second of which goes back into its engine as the first
does, and possibly further. Their options can differ. -/
structure Realm.Within (R R' : Realm) : Prop where
  types : R'.types = R.types
  ranker : R'.ranker = R.ranker
  enter : ∀ hook, Action.Below (R.enter hook) (R'.enter hook)

namespace Realm.Within

open Action (Below)

variable {R R' : Realm} {ε : Type}

/-! ### Programs -/

/-- Host values are made visible alike. -/
private theorem fromHost_eq (h : R.Within R') (v : HostValue) :
    (R'.fromHost v : Action ε ScriptValue) = R.fromHost v := by
  rw [Realm.fromHost, Realm.fromHost, h.types]

/-- Values are converted alike. -/
private theorem convertTo_eq (h : R.Within R') (v : ScriptValue) (target : TypeId) :
    R'.convertTo v target = R.convertTo v target := by
  rw [Realm.convertTo, Realm.convertTo, h.types]

/-- What is done while an instance is held. -/
private theorem holding_below {α : Type} (h : R.Within R') (ref : HostRef) (layout : String)
    (mode : BorrowMode) {act act' : Action HostError α} (hact : Below act act') :
    Below (R.holding ref layout mode act) (R'.holding ref layout mode act') := by
  intro s
  simp only [holding, h.types]
  cases s.borrow R.types ref layout mode with
  | error e => exact .inr rfl
  | ok i =>
    -- the mark is taken back in the same way on both sides
    obtain ⟨t, ht⟩ | heq :=
      hact (s.modifyInstance ref.id fun i => { i with borrow := i.borrow.acquire mode })
    · exact .inl ⟨_, by rw [ht]⟩
    · exact .inr (by rw [heq])

/-- The answer to a question of a program. -/
theorem answer_below (h : R.Within R') (query : Query) :
    Below (R.answer query : Action ε query.Answer) (R'.answer query) := by
  cases query with
  | enter hook => exact (h.enter hook).capture
  | describe v =>
    simp only [answer, h.types]
    exact .refl _
  | hostTarget | global | readStatic => exact .refl _
  | _ =>
    -- the store and the host types alone answer these
    refine Action.below_of_eq ?_
    simp only [answer, fromHost, convertTo, toHost, peek, update, h.types]

/-- A program that ends in one realm ends in the same way in the other. -/
theorem run_below (h : R.Within R') {y : Yield} (p : Program y) : Below (R.run p) (R'.run p) := by
  induction p with
  | done result => exact .refl _
  | fail cause => exact .refl _
  | panic payload => exact .refl _
  | ask query next ih => exact (h.answer_below query).bind ih
  | hold ref layout mode inside next ihInside ih =>
    exact (h.holding_below ref layout mode ihInside).capture.bind ih
  | makeFunction name body next _ ih => exact Below.bind_right _ ih

/-! ### Calls -/

/-- The arguments of a call. -/
theorem convertArguments_below (h : R.Within R') (position : Nat) (params : List Parameter)
    (args : List ScriptValue) :
    Below (R.convertArguments position params args)
      (R'.convertArguments position params args) := by
  induction params generalizing position args with
  | nil => exact .refl _
  | cons p params ih =>
    -- a conversion is the same in both; only a default runs a program
    cases args with
    | cons arg args =>
      simp only [convertArguments, h.convertTo_eq]
      exact Below.bind_right _ fun first =>
        (ih (position + 1) args).bind fun others => .refl (pure (first :: others))
    | nil =>
      have hrest : ∀ first, Below
          (R.convertArguments (position + 1) params [] >>= fun others => pure (first :: others))
          (R'.convertArguments (position + 1) params [] >>= fun others => pure (first :: others)) :=
        fun first => (ih (position + 1) []).bind fun others => .refl (pure (first :: others))
      simp only [convertArguments]
      cases p.default with
      | none => exact Below.bind_right _ hrest
      | some default => exact ((h.run_below default).mapError BridgeError.host).bind hrest

/-- The attempts of a search. -/
theorem firstSuccess_below {ι α : Type} {attempt attempt' : ι → Action BridgeError α}
    (h : ∀ i, Below (attempt i) (attempt' i)) (l : List ι) :
    Below (firstSuccess attempt l) (firstSuccess attempt' l) := by
  induction l with
  | nil => exact .refl _
  | cons i rest ih =>
    refine (h i).capture.bind fun r => ?_
    cases r with
    | ok a => exact .refl _
    | error e => exact ih

/-- What a call makes of the attempt that succeeded. -/
private theorem settle_below {α : Type} {finish finish' : α → Action BridgeError ScriptValue}
    (hfinish : ∀ a, finish' a = finish a) (refusal : InvocationError) (found : Option α) :
    Below (settle finish refusal found) (settle finish' refusal found) := by
  rw [show finish' = finish from funext hfinish]
  exact .refl _

/-- A call of a group of methods. -/
theorem callMethods_below (h : R.Within R') (group : MethodGroup) (target : Option HostRef)
    (args : List ScriptValue) :
    Below (R.callMethods group target args) (R'.callMethods group target args) := by
  unfold callMethods
  rw [h.types, h.ranker]
  refine Below.bind_right _ fun s => ?_
  have htry : ∀ candidate, Below (R.tryCandidate target args candidate)
      (R'.tryCandidate target args candidate) := fun candidate =>
    (h.convertArguments_below 0 candidate.params args).bind fun converted =>
      (h.run_below (candidate.body ⟨target, converted⟩)).guarded
  exact (firstSuccess_below htry _).bind fun found => settle_below h.fromHost_eq _ found

/-- The value that a type has by default. -/
private theorem defaultValue_below (h : R.Within R') (type : TypeId) :
    Below (R.defaultValue type) (R'.defaultValue type) := by
  unfold defaultValue
  rw [h.types]
  -- only a declared value type runs a program for its default
  cases R.types.kind type with
  | primitive kind => exact .refl _
  | declared kind =>
    cases kind with
    | value =>
      cases (R.types.entry? type).bind (·.defaultInstance) with
      | none => exact .refl _
      | some make => exact ((h.run_below make).mapError BridgeError.host).bind fun _ => .refl _
    | reference => exact .refl _
    | enumeration => exact .refl _
    | interface => exact .refl _

/-- A construction through a constructor. -/
private theorem constructOverload_below (h : R.Within R') (type : TypeId)
    (args : List ScriptValue) :
    Below (R.constructOverload type args) (R'.constructOverload type args) := by
  unfold constructOverload
  rw [h.types, h.ranker]
  refine Below.bind_right _ fun s => ?_
  -- the candidates are the same and stand in the same order
  have htry : ∀ candidate, Below (R.tryConstructor args candidate)
      (R'.tryConstructor args candidate) := fun candidate =>
    (h.convertArguments_below 0 candidate.params args).bind fun converted =>
      (h.run_below (candidate.body ⟨none, converted⟩)).guarded
  have hwrap : ∀ storage, R'.wrapNew type storage = R.wrapNew type storage := by
    intro storage
    simp only [wrapNew, h.fromHost_eq]
  exact (firstSuccess_below htry _).bind fun found => settle_below hwrap _ found

/-- A construction of a type. -/
theorem constructType_below (h : R.Within R') (type : TypeId) (args : List ScriptValue) :
    Below (R.constructType type args) (R'.constructType type args) := by
  unfold constructType
  rw [h.types]
  split
  · refine (h.defaultValue_below type).bind fun byDefault => ?_
    cases byDefault with
    | some v => exact Action.below_of_eq (h.fromHost_eq v)
    | none => exact h.constructOverload_below type args
  · exact h.constructOverload_below type args

/-! ### Reading and writing -/

/-- The count of an instance. -/
private theorem countOf_below (h : R.Within R') (target : HostRef) :
    Below (R.countOf target) (R'.countOf target) := by
  unfold countOf
  rw [h.types]
  cases (R.types.entry? target.type).bind (·.count) with
  | some count => exact h.run_below (count target)
  | none => exact .refl _

/-- A read through an indexer. -/
private theorem readIndexed_below (h : R.Within R') {get get' : Action HostError HostValue}
    (hget : Below get get') : Below (R.readIndexed get) (R'.readIndexed get') := by
  refine hget.contained.capture.bind fun r => ?_
  cases r with
  | ok v => exact Action.below_of_eq (h.fromHost_eq v)
  | error e => cases e <;> exact .refl _

/-- Reading by a body of host code, and the script form of what it gives. -/
private theorem readBody_below (h : R.Within R') (p : Program .value) :
    Below (guarded (R.run p) >>= R.fromHost) (guarded (R'.run p) >>= R'.fromHost) :=
  (h.run_below p).guarded.bind fun v => Action.below_of_eq (h.fromHost_eq v)

/-- Keys are coerced alike. -/
private theorem indexKey_eq (h : R.Within R') (member : Indexer) (key : String) :
    R'.indexKey member key = R.indexKey member key := by
  rw [indexKey, indexKey, h.types]

/-- A read of a property. -/
private theorem readProperty_below (h : R.Within R') (member : Property) (target : Option HostRef)
    (shadow : Option ScriptValue) :
    Below (R.readProperty member target shadow) (R'.readProperty member target shadow) := by
  cases shadow with
  | some shadow => exact .refl _
  | none =>
    simp only [readProperty]
    cases member.get with
    | none => exact .refl _
    | some get => exact h.readBody_below (get target)

/-- A read of what a name stands for. -/
theorem read_below (h : R.Within R') (d : Descriptor) : Below (R.read d) (R'.read d) := by
  -- what runs no program reads the same
  cases d with
  | data value flags => exact .refl _
  | accessor get flags => exact h.run_below get
  | count target => exact (h.countOf_below target).guarded.bind fun _ => .refl _
  | absent => exact .refl _
  | field member target => exact h.readBody_below (member.get target)
  | property member target shadow => exact h.readProperty_below member target shadow
  | sharedData cell flags => exact .refl _
  | sharedProperty member target cell =>
    exact Below.bind_right _ fun s => h.readProperty_below member target (s.heap.cell cell)
  | index member target key =>
    simp only [read, h.indexKey_eq]
    cases member.get with
    | none => exact .refl _
    | some get =>
      cases R.indexKey member key with
      | error e => exact .refl _
      | ok k => exact h.readIndexed_below (h.run_below (get target k))

/-- A write to a property. -/
private theorem writeProperty_below (h : R.Within R') (member : Property) (target : Option HostRef)
    (shadow : Option ScriptValue) (value : ScriptValue) :
    Below (R.writeProperty member target shadow value)
      (R'.writeProperty member target shadow value) := by
  simp only [writeProperty, h.convertTo_eq]
  cases member.set with
  | none => exact .refl _
  | some set =>
    refine Below.bind_right _ fun r => ?_
    cases r with
    | ok v => exact (h.run_below (set target v)).guarded.bind fun _ => .refl _
    | error e => exact .refl _

/-- A write to what a name stands for. -/
theorem write_below (h : R.Within R') (d : Descriptor) (value : ScriptValue) :
    Below (R.write d value) (R'.write d value) := by
  -- the conversions agree, so the setters are run with the same value
  cases d with
  | data old flags => exact .refl _
  | accessor get flags => exact .refl _
  | count target => exact .refl _
  | absent => exact .refl _
  | field member target =>
    simp only [write, h.convertTo_eq]
    cases member.set with
    | none => exact .refl _
    | some set =>
      exact Below.bind_right _ fun v => (h.run_below (set target v)).guarded.bind fun _ => .refl _
  | property member target shadow =>
    exact (h.writeProperty_below member target shadow value).bind fun _ => .refl _
  | sharedData cell flags => exact .refl _
  | sharedProperty member target cell =>
    refine Below.bind_right _ fun s => ?_
    exact (h.writeProperty_below member target (s.heap.cell cell) value).bind fun _ => .refl _
  | index member target key =>
    simp only [write, h.indexKey_eq, h.convertTo_eq]
    cases member.set with
    | none => exact .refl _
    | some set =>
      exact Below.bind_right _ fun k => Below.bind_right _ fun v =>
        (h.run_below (set target k v)).guarded.bind fun _ => .refl _

/-- A write, and what it leaves in the slot. -/
theorem writeThrough_below (h : R.Within R') (handle : Handle) (value : ScriptValue) :
    Below (R.writeThrough handle value) (R'.writeThrough handle value) :=
  (h.write_below handle.descriptor value).bind fun _ => .refl _

/-! ### Properties -/

/-- Lookups do alike, as they run no host code. -/
private theorem own_eq (h : R.Within R') (id : ObjectId) (name : String) :
    (R'.own id name : Action ε (Option Handle)) = R.own id name := by
  simp only [own, Engine.ownProperty, Engine.bindInstance, Engine.bindStatic, Engine.resolve,
    h.types]

/-- Which own property an object has is a matter of the store and the host types. -/
theorem present_eq (h : R.Within R') (id : ObjectId) (name : String) :
    (R'.present id name : Action ε (Option Handle)) = R.present id name := by
  rw [present, present, h.own_eq]

/-- A read of a name. -/
theorem get_below (h : R.Within R') (id : ObjectId) (name : String) :
    Below (R.get id name) (R'.get id name) := by
  refine Below.bind_right _ fun s => ?_
  -- along the chain, which both read from the same store
  induction s.heap.chain id with
  | nil => exact .refl _
  | cons id rest ih =>
    simp only [getFrom, h.present_eq]
    refine Below.bind_right _ fun found => ?_
    cases found with
    | some handle => exact h.read_below handle.descriptor
    | none => exact ih

/-- A write to what has been found. -/
private theorem putThrough_below (h : R.Within R') (handle : Handle) (name : String)
    (value : ScriptValue) (strict : Bool) :
    Below (R.putThrough handle name value strict) (R'.putThrough handle name value strict) := by
  unfold putThrough
  split
  · exact (h.writeThrough_below handle value).bind fun _ => .refl _
  · exact .refl _

/-- A write to an object that is not a host object. -/
private theorem ordinaryPut_below (h : R.Within R') (id : ObjectId) (name : String)
    (value : ScriptValue) (strict : Bool) :
    Below (R.ordinaryPut id name value strict) (R'.ordinaryPut id name value strict) := by
  simp only [ordinaryPut, h.present_eq]
  refine Below.bind_right _ fun found => ?_
  cases found with
  | some handle => exact h.putThrough_below handle name value strict
  | none => exact .refl _

/-- A write to a host object. -/
private theorem hostPut_below (h : R.Within R') (hexpando : R'.options.expando = R.options.expando)
    (id : ObjectId) (name : String) (value : ScriptValue) (strict : Bool) :
    Below (R.hostPut id name value strict) (R'.hostPut id name value strict) := by
  simp only [hostPut, h.present_eq]
  refine Below.bind_right _ fun s => ?_
  split
  · exact .refl _
  · refine Below.bind_right _ fun found => ?_
    cases found with
    | some handle => exact h.putThrough_below handle name value strict
    | none =>
      -- whether an unknown name gets a slot is the one thing that depends on the options
      simp only [putFound, hexpando]
      exact .refl _

/-- A write to any object. -/
theorem put_below (h : R.Within R') (hexpando : R'.options.expando = R.options.expando)
    (id : ObjectId) (name : String) (value : ScriptValue) (strict : Bool) :
    Below (R.put id name value strict) (R'.put id name value strict) := by
  refine Below.bind_right _ fun s => ?_
  -- where the name of an array stands for an element or the length, nothing is run
  split
  · unfold arrayPut
    split
    · exact .refl _
    · split
      · exact .refl _
      · exact h.ordinaryPut_below id name value strict
  · exact h.hostPut_below hexpando id name value strict
  · exact h.hostPut_below hexpando id name value strict
  · exact h.ordinaryPut_below id name value strict

/-- To delete and to define runs no host code. -/
theorem delete_eq (h : R.Within R') (id : ObjectId) (name : String) (strict : Bool) :
    R'.delete id name strict = R.delete id name strict := by
  simp only [delete, ordinaryDelete, h.own_eq]

/-- Definitions do alike. -/
theorem define_eq (h : R.Within R') (id : ObjectId) (name : String) (d : Descriptor) :
    R'.define id name d = R.define id name d := by
  simp only [define, h.types]

/-! ### Entry points -/

/-- A call of an object. -/
theorem callObject_below (h : R.Within R') (callee : ObjectId) (this : ScriptValue)
    (args : List ScriptValue) :
    Below (R.callObject callee this args) (R'.callObject callee this args) := by
  unfold callObject
  rw [h.types]
  refine Below.bind_right _ fun s => ?_
  split
  · next body _ => exact h.run_below (body this args)
  · next group target _ => exact h.callMethods_below group target args
  · next type _ => exact h.constructType_below type args
  · exact .refl _

/-- A read of a member of a value. -/
theorem getMember_below (h : R.Within R') (base : ScriptValue) (name : String) :
    Below (R.getMember base name) (R'.getMember base name) := by
  cases base with
  | object id => exact h.get_below id name
  | undefined | null | boolean _ | number _ | string _ => exact .refl _

/-- A call of a value. -/
theorem call_below (h : R.Within R') (callee this : ScriptValue) (args : List ScriptValue) :
    Below (R.call callee this args) (R'.call callee this args) := by
  refine Below.bind_right _ fun s => ?_
  cases callee.object?.filter s.isCallable with
  | some id => exact h.callObject_below id this args
  | none => exact .refl _

/-- A read of a member, and a call of what is found. -/
theorem callMethod_below (h : R.Within R') (base : ScriptValue) (name : String)
    (args : List ScriptValue) :
    Below (R.callMethod base name args) (R'.callMethod base name args) := by
  refine (h.getMember_below base name).bind fun callee => Below.bind_right _ fun s => ?_
  cases callee.object?.filter s.isCallable with
  | some id => exact h.callObject_below id base args
  | none => exact .refl _

/-- A construction through a value. -/
theorem construct_below (h : R.Within R') (callee : ScriptValue) (args : List ScriptValue) :
    Below (R.construct callee args) (R'.construct callee args) := by
  cases callee with
  | object id =>
    simp only [construct, constructObject, h.types]
    refine Below.bind_right _ fun s => ?_
    split
    · next type _ => exact h.constructType_below type args
    · exact .refl _
  | undefined | null | boolean _ | number _ | string _ => exact .refl _

/-- The instance test along the prototypes. -/
private theorem ordinaryHasInstance_below (h : R.Within R') (callee : ObjectId)
    (value : ScriptValue) :
    Below (R.ordinaryHasInstance callee value) (R'.ordinaryHasInstance callee value) := by
  unfold ordinaryHasInstance
  rw [h.types]
  refine Below.bind_right _ fun s => ?_
  split
  · exact .refl _
  · cases value with
    | object id => exact (h.get_below callee "prototype").bind fun _ => .refl _
    | undefined | null | boolean _ | number _ | string _ => exact .refl _

/-- The instance test against a value. -/
theorem instanceOf_below (h : R.Within R') (value callee : ScriptValue) :
    Below (R.instanceOf value callee) (R'.instanceOf value callee) := by
  cases callee with
  | object id =>
    refine Below.bind_right _ fun s => ?_
    split
    · split
      · exact .refl _
      · exact h.ordinaryHasInstance_below id value
    · exact h.ordinaryHasInstance_below id value
  | undefined | null | boolean _ | number _ | string _ => exact .refl _

/-- The elements of what is like an array. -/
theorem arrayLike_below (h : R.Within R') (id : ObjectId) :
    Below (R.arrayLike id) (R'.arrayLike id) := by
  unfold arrayLike
  rw [h.types]
  refine Below.bind_right _ fun s => ?_
  split
  · exact .refl _
  · refine (h.get_below id "length").bind fun length => ?_
    -- the same length is read, so the same elements are asked for
    cases length.number? with
    | none => exact .refl _
    | some x =>
      dsimp only
      split
      · exact .refl _
      · exact Action.below_mapM (fun i => h.get_below id (toString i)) _

/-- The options matter to entries that write, and to no others. -/
theorem perform_below (h : R.Within R') (hook : Hook)
    (hoptions : hook.isWrite → R'.options = R.options) :
    Below (R.perform hook) (R'.perform hook) := by
  cases hook with
  | getMember base name => exact h.getMember_below base name
  | setMember base name value =>
    -- only a write and a deletion look at the options
    have hsame : R'.options = R.options := hoptions rfl
    simp only [perform, hsame]
    exact h.put_below (by rw [hsame]) base name value R.options.strict
  | deleteMember base name =>
    have hsame : R'.options = R.options := hoptions rfl
    simp only [perform, hsame]
    exact Action.below_of_eq (h.delete_eq base name _)
  | defineData base name value flags => exact Action.below_of_eq (h.define_eq base name _)
  | call callee this args => exact h.call_below callee this args
  | callMethod base name args => exact h.callMethod_below base name args
  | construct callee args => exact h.construct_below callee args
  | instanceOf value callee => exact h.instanceOf_below value callee
  | arrayLike base => exact h.arrayLike_below base

end Realm.Within

namespace Engine

/-- One level more leaves what has ended as it was. -/
private theorem performWithin_succ_below (E : Engine) (depth : Nat) (hook : Hook) :
    Action.Below (E.performWithin depth hook) (E.performWithin (depth + 1) hook) := by
  induction depth generalizing hook with
  | zero => exact Action.below_exhausted _
  | succ depth ih =>
    -- further entries have one level less on both sides
    have h : (E.realm depth).Within (E.realm (depth + 1)) := ⟨rfl, rfl, ih⟩
    exact h.perform_below hook fun _ => rfl

/-- An entry that ends within a limit of nested entries ends in the same way within every greater
limit. -/
theorem performWithin_below (E : Engine) {depth depth' : Nat} (hle : depth ≤ depth')
    (hook : Hook) : Action.Below (E.performWithin depth hook) (E.performWithin depth' hook) := by
  induction hle with
  | refl => exact .refl _
  | step _ ih =>
    intro s
    obtain ⟨t, ht⟩ | heq := ih s
    · exact .inl ⟨t, ht⟩
    · rw [← heq]
      exact E.performWithin_succ_below _ hook s

end Engine

end Membrane
