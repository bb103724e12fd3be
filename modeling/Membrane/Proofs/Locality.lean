import Membrane.Proofs.Jobs

/-!
# Entries depend on host code by their jobs alone

The jobs that an entry runs (`Realm.Runs`) are all the host and script code that it depends on. Such
code can tell two realms with one engine apart only by entering the engine again; where it does not,
and the jobs run alike in both, the entry ends alike in both (`Realm.perform_congr`). The lemmas
follow the engine function by function, as the definition of the jobs does.
-/

namespace Membrane

namespace Action

variable {ε ε' α β : Type} {act act' : Action ε α} {s : Store}

/-- The second parts need to agree only where the first one comes to. -/
theorem bind_congr_at {next next' : α → Action ε β} (h : act' s = act s)
    (hnext : ∀ a t, act s = (.ok a, t) → next' a t = next a t) :
    (act' >>= next') s = (act >>= next) s := by
  simp only [bind_apply, h]
  generalize act s = r at hnext
  obtain ⟨outcome, t⟩ := r
  -- only where the first part succeeds is the rest come to
  cases outcome with
  | ok a => exact hnext a t rfl
  | error e => rfl
  | panicked payload => rfl
  | exhausted => rfl

/-- Another error. -/
theorem mapError_congr_at (f : ε → ε') (h : act' s = act s) :
    act'.mapError f s = act.mapError f s := by
  simp only [mapError, h]

/-- An error that is taken as a result. -/
theorem capture_congr_at (h : act' s = act s) :
    (act'.capture : Action ε' (Except ε α)) s = act.capture s := by
  simp only [capture_apply, h]

/-- A panic that is taken as an error. -/
theorem contained_congr_at {act act' : Action HostError α} (h : act' s = act s) :
    act'.contained s = act.contained s := by
  simp only [contained, h]

end Action

namespace Realm

open Action

/-- The realm with another way back into its engine. -/
def entering (R : Realm) (enter : (hook : Hook) → Action BridgeError hook.Answer) : Realm :=
  { R with enter }

/-- With the other way back into the engine these jobs run alike. -/
def RunsAlike (R : Realm) (enter : (hook : Hook) → Action BridgeError hook.Answer)
    (jobs : Job → Store → Prop) : Prop :=
  ∀ job t, jobs job t → (R.entering enter).run job.program t = R.run job.program t

variable {R : Realm} {enter : (hook : Hook) → Action BridgeError hook.Answer} {s : Store}
  {args : List ScriptValue} {α : Type}

/-- Fewer jobs run alike as well. -/
theorem RunsAlike.mono {jobs jobs' : Job → Store → Prop} (h : R.RunsAlike enter jobs)
    (himp : ∀ job t, jobs' job t → jobs job t) : R.RunsAlike enter jobs' :=
  fun job t hjob => h job t (himp job t hjob)

/-- What is done behind the guard of host code. -/
private theorem guarded_congr_at {act act' : Action HostError α} (h : act' s = act s) :
    guarded act' s = guarded act s :=
  mapError_congr_at _ (contained_congr_at h)

/-! ### Reading -/

/-- A read of a property runs its getter unless a value hides it. -/
private theorem readProperty_congr {member : Property} {target : Option HostRef}
    {shadow : Option ScriptValue} (h : shadow = none → ∀ get, member.get = some get →
      (R.entering enter).run (get target) s = R.run (get target) s) :
    (R.entering enter).readProperty member target shadow s = R.readProperty member target shadow s := by
  cases shadow with
  | some shadow => rfl
  | none =>
    cases hget : member.get with
    | none => simp only [readProperty, hget]
    | some get =>
      simp only [readProperty, hget]
      exact bind_congr_at (guarded_congr_at (h rfl get hget)) fun _ _ _ => rfl

/-- A read of what a name stands for. -/
private theorem read_congr {d : Descriptor}
    (h : R.RunsAlike enter fun job t => R.ReadsBy s d job ∧ t = s) :
    (R.entering enter).read d s = R.read d s := by
  -- what runs is the descriptor's own closure, on the store as it is
  cases d with
  | data value flags => rfl
  | absent => rfl
  | accessor get flags => exact h _ s ⟨.accessor, rfl⟩
  | count target =>
    refine bind_congr_at (guarded_congr_at ?_) fun _ _ _ => rfl
    unfold countOf
    cases hcount : (R.types.entry? target.type).bind (·.count) with
    | none =>
      have hcount' : ((R.entering enter).types.entry? target.type).bind (·.count) = none := hcount
      simp only [hcount']
    | some count =>
      have hcount' : ((R.entering enter).types.entry? target.type).bind (·.count) = some count :=
        hcount
      simp only [hcount']
      exact h _ s ⟨.count hcount, rfl⟩
  | field member target =>
    exact bind_congr_at (guarded_congr_at (h _ s ⟨.field, rfl⟩)) fun _ _ _ => rfl
  | property member target shadow =>
    refine readProperty_congr fun hshadow get hget => ?_
    subst hshadow
    exact h ⟨.getter, get target⟩ s ⟨.property hget, rfl⟩
  | sharedData cell flags => rfl
  -- the cell is read before the getter is run, from the same store
  | sharedProperty member target cell =>
    refine bind_congr_at rfl fun s' t hstore => ?_
    cases hstore
    exact readProperty_congr fun hshadow get hget =>
      h ⟨.getter, get target⟩ s ⟨.sharedProperty hshadow hget, rfl⟩
  | index member target key =>
    have hkeys : (R.entering enter).indexKey member key = R.indexKey member key := rfl
    cases hget : member.get with
    | none => simp only [read, hget]
    | some get =>
      cases hkey : R.indexKey member key with
      | error e => simp only [read, hget, hkeys, hkey]
      | ok k =>
        simp only [read, hget, hkeys, hkey]
        exact bind_congr_at (capture_congr_at (contained_congr_at (h _ s ⟨.index hget hkey, rfl⟩)))
          fun _ _ _ => rfl

/-- A read along a prototype chain. -/
private theorem getFrom_congr {name : String} {chain : List ObjectId}
    (h : R.RunsAlike enter fun job t => ∃ d, R.Finds name chain s d t ∧ R.ReadsBy t d job) :
    (R.entering enter).getFrom name chain s = R.getFrom name chain s := by
  induction chain generalizing s with
  | nil => rfl
  | cons id rest ih =>
    refine bind_congr_at rfl fun found t hfound => ?_
    cases found with
    | some handle =>
      refine read_congr (h.mono ?_)
      rintro job _ ⟨hjob, rfl⟩
      exact ⟨_, .here hfound, hjob⟩
    | none =>
      -- the lookups that found nothing are part of the way to the job
      refine ih (h.mono ?_)
      rintro job u ⟨d, hfinds, hjob⟩
      exact ⟨d, .next hfound hfinds, hjob⟩

/-- A read of a name. -/
private theorem get_congr {id : ObjectId} {name : String}
    (h : R.RunsAlike enter (R.Reads id name s)) :
    (R.entering enter).get id name s = R.get id name s :=
  getFrom_congr h

/-- A read of elements, one after another. -/
private theorem readElements_congr {id : ObjectId} {indices : List Nat}
    (h : R.RunsAlike enter (R.ReadsElements id indices s)) :
    (indices.mapM fun i => (R.entering enter).get id (toString i)) s =
      (indices.mapM fun i => R.get id (toString i)) s := by
  induction indices generalizing s with
  | nil => rfl
  | cons i rest ih =>
    rw [List.mapM_cons, List.mapM_cons]
    refine bind_congr_at (get_congr (h.mono fun job t => .here)) fun v t hread => ?_
    exact bind_congr_at (ih (h.mono fun job u => .later hread)) fun _ _ _ => rfl

/-! ### Writing -/

/-- A conversion leaves the store as it is. -/
private theorem converted {v : ScriptValue} {target : TypeId} {r : HostValue} {t : Store}
    (h : R.convertTo v target s = (.ok r, t)) : R.convertTo v target s = (.ok r, s) ∧ t = s := by
  have hstore := R.store_convertTo v target s
  rw [h] at hstore
  cases hstore
  exact ⟨h, rfl⟩

/-- A write to a property runs its setter with the converted value. -/
private theorem writeProperty_congr {member : Property} {target : Option HostRef}
    {shadow : Option ScriptValue} {value : ScriptValue}
    (h : ∀ set v, member.set = some set → R.convertTo value member.type s = (.ok v, s) →
      (R.entering enter).run (set target v) s = R.run (set target v) s) :
    (R.entering enter).writeProperty member target shadow value s =
      R.writeProperty member target shadow value s := by
  cases hset : member.set with
  | none => simp only [writeProperty, hset]
  | some set =>
    simp only [writeProperty, hset]
    -- the conversion enters nothing; only the setter may
    refine bind_congr_at rfl fun r t hconvert => ?_
    cases r with
    | error e => rfl
    | ok v =>
      obtain ⟨hvalue, rfl⟩ := converted (capture_eq_ok hconvert)
      exact bind_congr_at (guarded_congr_at (h set v hset hvalue)) fun _ _ _ => rfl

/-- A write to what a name stands for. -/
private theorem write_congr {d : Descriptor} {value : ScriptValue}
    (h : R.RunsAlike enter fun job t => R.WritesBy value s d job ∧ t = s) :
    (R.entering enter).write d value s = R.write d value s := by
  cases d with
  | data old flags => rfl
  | accessor get flags => rfl
  | count target => rfl
  | absent => rfl
  -- the conversion is the same, and the setter is run with its result
  | field member target =>
    cases hset : member.set with
    | none => simp only [write, hset]
    | some set =>
      simp only [write, hset]
      refine bind_congr_at rfl fun v t hconvert => ?_
      obtain ⟨hvalue, rfl⟩ := converted (mapError_eq_ok hconvert)
      exact bind_congr_at (guarded_congr_at (h _ t ⟨.field hset hvalue, rfl⟩)) fun _ _ _ => rfl
  -- a value that hides the property makes no difference to its setter
  | property member target shadow =>
    refine bind_congr_at (writeProperty_congr fun set v hset hvalue => ?_) fun _ _ _ => rfl
    exact h ⟨.setter, set target v⟩ s ⟨.property hset hvalue, rfl⟩
  | sharedData cell flags => rfl
  | sharedProperty member target cell =>
    refine bind_congr_at rfl fun s' t hstore => ?_
    cases hstore
    refine bind_congr_at (writeProperty_congr fun set v hset hvalue => ?_) fun _ _ _ => rfl
    exact h ⟨.setter, set target v⟩ s ⟨.sharedProperty hset hvalue, rfl⟩
  | index member target key =>
    have hkeys : (R.entering enter).indexKey member key = R.indexKey member key := rfl
    cases hset : member.set with
    | none => simp only [write, hset]
    | some set =>
      cases hkey : R.indexKey member key with
      | error e =>
        simp only [write, hset, hkeys, hkey]
        rfl
      | ok k =>
        simp only [write, hset, hkeys, hkey]
        refine bind_congr_at rfl fun k' t hk => ?_
        cases hk
        refine bind_congr_at rfl fun v t hconvert => ?_
        obtain ⟨hvalue, rfl⟩ := converted (mapError_eq_ok hconvert)
        exact bind_congr_at (guarded_congr_at (h _ t ⟨.index hset hkey hvalue, rfl⟩))
          fun _ _ _ => rfl

/-- A write to what has been found. -/
private theorem putThrough_congr {handle : Handle} {name : String} {value : ScriptValue}
    {strict : Bool} (h : handle.descriptor.isWritable →
      R.RunsAlike enter fun job t => R.WritesBy value s handle.descriptor job ∧ t = s) :
    (R.entering enter).putThrough handle name value strict s =
      R.putThrough handle name value strict s := by
  unfold putThrough
  cases hwritable : handle.descriptor.isWritable with
  | false => simp only [Bool.false_eq_true, if_false]
  | true =>
    simp only [if_true]
    refine bind_congr_at ?_ fun _ _ _ => rfl
    exact bind_congr_at (write_congr (h hwritable)) fun _ _ _ => rfl

/-- What is found under a name is written to. -/
private theorem present_putThrough_congr {id : ObjectId} {name : String} {value : ScriptValue}
    {strict : Bool} (h : R.RunsAlike enter (R.Runs (.setMember id name value) s)) {found : Handle}
    {t : Store}
    (hfound : (R.present id name : Action BridgeError _) s = (.ok (some found), t)) :
    (R.entering enter).putThrough found name value strict t =
      R.putThrough found name value strict t := by
  refine putThrough_congr fun hwritable => h.mono ?_
  rintro job _ ⟨hwrite, rfl⟩
  exact .setMember hfound hwritable hwrite

/-- A write to a name. -/
private theorem put_congr {id : ObjectId} {name : String} {value : ScriptValue} {strict : Bool}
    (h : R.RunsAlike enter (R.Runs (.setMember id name value) s)) :
    (R.entering enter).put id name value strict s = R.put id name value strict s := by
  -- both ways of writing end in `putThrough`, with what was found under the name
  have hordinary :
      (R.entering enter).ordinaryPut id name value strict s =
        R.ordinaryPut id name value strict s := by
    refine bind_congr_at rfl fun found t hfound => ?_
    cases found with
    | some handle => exact present_putThrough_congr h hfound
    | none => rfl
  have hhost : (R.entering enter).hostPut id name value strict s =
      R.hostPut id name value strict s := by
    refine bind_congr_at rfl fun s' t hstore => ?_
    cases hstore
    cases (s.slots id).isDeleted (Name.normalize name) with
    | true => simp only [if_true]
    | false =>
      simp only [Bool.false_eq_true, if_false]
      refine bind_congr_at rfl fun found t hfound => ?_
      cases found with
      | some handle => exact present_putThrough_congr h hfound
      | none => rfl
  refine bind_congr_at rfl fun s' t hstore => ?_
  cases hstore
  cases s.sort? id with
  | none => exact hordinary
  | some sort =>
    -- the sort of the object chooses between the two ways, except for what an array keeps apart
    cases sort with
    | wrapper target => exact hhost
    | typeReference type => exact hhost
    | array elements =>
      simp only [arrayPut]
      split
      · rfl
      · cases Name.index? name with
        | some i => rfl
        | none => exact hordinary
    | _ => exact hordinary

/-! ### Calls -/

/-- The arguments of a call, those made by default included. -/
private theorem convertArguments_congr {position : Nat} {params : List Parameter}
    (h : R.RunsAlike enter (R.SuppliedBy params args s)) :
    (R.entering enter).convertArguments position params args s =
      R.convertArguments position params args s := by
  induction params generalizing position args s with
  | nil => rfl
  | cons p params ih =>
    -- what runs for a later argument runs after the earlier ones have been converted
    cases args with
    | cons arg args =>
      refine bind_congr_at rfl fun first t harg => ?_
      refine bind_congr_at (ih (h.mono fun job u => ?_)) fun _ _ _ => rfl
      exact .afterArgument (mapError_eq_ok harg)
    | nil =>
      cases hdefault : p.default with
      | none =>
        simp only [convertArguments, hdefault]
        refine bind_congr_at rfl fun first t hmissing => ?_
        cases hmissing
      | some default =>
        simp only [convertArguments, hdefault]
        refine bind_congr_at (mapError_congr_at _ (h _ s (.default hdefault))) fun first t hrun => ?_
        refine bind_congr_at (ih (h.mono fun job u => ?_)) fun _ _ _ => rfl
        exact .afterDefault hdefault (mapError_eq_ok hrun)

/-- The attempts of a search. -/
private theorem firstSuccess_congr {y : Yield} {purpose : Purpose} {this : Option HostRef}
    {attempt attempt' : Candidate y → Action BridgeError α} {candidates : List (Candidate y)}
    (hattempt : ∀ c s,
      (R.RunsAlike enter fun job t => R.SuppliedBy c.params args s job t ∨
        ∃ values, R.convertArguments 0 c.params args s = (.ok values, t) ∧
          job = ⟨purpose, c.body ⟨this, values⟩⟩) → attempt' c s = attempt c s)
    (h : R.RunsAlike enter (R.Tries purpose this args attempt candidates s)) :
    firstSuccess attempt' candidates s = firstSuccess attempt candidates s := by
  -- each candidate is tried on the store that the failures before it leave
  induction candidates generalizing s with
  | nil => rfl
  | cons c rest ih =>
    refine bind_congr_at (capture_congr_at (hattempt c s (h.mono ?_))) fun r t hattempted => ?_
    · rintro job t (hsupplied | ⟨values, hargs, rfl⟩)
      · exact .argument hsupplied
      · exact .body hargs
    · cases r with
      | ok a => rfl
      | error e => exact ih (h.mono fun job u => .later (capture_eq_error hattempted))

/-- A call of a group of methods. -/
private theorem callMethods_congr {group : MethodGroup} {target : Option HostRef}
    (h : R.RunsAlike enter (R.Tries .method target args (R.tryCandidate target args)
      (R.methodCandidates group args s) s)) :
    (R.entering enter).callMethods group target args s = R.callMethods group target args s := by
  refine bind_congr_at rfl fun s' t hstore => ?_
  cases hstore
  refine bind_congr_at (firstSuccess_congr (fun c u hjobs => ?_) h) fun _ _ _ => rfl
  refine bind_congr_at (convertArguments_congr (hjobs.mono fun job t => .inl)) fun values t hargs => ?_
  exact guarded_congr_at (hjobs ⟨.method, c.body ⟨target, values⟩⟩ t (.inr ⟨values, hargs, rfl⟩))

/-- A construction through a constructor. -/
private theorem constructOverload_congr {type : TypeId}
    (h : R.RunsAlike enter (R.Tries .constructor none args (R.tryConstructor args)
      (R.constructorCandidates type args s) s)) :
    (R.entering enter).constructOverload type args s = R.constructOverload type args s := by
  refine bind_congr_at rfl fun s' t hstore => ?_
  cases hstore
  refine bind_congr_at (firstSuccess_congr (fun c u hjobs => ?_) h) fun _ _ _ => rfl
  refine bind_congr_at (convertArguments_congr (hjobs.mono fun job t => .inl)) fun values t hargs => ?_
  exact guarded_congr_at (hjobs ⟨.constructor, c.body ⟨none, values⟩⟩ t (.inr ⟨values, hargs, rfl⟩))

/-- The value that a type has by default. -/
private theorem defaultValue_congr {type : TypeId}
    (h : R.RunsAlike enter fun job t => ∃ make, R.instanceDefault? type = some make ∧
      job = ⟨.instanceDefault, make⟩ ∧ t = s) :
    (R.entering enter).defaultValue type s = R.defaultValue type s := by
  show defaultValue (R.entering enter) type s = defaultValue R type s
  have hkinds : (R.entering enter).types.kind type = R.types.kind type := rfl
  have hentry : (R.entering enter).types.entry? type = R.types.entry? type := rfl
  -- the default instance of a declared value type is the only program
  cases hkind : R.types.kind type with
  | primitive kind => simp only [defaultValue, hkinds, hkind]
  | declared kind =>
    cases kind with
    | value =>
      cases hmake : (R.types.entry? type).bind (·.defaultInstance) with
      | none => simp only [defaultValue, hkinds, hkind, hentry, hmake]
      | some make =>
        simp only [defaultValue, hkinds, hkind, hentry, hmake]
        refine bind_congr_at (mapError_congr_at _ (h _ s ⟨make, ?_, rfl, rfl⟩)) fun _ _ _ => rfl
        simp only [instanceDefault?, hkind, hmake]
    | _ => simp only [defaultValue, hkinds, hkind]

/-- A value type without a default value searches its constructors. -/
private theorem no_defaultValue {type : TypeId} {t : Store} (hvalue : R.types.isValueType type)
    (h : R.defaultValue type s = (.ok none, t)) : R.searchesConstructors type [] ∧ t = s := by
  cases hkind : R.types.kind type with
  | primitive kind =>
    simp only [defaultValue, hkind] at h
    cases h
  | declared kind =>
    cases kind with
    | enumeration =>
      simp only [defaultValue, hkind] at h
      cases h
    | value =>
      cases hmake : (R.types.entry? type).bind (·.defaultInstance) with
      | none =>
        simp only [defaultValue, hkind, hmake] at h
        cases h
        exact ⟨by simp [searchesConstructors, instanceDefault?, hkind, hmake], rfl⟩
      | some make =>
        simp only [defaultValue, hkind, hmake] at h
        -- with a default instance there is a value
        obtain ⟨storage, u, -, hnew⟩ := bind_eq_ok h
        cases hnew
    | _ => simp [Registry.isValueType, TypeKind.isValue, hkind] at hvalue

/-- A construction of a type. -/
private theorem constructType_congr {type : TypeId}
    (h : R.RunsAlike enter (R.Constructs type args s)) :
    (R.entering enter).constructType type args s = R.constructType type args s := by
  have hoverload (hsearch : R.searchesConstructors type args) :
      (R.entering enter).constructOverload type args s = R.constructOverload type args s :=
    constructOverload_congr (h.mono fun job t => .overload hsearch)
  have hvalue : (R.entering enter).types.isValueType type = R.types.isValueType type := rfl
  unfold constructType
  rw [hvalue]
  cases hempty : args.isEmpty && R.types.isValueType type with
  | false => exact hoverload (by simp [searchesConstructors, hempty])
  | true =>
    obtain ⟨hargs, hvalue⟩ := Bool.and_eq_true_iff.1 hempty
    cases List.isEmpty_iff.1 hargs
    refine bind_congr_at (defaultValue_congr (h.mono ?_)) fun v t hdefault => ?_
    · rintro job t ⟨make, hmake, rfl, rfl⟩
      exact .default hmake
    · cases v with
      | some v => rfl
      | none =>
        -- nothing has run yet, so the search starts on the same store
        obtain ⟨hsearch, rfl⟩ := no_defaultValue hvalue hdefault
        exact hoverload hsearch

/-! ### Entries -/

/-- A call of an object. -/
private theorem callObject_congr {callee : ObjectId} {this : ScriptValue}
    (h : R.RunsAlike enter (R.Calls callee this args s)) :
    (R.entering enter).callObject callee this args s = R.callObject callee this args s := by
  refine bind_congr_at rfl fun s' t hstore => ?_
  cases hstore
  cases hsort : s.sort? callee with
  | none => rfl
  | some sort =>
    cases sort with
    | function name body => exact h _ s (.function hsort)
    | methods group target => exact callMethods_congr (h.mono fun job t => .methods hsort)
    | typeReference type => exact constructType_congr (h.mono fun job t => .type hsort)
    | _ => rfl

/-- A read of a member of a value. -/
private theorem getMember_congr {base : ScriptValue} {name : String}
    (h : ∀ id, base = .object id → R.RunsAlike enter (R.Reads id name s)) :
    (R.entering enter).getMember base name s = R.getMember base name s := by
  cases base with
  | object id => exact get_congr (h id rfl)
  | _ => rfl

/-- A construction through a value. -/
private theorem construct_congr {callee : ScriptValue}
    (h : R.RunsAlike enter (R.Runs (.construct callee args) s)) :
    (R.entering enter).construct callee args s = R.construct callee args s := by
  cases callee with
  | object id =>
    refine bind_congr_at rfl fun s' t hstore => ?_
    cases hstore
    -- only type references construct
    cases hsort : s.sort? id with
    | none => rfl
    | some sort =>
      cases sort with
      | typeReference type => exact constructType_congr (h.mono fun job t => .construct hsort)
      | _ => rfl
  | _ => rfl

/-- The instance test, which reads a prototype unless the exact test settles it. -/
private theorem instanceOf_congr {value callee : ScriptValue}
    (h : R.RunsAlike enter (R.Runs (.instanceOf value callee) s)) :
    (R.entering enter).instanceOf value callee s = R.instanceOf value callee s := by
  cases callee with
  | object callee =>
    have htests : (R.entering enter).hasInstance callee value s = R.hasInstance callee value s := by
      rw [hasInstance_eq, hasInstance_eq]
      -- an exact instance is told from the type alone; otherwise the prototype is read
      cases hexact : s.isExactInstance callee value with
      | true => simp only [if_true]
      | false =>
        simp only [Bool.false_eq_true, if_false]
        refine bind_congr_at rfl fun s' t hstore => ?_
        cases hstore
        cases hcallable : s.isCallable callee with
        | false => simp only [Bool.not_false, if_true]; rfl
        | true =>
          simp only [Bool.not_true, Bool.false_eq_true, if_false]
          cases value with
          | object id =>
            exact bind_congr_at (get_congr (h.mono fun job t => .instanceOf hcallable hexact))
              fun _ _ _ => rfl
          | _ => rfl
    exact htests
  | _ => rfl

/-- The elements of what is like an array. -/
private theorem arrayLike_congr {id : ObjectId}
    (h : R.RunsAlike enter (R.Runs (.arrayLike id) s)) :
    (R.entering enter).arrayLike id s = R.arrayLike id s := by
  refine bind_congr_at rfl fun s' t hstore => ?_
  cases hstore
  have htypes : (R.entering enter).types = R.types := rfl
  rw [htypes]
  cases hsequence : s.isArrayLike R.types id with
  | false => simp only [Bool.not_false, if_true]
  | true =>
    simp only [Bool.not_true, Bool.false_eq_true, if_false]
    refine bind_congr_at (get_congr (h.mono fun job t => .length hsequence)) fun length t hlength => ?_
    -- without a length there are no elements to read
    cases hnumber : length.number? with
    | none => rfl
    | some x =>
      show (if x.exceeds longestSequence then Action.throw _ else _) t =
        (if x.exceeds longestSequence then Action.throw _ else _) t
      cases hshort : x.exceeds longestSequence with
      | true => simp only [if_true]
      | false =>
        simp only [Bool.false_eq_true, if_false]
        exact readElements_congr (h.mono fun job u => .element hsequence hlength hnumber hshort)

/-- An entry depends on the way back into the engine by its jobs alone: where they run alike with
another one, the entry ends alike. -/
theorem perform_congr {hook : Hook} (h : R.RunsAlike enter (R.Runs hook s)) :
    (R.entering enter).perform hook s = R.perform hook s := by
  -- each kind of entry runs the jobs that `Runs` has for it
  cases hook with
  | getMember base name =>
    refine getMember_congr ?_
    rintro id rfl
    exact h.mono fun job t => .getMember
  | setMember base name value => exact put_congr h
  | deleteMember base name => rfl
  | defineData base name value flags => rfl
  | call callee this args =>
    refine bind_congr_at rfl fun s' t hstore => ?_
    cases hstore
    cases hcallee : callee.object?.filter s.isCallable with
    | some id => exact callObject_congr (h.mono fun job t => .call hcallee)
    | none => rfl
  | callMethod base name args =>
    refine bind_congr_at (getMember_congr ?_) fun callee t hmember => ?_
    · rintro id rfl
      exact h.mono fun job t => .lookUp
    · refine bind_congr_at rfl fun s' t' hstore => ?_
      cases hstore
      cases hcallee : callee.object?.filter t.isCallable with
      | some id => exact callObject_congr (h.mono fun job u => .callMethod hmember hcallee)
      | none => rfl
  | construct callee args => exact construct_congr h
  | instanceOf value callee => exact instanceOf_congr h
  | arrayLike base => exact arrayLike_congr h

end Realm

end Membrane
