import Membrane.Proofs.Jobs

/-!
# Which panics go through an entry

A panic of host code becomes an error at the call boundary, and next to nothing else that an entry
does ever panics (`Action.Calm`). Defaults are made outside the call boundary, what scripts contribute
runs outside of it, and so does the growth of an array to a length that there is no room for: an entry
ends with a panic exactly if a job that it runs is bare and does, or if it asks for such a length
(`Realm.perform_panics_iff`).

The lemmas follow the engine function by function: each tells for a function which of the jobs that
it runs it panics with.
-/

namespace Membrane

namespace Action

variable {ε ε' α β : Type} {act : Action ε α} {s t : Store} {payload : Panic}

/-- A sequence that panics does so in its first part, or in the second after a result of the
first. -/
theorem bind_panics_iff {next : α → Action ε β} :
    (act >>= next) s = (.panicked payload, t) ↔
      act s = (.panicked payload, t) ∨
        ∃ a u, act s = (.ok a, u) ∧ next a u = (.panicked payload, t) := by
  rw [bind_apply]
  generalize act s = r
  obtain ⟨outcome, u⟩ := r
  -- only a result lets the second action run
  cases outcome with
  | ok a =>
    constructor
    · intro h
      exact .inr ⟨a, u, rfl, h⟩
    · rintro (h | ⟨b, v, h, hnext⟩)
      · cases h
      · cases h
        exact hnext
  | error e => simp
  | panicked cause => simp
  | exhausted => simp

/-- Another error leaves a panic as it is. -/
theorem mapError_panics_iff {f : ε → ε'} :
    act.mapError f s = (.panicked payload, t) ↔ act s = (.panicked payload, t) := by
  unfold mapError
  generalize act s = r
  obtain ⟨outcome, u⟩ := r
  cases outcome <;> simp

/-- An error that is taken as a result leaves a panic as it is. -/
theorem capture_panics_iff :
    (act.capture : Action ε' (Except ε α)) s = (.panicked payload, t) ↔
      act s = (.panicked payload, t) := by
  rw [capture_apply]
  generalize act s = r
  obtain ⟨outcome, u⟩ := r
  cases outcome <;> simp

/-- The action never ends with a panic. -/
def Calm (act : Action ε α) : Prop := ∀ s payload t, act s ≠ (.panicked payload, t)

/-- A result at once. -/
theorem calm_pure (a : α) : (pure a : Action ε α).Calm := by
  intro s payload t h
  cases h

/-- A failure at once. -/
theorem calm_throw (e : ε) : (throw e : Action ε α).Calm := by
  intro s payload t h
  cases h

/-- A look at the store. -/
theorem calm_getStore : (getStore : Action ε Store).Calm := by
  intro s payload t h
  cases h

/-- A change of the store with a result. -/
theorem calm_state (f : Store → α × Store) : (state f : Action ε α).Calm := by
  intro s payload t h
  cases h

/-- A look at the store does not panic. -/
theorem calm_read (f : Store → α) : Calm (fun s => (.ok (f s), s) : Action ε α) := by
  intro s payload t h
  cases h

/-- A change of the store. -/
theorem calm_modify (f : Store → Store) : (modify f : Action ε Unit).Calm := by
  intro s payload t h
  cases h

/-- One action after another. -/
theorem Calm.bind {next : α → Action ε β} (h : act.Calm) (hnext : ∀ a, (next a).Calm) :
    (act >>= next).Calm := by
  intro s payload t hpanic
  obtain hact | ⟨a, u, -, hact⟩ := bind_panics_iff.1 hpanic
  · exact h s payload t hact
  · exact hnext a u payload t hact

/-- Another error. -/
theorem Calm.mapError (h : act.Calm) (f : ε → ε') : (act.mapError f).Calm :=
  fun s payload t hpanic => h s payload t (mapError_panics_iff.1 hpanic)

/-- An error that is taken as a result. -/
theorem Calm.capture (h : act.Calm) : (act.capture : Action ε' (Except ε α)).Calm :=
  fun s payload t hpanic => h s payload t (capture_panics_iff.1 hpanic)

/-- An outcome that is known already. -/
theorem calm_ofExcept (r : Except ε α) : (ofExcept r).Calm := by
  cases r with
  | ok a => exact calm_pure a
  | error e => exact calm_throw e

/-- A result that is known already, or none at all. -/
theorem calm_ofOption (r : Option α) : (ofOption r : Action ε α).Calm := by
  cases r with
  | some a => exact calm_pure a
  | none =>
    intro s payload t h
    cases h

/-- A panic that is taken as an error is none any more. -/
theorem calm_contained (act : Action HostError α) : act.contained.Calm := by
  intro s payload t h
  exact contained_ne_panicked act s payload (congrArg Prod.fst h)

end Action

/-- The write is to bring an array to a length that there is no room for. -/
def Store.outgrows (s : Store) (id : ObjectId) (name : String) (value : ScriptValue) : Bool :=
  match s.elements? id, value.length? with
  | some elements, some size => name == "length" && Realm.lacksRoom elements size
  | _, _ => false

/-- The entry is to bring an array to a length that there is no room for. -/
def Hook.outgrows (s : Store) : Hook → Bool
  | .setMember base name value => s.outgrows base name value
  | _ => false

namespace Realm

open Action

variable {R : Realm} {s t : Store} {payload : Panic} {ε α : Type} {args : List ScriptValue}

/-- One of these jobs is bare and ends with the panic. -/
def Breaks (R : Realm) (jobs : Job → Store → Prop) (payload : Panic) (t : Store) : Prop :=
  ∃ job u, jobs job u ∧ job.isBare ∧ R.run job.program u = (.panicked payload, t)

/-- More jobs to come to. -/
theorem Breaks.imp {jobs jobs' : Job → Store → Prop} (h : R.Breaks jobs payload t)
    (himp : ∀ job u, jobs job u → jobs' job u) : R.Breaks jobs' payload t := by
  obtain ⟨job, u, hjob, hbare, hrun⟩ := h
  exact ⟨job, u, himp job u hjob, hbare, hrun⟩

/-- Host code at the call boundary does not panic. -/
theorem calm_guarded (act : Action HostError α) : (guarded act).Calm :=
  (calm_contained act).mapError BridgeError.host

/-- A host value made visible. -/
theorem calm_fromHost (R : Realm) (v : HostValue) : (R.fromHost v : Action ε ScriptValue).Calm :=
  calm_state _

/-- A conversion. -/
theorem calm_convertTo (R : Realm) (v : ScriptValue) (target : TypeId) :
    (R.convertTo v target).Calm :=
  calm_getStore.bind fun _ => (calm_ofOption _).bind calm_ofExcept

/-- A lookup. -/
theorem calm_present (R : Realm) (id : ObjectId) (name : String) :
    (R.present id name : Action ε (Option Handle)).Calm :=
  (calm_state _).bind fun _ => calm_pure _

/-! ### Reading -/

/-- A read of a property, whose getter is guarded. -/
private theorem calm_readProperty (R : Realm) (member : Property) (target : Option HostRef)
    (shadow : Option ScriptValue) : (R.readProperty member target shadow).Calm := by
  cases shadow with
  | some shadow => exact calm_pure shadow
  | none =>
    simp only [readProperty]
    cases member.get with
    | none => exact calm_pure _
    | some get => exact (calm_guarded _).bind (calm_fromHost R)

/-- A read panics exactly if a script getter does. -/
theorem read_panics_iff {d : Descriptor} :
    R.read d s = (.panicked payload, t) ↔
      R.Breaks (fun job u => R.ReadsBy s d job ∧ u = s) payload t := by
  -- what is not read at the call boundary is the script getter
  have hcalm {d : Descriptor} (hread : (R.read d).Calm)
      (hbare : ∀ job, R.ReadsBy s d job → ¬ job.isBare) :
      R.read d s = (.panicked payload, t) ↔
        R.Breaks (fun job u => R.ReadsBy s d job ∧ u = s) payload t := by
    refine iff_of_false (hread s payload t) ?_
    rintro ⟨job, u, ⟨hjob, -⟩, hjobBare, -⟩
    exact hbare job hjob hjobBare
  cases d with
  | accessor get flags =>
    constructor
    · intro h
      exact ⟨⟨.scriptGetter, get⟩, s, ⟨.accessor, rfl⟩, rfl, h⟩
    · rintro ⟨job, u, ⟨hjob, rfl⟩, -, hrun⟩
      cases hjob
      exact hrun
  | data value flags => exact hcalm (calm_pure value) fun job hjob => by cases hjob
  | absent => exact hcalm (calm_pure _) fun job hjob => by cases hjob
  | count target =>
    refine hcalm ((calm_guarded _).bind fun n => calm_pure _) fun job hjob => ?_
    cases hjob
    exact Bool.false_ne_true
  | field member target =>
    refine hcalm ((calm_guarded _).bind (calm_fromHost R)) fun job hjob => ?_
    cases hjob
    exact Bool.false_ne_true
  | property member target shadow =>
    refine hcalm (calm_readProperty R member target shadow) fun job hjob => ?_
    cases hjob
    exact Bool.false_ne_true
  | sharedData cell flags =>
    exact hcalm (calm_getStore.bind fun _ => calm_pure _) fun job hjob => by cases hjob
  | sharedProperty member target cell =>
    refine hcalm (calm_getStore.bind fun _ => calm_readProperty R member target _) fun job hjob => ?_
    cases hjob
    exact Bool.false_ne_true
  | index member target key =>
    refine hcalm ?_ fun job hjob => by cases hjob; exact Bool.false_ne_true
    simp only [read]
    split
    · refine (calm_contained _).capture.bind fun r => ?_
      split
      · exact calm_fromHost R _
      · exact calm_pure _
      · exact calm_throw _
    · exact calm_pure _

/-- A read along a prototype chain panics in the script getter that it comes to. -/
private theorem getFrom_panics_iff {name : String} {chain : List ObjectId} :
    R.getFrom name chain s = (.panicked payload, t) ↔
      R.Breaks (fun job u => ∃ d, R.Finds name chain s d u ∧ R.ReadsBy u d job) payload t := by
  -- the first object that has the property is read, on the store that finding it leaves
  induction chain generalizing s with
  | nil =>
    refine iff_of_false (calm_pure _ s payload t) ?_
    rintro ⟨job, u, ⟨d, hfinds, -⟩, -⟩
    cases hfinds
  | cons id rest ih =>
    rw [getFrom, bind_panics_iff]
    constructor
    · rintro (hpresent | ⟨found, u, hfound, hnext⟩)
      · exact absurd hpresent (calm_present R id name s payload t)
      · cases found with
        | some handle =>
          refine (read_panics_iff.1 hnext).imp ?_
          rintro job _ ⟨hjob, rfl⟩
          exact ⟨_, .here hfound, hjob⟩
        | none =>
          refine (ih.1 hnext).imp ?_
          rintro job v ⟨d, hfinds, hjob⟩
          exact ⟨d, .next hfound hfinds, hjob⟩
    · rintro ⟨job, u, ⟨d, hfinds, hjob⟩, hbare, hrun⟩
      cases hfinds with
      | here hfound =>
        exact .inr ⟨_, u, hfound, read_panics_iff.2 ⟨job, u, ⟨hjob, rfl⟩, hbare, hrun⟩⟩
      | next hmissing hrest =>
        exact .inr ⟨_, _, hmissing, ih.2 ⟨job, u, ⟨d, hrest, hjob⟩, hbare, hrun⟩⟩

/-- A read of a name. -/
theorem get_panics_iff {id : ObjectId} {name : String} :
    R.get id name s = (.panicked payload, t) ↔ R.Breaks (R.Reads id name s) payload t :=
  getFrom_panics_iff

/-- A read of elements. -/
private theorem readElements_panics_iff {id : ObjectId} {indices : List Nat} :
    (indices.mapM fun i => R.get id (toString i)) s = (.panicked payload, t) ↔
      R.Breaks (R.ReadsElements id indices s) payload t := by
  -- an element is read on the store that the reads of the ones before it leave
  induction indices generalizing s with
  | nil =>
    refine iff_of_false ?_ ?_
    · rw [List.mapM_nil]
      exact calm_pure _ s payload t
    · rintro ⟨job, u, hreads, -⟩
      cases hreads
  | cons i rest ih =>
    rw [List.mapM_cons, bind_panics_iff, get_panics_iff]
    constructor
    · rintro (hread | ⟨v, u, hread, hrest⟩)
      · exact hread.imp fun job u => .here
      · rw [bind_panics_iff] at hrest
        obtain hrest | ⟨others, w, -, hpure⟩ := hrest
        · exact (ih.1 hrest).imp fun job u => .later hread
        · exact absurd hpure (calm_pure _ w payload t)
    · rintro ⟨job, u, hreads, hbare, hrun⟩
      cases hreads with
      | here hread => exact .inl ⟨job, u, hread, hbare, hrun⟩
      | later hread hrest =>
        exact .inr ⟨_, _, hread, bind_panics_iff.2 (.inl (ih.2 ⟨job, u, hrest, hbare, hrun⟩))⟩

/-! ### Writing, deleting and defining -/

/-- A write to a property, whose setter is guarded. -/
private theorem calm_writeProperty (R : Realm) (member : Property) (target : Option HostRef)
    (shadow : Option ScriptValue) (value : ScriptValue) :
    (R.writeProperty member target shadow value).Calm := by
  unfold writeProperty
  cases member.set with
  | none => exact calm_pure _
  | some set =>
    refine (calm_convertTo R _ _).capture.bind fun r => ?_
    cases r with
    | ok v => exact (calm_guarded _).bind fun _ => calm_pure none
    | error e => exact calm_pure _

/-- Setters run at the call boundary, so a write to a descriptor never panics. -/
private theorem calm_write (R : Realm) (d : Descriptor) (value : ScriptValue) :
    (R.write d value).Calm := by
  -- a setter runs guarded, so its panic becomes a failure
  have hset (set : Program .nothing) (d' : Descriptor) : (do
      guarded (R.run set)
      return d' : Action BridgeError Descriptor).Calm :=
    (calm_guarded _).bind fun _ => calm_pure d'
  cases d with
  | data old flags => exact calm_pure _
  | accessor get flags => exact calm_pure _
  | count target => exact calm_pure _
  | absent => exact calm_pure _
  | field member target =>
    simp only [write]
    cases member.set with
    | none => exact calm_pure _
    | some set => exact ((calm_convertTo R _ _).mapError _).bind fun v => hset (set target v) _
  | property member target shadow =>
    exact (calm_writeProperty R member target shadow value).bind fun _ => calm_pure _
  -- a cell is written in place
  | sharedData cell flags => exact (calm_modify _).bind fun _ => calm_pure _
  | sharedProperty member target cell =>
    refine calm_getStore.bind fun s => ?_
    refine (calm_writeProperty R member target _ value).bind fun shadow => ?_
    exact (calm_modify _).bind fun _ => calm_pure _
  | index member target key =>
    simp only [write]
    cases member.set with
    | none => exact calm_pure _
    | some set =>
      refine (calm_ofExcept _).bind fun k => ?_
      exact ((calm_convertTo R _ _).mapError _).bind fun v => hset (set target k v) _

/-- A write to what has been found. -/
private theorem calm_putThrough (R : Realm) (h : Handle) (name : String) (value : ScriptValue)
    (strict : Bool) : (R.putThrough h name value strict).Calm := by
  unfold putThrough
  split
  · refine Calm.bind ((calm_write R _ value).bind fun d => ?_) fun _ => calm_pure ()
    split
    · exact (calm_modify _).bind fun _ => calm_pure _
    · exact (calm_pure ()).bind fun _ => calm_pure _
  · split
    · exact calm_throw _
    · exact calm_pure ()

/-- A write to an object that is not a host object. -/
private theorem calm_ordinaryPut (R : Realm) (id : ObjectId) (name : String) (value : ScriptValue)
    (strict : Bool) : (R.ordinaryPut id name value strict).Calm := by
  refine (calm_present R id name).bind fun found => ?_
  cases found with
  | some handle => exact calm_putThrough R handle name value strict
  | none => exact calm_modify _

/-- A write to a host object. -/
private theorem calm_hostPut (R : Realm) (id : ObjectId) (name : String) (value : ScriptValue)
    (strict : Bool) : (R.hostPut id name value strict).Calm := by
  refine calm_getStore.bind fun s => ?_
  -- the change of a slot does not panic, nor does the refusal of an unknown name
  split
  · exact calm_modify _
  · refine (calm_present R id name).bind fun found => ?_
    cases found with
    | some handle => exact calm_putThrough R handle name value strict
    | none =>
      simp only [putFound]
      split
      · exact calm_throw _
      · split
        · exact calm_modify _
        · exact calm_pure ()

/-- A length that outgrows the array panics, and leaves everything as it was. -/
private theorem setLength_panics_iff {id : ObjectId} {elements : Array ScriptValue} {size : Nat} :
    (setLength id elements size : Action ε Unit) s = (.panicked payload, t) ↔
      lacksRoom elements size ∧ payload = .capacityOverflow ∧ t = s := by
  unfold setLength
  split
  · next hroom => simp [Action.panic, hroom, eq_comm]
  · next hroom => simp [Action.modify, hroom]

/-- A write panics exactly if it is to bring an array to a length that there is no room for. -/
theorem put_panics_iff {id : ObjectId} {name : String} {value : ScriptValue} {strict : Bool} :
    R.put id name value strict s = (.panicked payload, t) ↔
      s.outgrows id name value ∧ payload = .capacityOverflow ∧ t = s := by
  -- everything but the length of an array is written without a panic
  have hcalm {act : Action BridgeError Unit} (hact : act.Calm)
      (hfits : s.outgrows id name value = false) :
      act s = (.panicked payload, t) ↔
        s.outgrows id name value ∧ payload = .capacityOverflow ∧ t = s :=
    iff_of_false (hact s payload t) (by simp [hfits])
  have hother (hsort : ∀ elements, s.sort? id ≠ some (.array elements)) :
      s.outgrows id name value = false := by
    have helements : s.elements? id = none := by
      unfold Store.elements?
      split
      · next elements harray => exact absurd harray (hsort elements)
      · rfl
    simp only [Store.outgrows, helements]
  rw [put, bind_apply]
  simp only [getStore]
  cases hsort : s.sort? id with
  | none => exact hcalm (calm_ordinaryPut R id name value strict) (hother (by simp [hsort]))
  | some sort =>
    cases sort with
    | array elements =>
      have helements : s.elements? id = some elements := by simp only [Store.elements?, hsort]
      simp only [arrayPut]
      split
      · next hname =>
        cases hlength : value.length? with
        | none => exact hcalm (calm_pure ()) (by simp only [Store.outgrows, helements, hlength])
        | some size =>
          simp only [setLength_panics_iff, Store.outgrows, helements, hlength, hname, Bool.true_and]
      · next hname =>
        -- another name of an array asks for no room
        have hfits : s.outgrows id name value = false := by
          simp only [Store.outgrows, helements, Bool.eq_false_iff.2 hname, Bool.false_and]
          split <;> rfl
        cases Name.index? name with
        | some i => exact hcalm (calm_modify _) hfits
        | none => exact hcalm (calm_ordinaryPut R id name value strict) hfits
    | wrapper target => exact hcalm (calm_hostPut R id name value strict) (hother (by simp [hsort]))
    | typeReference type => exact hcalm (calm_hostPut R id name value strict) (hother (by simp [hsort]))
    | _ => exact hcalm (calm_ordinaryPut R id name value strict) (hother (by simp [hsort]))

/-- A deletion from an object that is not a host object. -/
private theorem calm_ordinaryDelete (R : Realm) (id : ObjectId) (name : String) (strict : Bool) :
    (R.ordinaryDelete id name strict).Calm := by
  refine (calm_state _).bind fun found => ?_
  split
  · exact calm_pure true
  · split
    · exact (calm_modify _).bind fun _ => calm_pure true
    · split
      · exact calm_throw _
      · exact calm_pure false

/-- A deletion from any object. -/
theorem calm_delete (R : Realm) (id : ObjectId) (name : String) (strict : Bool) :
    (R.delete id name strict).Calm := by
  have hchange (f : Store → Store) : (do
      Action.modify f
      return true : Action BridgeError Bool).Calm :=
    (calm_modify f).bind fun _ => calm_pure true
  refine calm_getStore.bind fun s => ?_
  -- no array, host object or plain object runs code for a delete
  split
  · split
    · exact calm_pure false
    · split
      · exact hchange _
      · exact calm_ordinaryDelete R id name strict
  · exact hchange _
  · exact hchange _
  · exact calm_ordinaryDelete R id name strict

/-- A definition on any object. -/
theorem calm_define (R : Realm) (id : ObjectId) (name : String) (d : Descriptor) :
    (R.define id name d).Calm := by
  refine calm_getStore.bind fun s => ?_
  split
  · exact calm_throw _
  · exact (calm_modify _).bind fun _ => calm_pure true

/-! ### Calls -/

/-- The arguments panic in a default, which is run without a guard. -/
private theorem convertArguments_panics_iff {position : Nat} {params : List Parameter} :
    R.convertArguments position params args s = (.panicked payload, t) ↔
      R.Breaks (R.SuppliedBy params args s) payload t := by
  induction params generalizing position args s with
  | nil =>
    refine iff_of_false (calm_pure _ s payload t) ?_
    rintro ⟨job, u, hsupplied, -⟩
    cases hsupplied
  | cons p params ih =>
    -- after the first parameter, what the others are supplied with is put behind it
    have hrest {args : List ScriptValue} {first : HostValue} {s : Store} :
        (do
          let others ← R.convertArguments (position + 1) params args
          return first :: others : Action BridgeError (List HostValue)) s =
            (.panicked payload, t) ↔ R.Breaks (R.SuppliedBy params args s) payload t := by
      rw [bind_panics_iff, ih, or_iff_left]
      rintro ⟨others, u, -, hpure⟩
      exact calm_pure _ u payload t hpure
    cases args with
    | cons arg args =>
      rw [convertArguments, bind_panics_iff]
      constructor
      · -- a conversion never panics, so a default behind it does
        rintro (harg | ⟨first, u, harg, hnext⟩)
        · exact absurd harg ((calm_convertTo R arg p.type).mapError _ s payload t)
        · exact (hrest.1 hnext).imp fun job v => .afterArgument (mapError_eq_ok harg)
      · rintro ⟨job, v, hsupplied, hbare, hrun⟩
        cases hsupplied with
        | @afterArgument _ _ _ _ _ first u _ _ harg hsupplied =>
          refine .inr ⟨first, u, ?_, hrest.2 ⟨job, v, hsupplied, hbare, hrun⟩⟩
          simp only [mapError, harg]
    | nil =>
      cases hdefault : p.default with
      | none =>
        simp only [convertArguments, hdefault]
        rw [bind_panics_iff]
        refine iff_of_false ?_ ?_
        · rintro (hthrow | ⟨first, u, hthrow, -⟩)
          · exact calm_throw _ s payload t hthrow
          · cases hthrow
        · rintro ⟨job, v, hsupplied, -⟩
          cases hsupplied with
          | default hp => rw [hdefault] at hp; cases hp
          | afterDefault hp _ _ => rw [hdefault] at hp; cases hp
      | some default =>
        simp only [convertArguments, hdefault]
        rw [bind_panics_iff]
        constructor
        · rintro (hrun | ⟨first, u, hrun, hnext⟩)
          · exact ⟨_, s, .default hdefault, rfl, mapError_panics_iff.1 hrun⟩
          · exact (hrest.1 hnext).imp fun job v => .afterDefault hdefault (mapError_eq_ok hrun)
        · rintro ⟨job, v, hsupplied, hbare, hrun⟩
          cases hsupplied with
          | default hp =>
            rw [hdefault] at hp
            cases hp
            exact .inl (mapError_panics_iff.2 hrun)
          | @afterDefault _ _ _ _ first u _ _ hp hfirst hsupplied =>
            rw [hdefault] at hp
            cases hp
            refine .inr ⟨first, u, ?_, hrest.2 ⟨job, v, hsupplied, hbare, hrun⟩⟩
            simp only [mapError, hfirst]

/-- Trying candidates panics exactly if the default of an omitted argument does. -/
private theorem firstSuccess_panics_iff {y : Yield} {purpose : Purpose} {this : Option HostRef}
    {attempt : Candidate y → Action BridgeError α}
    (hattempt : ∀ c s t, attempt c s = (.panicked payload, t) ↔
      R.Breaks (R.SuppliedBy c.params args s) payload t)
    (hpurpose : purpose.isBare = false)
    {candidates : List (Candidate y)} :
    firstSuccess attempt candidates s = (.panicked payload, t) ↔
      R.Breaks (R.Tries purpose this args attempt candidates s) payload t := by
  -- a body never breaks the search, and a candidate that fails hands its store to the next
  induction candidates generalizing s with
  | nil =>
    refine iff_of_false (calm_pure _ s payload t) ?_
    rintro ⟨job, u, htries, -⟩
    cases htries
  | cons c rest ih =>
    rw [firstSuccess, bind_panics_iff, capture_panics_iff, hattempt]
    constructor
    · rintro (hargument | ⟨r, u, hcapture, hnext⟩)
      · exact hargument.imp fun job u => .argument
      · cases r with
        | ok a => exact absurd hnext (calm_pure _ u payload t)
        | error e => exact (ih.1 hnext).imp fun job v => .later (capture_eq_error hcapture)
    · rintro ⟨job, u, htries, hbare, hrun⟩
      cases htries with
      | argument hargument => exact .inl ⟨job, u, hargument, hbare, hrun⟩
      | body _ => exact absurd (hpurpose.symm.trans hbare) Bool.false_ne_true
      | @later _ _ _ e v _ _ hfailed hrest =>
        refine .inr ⟨.error e, v, ?_, ih.2 ⟨job, u, hrest, hbare, hrun⟩⟩
        rw [capture_apply, hfailed]

/-- The conversion of the arguments may panic, and the body does not. -/
private theorem attempt_panics_iff {β : Type} {params : List Parameter}
    {enter : List HostValue → Action HostError β} :
    (R.convertArguments 0 params args >>= fun values => guarded (enter values)) s =
        (.panicked payload, t) ↔ R.Breaks (R.SuppliedBy params args s) payload t := by
  rw [bind_panics_iff, convertArguments_panics_iff, or_iff_left]
  rintro ⟨values, u, -, hbody⟩
  exact calm_guarded _ u payload t hbody

/-- A search that is settled panics exactly if the search does. -/
private theorem settle_panics_iff {search : Action BridgeError (Option α)}
    {finish : α → Action BridgeError ScriptValue} (hfinish : ∀ a, (finish a).Calm)
    (refusal : InvocationError) :
    (search >>= settle finish refusal) s = (.panicked payload, t) ↔
      search s = (.panicked payload, t) := by
  rw [bind_panics_iff, or_iff_left]
  rintro ⟨found, u, -, hsettle⟩
  cases found with
  | some a => exact hfinish a u payload t hsettle
  | none => exact calm_throw _ u payload t hsettle

/-- A call of a group panics in a default, as the bodies are guarded. -/
private theorem callMethods_panics_iff {group : MethodGroup} {target : Option HostRef} :
    R.callMethods group target args s = (.panicked payload, t) ↔
      R.Breaks (R.Tries .method target args (R.tryCandidate target args)
        (R.methodCandidates group args s) s) payload t :=
  (settle_panics_iff (calm_fromHost R) _).trans
    (firstSuccess_panics_iff (fun _ _ _ => attempt_panics_iff) rfl)

/-- So does a construction through a constructor. -/
private theorem constructOverload_panics_iff {type : TypeId} :
    R.constructOverload type args s = (.panicked payload, t) ↔
      R.Breaks (R.Tries .constructor none args (R.tryConstructor args)
        (R.constructorCandidates type args s) s) payload t :=
  (settle_panics_iff (fun _ => (calm_state _).bind fun _ => calm_fromHost R _) _).trans
    (firstSuccess_panics_iff (fun _ _ _ => attempt_panics_iff) rfl)

/-- A construction gives the default instance, or another default value, or tries the
constructors. -/
private theorem constructType_cases (R : Realm) (type : TypeId) (args : List ScriptValue) :
    (∃ make, args = [] ∧ R.instanceDefault? type = some make ∧
      R.searchesConstructors type args = false ∧
      R.constructType type args = do
        let storage ← (R.run (y := .storage) make).mapError .host
        R.wrapNew type storage) ∨
    ((args = [] → R.instanceDefault? type = none) ∧ R.searchesConstructors type args = false ∧
      ∃ v, R.constructType type args = R.fromHost v) ∨
    ((args = [] → R.instanceDefault? type = none) ∧ R.searchesConstructors type args = true ∧
      R.constructType type args = R.constructOverload type args) := by
  cases args with
  | cons arg args => exact .inr (.inr ⟨by simp, rfl, rfl⟩)
  | nil =>
    -- the kind decides: a default instance, a value at once, or the constructors
    cases hkind : R.types.kind type with
    | primitive kind =>
      refine .inr (.inl ⟨fun _ => ?_, ?_, .zeroOf kind, ?_⟩) <;>
        simp [instanceDefault?, searchesConstructors, constructType, defaultValue,
          Registry.isValueType, TypeKind.isValue, hkind]
    | declared kind =>
      cases kind with
      | enumeration =>
        refine .inr (.inl ⟨fun _ => ?_, ?_, .constant type .zero, ?_⟩) <;>
          simp [instanceDefault?, searchesConstructors, constructType, defaultValue,
            Registry.isValueType, TypeKind.isValue, hkind]
      | value =>
        -- a value type without a default instance falls back on its constructors
        cases hmake : (R.types.entry? type).bind (·.defaultInstance) with
        | some make =>
          refine .inl ⟨make, rfl, ?_, ?_, ?_⟩ <;>
            simp [instanceDefault?, searchesConstructors, constructType, defaultValue, wrapNew,
              Registry.isValueType, TypeKind.isValue, hkind, hmake]
        | none =>
          refine .inr (.inr ⟨fun _ => ?_, ?_, ?_⟩) <;>
            simp [instanceDefault?, searchesConstructors, constructType, defaultValue,
              Registry.isValueType, TypeKind.isValue, hkind, hmake]
      | reference =>
        refine .inr (.inr ⟨fun _ => ?_, ?_, ?_⟩) <;>
          simp [instanceDefault?, searchesConstructors, constructType,
            Registry.isValueType, TypeKind.isValue, hkind]
      | interface =>
        refine .inr (.inr ⟨fun _ => ?_, ?_, ?_⟩) <;>
          simp [instanceDefault?, searchesConstructors, constructType,
            Registry.isValueType, TypeKind.isValue, hkind]

/-- A construction panics where its default instance is made, or in a default. -/
private theorem constructType_panics_iff {type : TypeId} :
    R.constructType type args s = (.panicked payload, t) ↔
      R.Breaks (R.Constructs type args s) payload t := by
  -- by the default instance, by a default value that runs nothing, or by the constructors
  obtain ⟨make, rfl, hmake, hsearch, heq⟩ | ⟨hmake, hsearch, v, heq⟩ | ⟨hmake, hsearch, heq⟩ :=
    R.constructType_cases type args
  · rw [heq, bind_panics_iff, mapError_panics_iff, or_iff_left]
    · constructor
      · intro hrun
        exact ⟨_, s, .default hmake, rfl, hrun⟩
      · rintro ⟨job, u, hnew, hbare, hrun⟩
        cases hnew with
        | default hmake' =>
          cases hmake.symm.trans hmake'
          exact hrun
        | overload hsearch' _ => cases hsearch.symm.trans hsearch'
    · -- the wrapping of the instance comes after everything that is run bare
      rintro ⟨storage, u, -, hwrap⟩
      exact (calm_state _).bind (fun _ => calm_fromHost R _) u payload t hwrap
  · rw [heq]
    refine iff_of_false (calm_fromHost R v s payload t) ?_
    rintro ⟨job, u, hnew, hbare, hrun⟩
    cases hnew with
    | default hmake' => cases (hmake rfl).symm.trans hmake'
    | overload hsearch' _ => cases hsearch.symm.trans hsearch'
  · rw [heq, constructOverload_panics_iff]
    constructor
    · exact fun h => h.imp fun job u => .overload hsearch
    · rintro ⟨job, u, hnew, hbare, hrun⟩
      cases hnew with
      | default hmake' => cases (hmake rfl).symm.trans hmake'
      | overload _ htry => exact ⟨job, u, htry, hbare, hrun⟩

/-! ### Entries -/

/-- A call panics in a function of the script, in a default, or where a default instance is made. -/
private theorem callObject_panics_iff {callee : ObjectId} {this : ScriptValue} :
    R.callObject callee this args s = (.panicked payload, t) ↔
      R.Breaks (R.Calls callee this args s) payload t := by
  have hother (hfunction : ∀ name body, s.sort? callee ≠ some (.function name body))
      (hmethods : ∀ group target, s.sort? callee ≠ some (.methods group target))
      (htype : ∀ type, s.sort? callee ≠ some (.typeReference type))
      (hrefused : R.callObject callee this args s =
        (.error (.invocation (.notCallable (s.className R.types callee))), s)) :
      R.callObject callee this args s = (.panicked payload, t) ↔
        R.Breaks (R.Calls callee this args s) payload t := by
    -- what cannot be called is refused, and runs no job
    refine iff_of_false (by simp [hrefused]) ?_
    rintro ⟨job, u, hcalls, -, -⟩
    cases hcalls with
    | function hsort => exact hfunction _ _ hsort
    | methods hsort _ => exact hmethods _ _ hsort
    | type hsort _ => exact htype _ hsort
  -- the sort of the callee picks the one way to call it
  cases hsort : s.sort? callee with
  | none =>
    refine hother (by simp [hsort]) (by simp [hsort]) (by simp [hsort]) ?_
    simp only [callObject, bind_apply, getStore, hsort]
    rfl
  | some sort =>
    cases sort with
    | function name body =>
      have hcall : R.callObject callee this args s = R.run (body this args) s := by
        simp only [callObject, bind_apply, getStore, hsort]
      rw [hcall]
      constructor
      · intro hrun
        exact ⟨_, s, .function hsort, rfl, hrun⟩
      · rintro ⟨job, u, hcalls, hbare, hrun⟩
        cases hcalls with
        | function hsort' =>
          cases hsort.symm.trans hsort'
          exact hrun
        | methods hsort' _ => cases hsort.symm.trans hsort'
        | type hsort' _ => cases hsort.symm.trans hsort'
    | methods group target =>
      have hcall : R.callObject callee this args s = R.callMethods group target args s := by
        simp only [callObject, bind_apply, getStore, hsort]
      rw [hcall, callMethods_panics_iff]
      constructor
      · exact fun h => h.imp fun job u => .methods hsort
      · rintro ⟨job, u, hcalls, hbare, hrun⟩
        cases hcalls with
        | function hsort' => cases hsort.symm.trans hsort'
        | methods hsort' htry =>
          cases hsort.symm.trans hsort'
          exact ⟨job, u, htry, hbare, hrun⟩
        | type hsort' _ => cases hsort.symm.trans hsort'
    | typeReference type =>
      have hcall : R.callObject callee this args s = R.constructType type args s := by
        simp only [callObject, bind_apply, getStore, hsort]
      rw [hcall, constructType_panics_iff]
      constructor
      · exact fun h => h.imp fun job u => .type hsort
      · rintro ⟨job, u, hcalls, hbare, hrun⟩
        cases hcalls with
        | function hsort' => cases hsort.symm.trans hsort'
        | methods hsort' _ => cases hsort.symm.trans hsort'
        | type hsort' hnew =>
          cases hsort.symm.trans hsort'
          exact ⟨job, u, hnew, hbare, hrun⟩
    | _ =>
      refine hother (by simp [hsort]) (by simp [hsort]) (by simp [hsort]) ?_
      simp only [callObject, bind_apply, getStore, hsort]
      rfl

/-- A value that is not callable is refused, and the call of one that is may panic. -/
private theorem callable_panics_iff {this : ScriptValue} {callee : ScriptValue}
    {refuse : Store → BridgeError} :
    (do
      let s ← Action.getStore
      match callee.object?.filter s.isCallable with
      | some id => R.callObject id this args
      -- without anything to call there is only the refusal
      | none => Action.throw (refuse s)) s = (.panicked payload, t) ↔
      R.Breaks (fun job u => ∃ id, callee.object?.filter s.isCallable = some id ∧
        R.Calls id this args s job u) payload t := by
  show (match callee.object?.filter s.isCallable with
      | some id => R.callObject id this args
      | none => Action.throw (refuse s)) s = (.panicked payload, t) ↔ _
  cases hcallee : callee.object?.filter s.isCallable with
  | some id =>
    refine callObject_panics_iff.trans ⟨fun h => h.imp fun job u hcall => ⟨id, rfl, hcall⟩, ?_⟩
    rintro ⟨job, u, ⟨id', hid, hcall⟩, hbare, hrun⟩
    cases hid
    exact ⟨job, u, hcall, hbare, hrun⟩
  | none =>
    refine iff_of_false (calm_throw _ s payload t) ?_
    rintro ⟨job, u, ⟨id, hid, -⟩, -⟩
    cases hid

/-- A refusal that names something of the store. -/
private theorem calm_refusal (refuse : Store → BridgeError) :
    (Action.getStore >>= fun s => (Action.throw (refuse s) : Action BridgeError α)).Calm :=
  calm_getStore.bind fun _ => calm_throw _

/-- A read of a member panics in a script getter. -/
private theorem getMember_panics_iff {base : ScriptValue} {name : String} :
    R.getMember base name s = (.panicked payload, t) ↔
      R.Breaks (fun job u => ∃ id, base = .object id ∧ R.Reads id name s job u) payload t := by
  have hcalm (h : (R.getMember base name).Calm) (hbase : ∀ id, base ≠ .object id) :
      R.getMember base name s = (.panicked payload, t) ↔
        R.Breaks (fun job u => ∃ id, base = .object id ∧ R.Reads id name s job u) payload t := by
    refine iff_of_false (h s payload t) ?_
    rintro ⟨job, u, ⟨id, hid, -⟩, -⟩
    exact hbase id hid
  -- members of other values than objects run nothing
  cases base with
  | object id =>
    refine get_panics_iff.trans ⟨fun h => h.imp fun job u hread => ⟨id, rfl, hread⟩, ?_⟩
    rintro ⟨job, u, ⟨id', hid, hread⟩, hbare, hrun⟩
    cases hid
    exact ⟨job, u, hread, hbare, hrun⟩
  | undefined => exact hcalm (calm_refusal _) (by simp)
  | null => exact hcalm (calm_refusal _) (by simp)
  | boolean b => exact hcalm (calm_pure _) (by simp)
  | number x => exact hcalm (calm_pure _) (by simp)
  | string text => exact hcalm (calm_pure _) (by simp)

/-- A test by prototype reads the callee's prototype, if both are as they have to be. -/
private theorem ordinaryHasInstance_cases (R : Realm) (callee : ObjectId) (value : ScriptValue)
    (s : Store) :
    (s.isCallable callee ∧ (∃ id, value = .object id) ∧
      ∃ next : ScriptValue → Action BridgeError Bool, (∀ v, (next v).Calm) ∧
        R.ordinaryHasInstance callee value s = (R.get callee "prototype" >>= next) s) ∨
    (¬ (s.isCallable callee ∧ ∃ id, value = .object id) ∧
      ∃ outcome, (∀ payload, outcome ≠ .panicked payload) ∧
        R.ordinaryHasInstance callee value s = (outcome, s)) := by
  unfold ordinaryHasInstance
  simp only [bind_apply, getStore]
  cases hcallable : s.isCallable callee with
  | false => exact .inr ⟨by simp, _, by simp, rfl⟩
  | true =>
    -- only the test of an object against something callable reads a prototype
    cases value with
    | object id =>
      refine .inl ⟨rfl, ⟨id, rfl⟩, _, fun prototype => ?_, rfl⟩
      split
      · exact calm_getStore.bind fun _ => calm_pure _
      · exact calm_pure _
    | undefined | null | boolean _ | number _ | string _ =>
      exact .inr ⟨by simp, .ok false, by simp, rfl⟩

/-- The instance test panics where the prototype is read. -/
private theorem ordinaryHasInstance_panics_iff {callee : ObjectId} {value : ScriptValue} :
    R.ordinaryHasInstance callee value s = (.panicked payload, t) ↔
      R.Breaks (fun job u => s.isCallable callee ∧ (∃ id, value = .object id) ∧
        R.Reads callee "prototype" s job u) payload t := by
  -- the prototype is read only for an object and a callee that can be called
  obtain ⟨hcallable, hvalue, next, hcalm, hnext⟩ | ⟨hnot, outcome, hcalm, hend⟩ :=
    R.ordinaryHasInstance_cases callee value s
  · rw [hnext, bind_panics_iff, get_panics_iff, or_iff_left]
    · constructor
      · exact fun h => h.imp fun job u hread => ⟨hcallable, hvalue, hread⟩
      · exact fun h => h.imp fun job u hread => hread.2.2
    · rintro ⟨prototype, u, -, h⟩
      exact hcalm prototype u payload t h
  · refine iff_of_false (fun h => hcalm payload ?_) ?_
    · rw [hend] at h
      exact congrArg Prod.fst h
    · rintro ⟨job, u, ⟨hcallable, hvalue, -⟩, -⟩
      exact hnot ⟨hcallable, hvalue⟩

/-- The instance test of a value against any callee. -/
private theorem instanceOf_panics_iff {value callee : ScriptValue} :
    R.instanceOf value callee s = (.panicked payload, t) ↔
      R.Breaks (R.Runs (.instanceOf value callee) s) payload t := by
  -- only an object is asked about its instances
  have hother (hcallee : ∀ id, callee ≠ .object id) :
      ¬ R.Breaks (R.Runs (.instanceOf value callee) s) payload t := by
    rintro ⟨job, u, hruns, -⟩
    cases hruns
    exact hcallee _ rfl
  cases callee with
  | object callee =>
    show R.hasInstance callee value s = _ ↔ _
    -- the exact test runs nothing
    rw [hasInstance_eq]
    cases hexact : s.isExactInstance callee value with
    | true =>
      refine iff_of_false (by simp) ?_
      rintro ⟨job, u, hruns, -⟩
      cases hruns with
      | instanceOf _ hnot _ => cases hexact.symm.trans hnot
    | false =>
      simp only [Bool.false_eq_true, if_false]
      rw [ordinaryHasInstance_panics_iff]
      constructor
      · refine fun h => h.imp ?_
        rintro job u ⟨hcallable, ⟨id, rfl⟩, hread⟩
        exact .instanceOf hcallable hexact hread
      · refine fun h => h.imp ?_
        rintro job u hruns
        cases hruns with
        | instanceOf hcallable _ hread => exact ⟨hcallable, ⟨_, rfl⟩, hread⟩
  | undefined => exact iff_of_false (calm_refusal _ s payload t) (hother (by simp))
  | null => exact iff_of_false (calm_refusal _ s payload t) (hother (by simp))
  | boolean b => exact iff_of_false (calm_refusal _ s payload t) (hother (by simp))
  | number x => exact iff_of_false (calm_refusal _ s payload t) (hother (by simp))
  | string text => exact iff_of_false (calm_refusal _ s payload t) (hother (by simp))

/-- A sequence is read by its length and then by its elements. -/
private theorem arrayLike_eq (R : Realm) {id : ObjectId} (h : s.isArrayLike R.types id) :
    ∃ next : ScriptValue → Action BridgeError (List ScriptValue),
      R.arrayLike id s = (R.get id "length" >>= next) s ∧
        (∀ length : ScriptValue, length.number? = none → (next length).Calm) ∧
        ∀ (length : ScriptValue) (x : Double), length.number? = some x →
          if x.exceeds longestSequence then (next length).Calm
          else next length = (List.range x.positivePart).mapM fun i => R.get id (toString i) := by
  unfold arrayLike
  simp only [bind_apply, getStore, h, Bool.not_true, Bool.false_eq_true, if_false]
  refine ⟨_, rfl, fun length hnumber => ?_, fun length x hnumber => ?_⟩
  · simp only [hnumber]
    exact calm_pure _
  · simp only [hnumber]
    -- a length beyond the longest sequence is refused before any element is read
    split
    · exact calm_throw _
    · rfl

/-- The elements of what is like an array panic where the length or one of them is read. -/
private theorem arrayLike_panics_iff {id : ObjectId} :
    R.arrayLike id s = (.panicked payload, t) ↔
      R.Breaks (R.Runs (.arrayLike id) s) payload t := by
  by_cases hsequence : s.isArrayLike R.types id
  · obtain ⟨next, hnext, hnone, hsome⟩ := R.arrayLike_eq hsequence
    rw [hnext, bind_panics_iff, get_panics_iff]
    constructor
    · rintro (hread | ⟨length, u, hlength, hpanic⟩)
      · exact hread.imp fun job u => .length hsequence
      · -- a length was read, and what panics is the reading of an element
        cases hnumber : length.number? with
        | none => exact absurd hpanic (hnone length hnumber u payload t)
        | some x =>
          have helements := hsome length x hnumber
          cases hshort : x.exceeds longestSequence with
          | true =>
            rw [if_pos hshort] at helements
            exact absurd hpanic (helements u payload t)
          | false =>
            rw [if_neg (by simp [hshort])] at helements
            rw [helements] at hpanic
            exact (readElements_panics_iff.1 hpanic).imp fun job v =>
              .element hsequence hlength hnumber hshort
    · rintro ⟨job, u, hruns, hbare, hrun⟩
      cases hruns with
      | length _ hread => exact .inl ⟨job, u, hread, hbare, hrun⟩
      | @element _ _ length v x _ _ _ hlength hnumber hshort hread =>
        have helements := hsome length x hnumber
        rw [if_neg (by simp [hshort])] at helements
        refine .inr ⟨length, v, hlength, ?_⟩
        rw [helements]
        exact readElements_panics_iff.2 ⟨job, u, hread, hbare, hrun⟩
  · -- what is no sequence is refused before anything is read
    refine iff_of_false ?_ ?_
    · unfold arrayLike
      simp only [bind_apply, getStore, hsequence]
      exact calm_throw _ s payload t
    · rintro ⟨job, u, hruns, -⟩
      cases hruns with
      | length h _ => exact hsequence h
      | element h _ _ _ _ => exact hsequence h

/-- A construction through a value panics where its type is constructed. -/
private theorem construct_panics_iff {callee : ScriptValue} :
    R.construct callee args s = (.panicked payload, t) ↔
      R.Breaks (R.Runs (.construct callee args) s) payload t := by
  -- only an object is constructed from
  have hother (hcallee : ∀ id, callee ≠ .object id) :
      ¬ R.Breaks (R.Runs (.construct callee args) s) payload t := by
    rintro ⟨job, u, hruns, -⟩
    cases hruns
    exact hcallee _ rfl
  cases callee with
  | object id =>
    by_cases htype : ∃ type, s.sort? id = some (.typeReference type)
    · obtain ⟨type, hsort⟩ := htype
      have hconstruct : R.construct (.object id) args s = R.constructType type args s := by
        simp only [construct, constructObject, bind_apply, getStore, hsort]
      rw [hconstruct, constructType_panics_iff]
      constructor
      · exact fun h => h.imp fun job u => .construct hsort
      · rintro ⟨job, u, hruns, hbare, hrun⟩
        cases hruns with
        | construct hsort' hnew =>
          cases hsort.symm.trans hsort'
          exact ⟨job, u, hnew, hbare, hrun⟩
    · refine iff_of_false ?_ ?_
      · -- only a type reference can be constructed
        have hrefused : R.construct (.object id) args s =
            (.error (.invocation (.notConstructor (s.className R.types id))), s) := by
          cases hsort : s.sort? id with
          | none =>
            simp only [construct, constructObject, bind_apply, getStore, hsort]
            rfl
          | some sort =>
            cases sort with
            | typeReference type => exact absurd ⟨type, hsort⟩ htype
            | _ =>
              simp only [construct, constructObject, bind_apply, getStore, hsort]
              rfl
        simp [hrefused]
      · rintro ⟨job, u, hruns, -⟩
        cases hruns with
        | construct hsort _ => exact htype ⟨_, hsort⟩
  | undefined => exact iff_of_false (calm_refusal _ s payload t) (hother (by simp))
  | null => exact iff_of_false (calm_refusal _ s payload t) (hother (by simp))
  | boolean b => exact iff_of_false (calm_refusal _ s payload t) (hother (by simp))
  | number x => exact iff_of_false (calm_refusal _ s payload t) (hother (by simp))
  | string text => exact iff_of_false (calm_refusal _ s payload t) (hother (by simp))

/-- An entry ends with a panic exactly if a job that it runs is bare and does, or if it is to bring an
array to a length that there is no room for: getters, setters, methods, constructors, indexers and
counts never do that to it. -/
theorem perform_panics_iff (R : Realm) (hook : Hook) (s t : Store) (payload : Panic) :
    R.perform hook s = (.panicked payload, t) ↔
      R.Breaks (R.Runs hook s) payload t ∨
        hook.outgrows s ∧ payload = .capacityOverflow ∧ t = s := by
  -- entries that change properties run setters, and those run at the call boundary
  have hcalm (hact : (R.perform hook).Calm)
      (hbare : ∀ job u, R.Runs hook s job u → ¬ job.isBare) :
      R.perform hook s = (.panicked payload, t) ↔ R.Breaks (R.Runs hook s) payload t := by
    refine iff_of_false (hact s payload t) ?_
    rintro ⟨job, u, hruns, hjob, -⟩
    exact hbare job u hruns hjob
  -- only writes can ask for more than there is room for
  have hfits (hhook : hook.outgrows s = false)
      (h : R.perform hook s = (.panicked payload, t) ↔ R.Breaks (R.Runs hook s) payload t) :
      R.perform hook s = (.panicked payload, t) ↔ R.Breaks (R.Runs hook s) payload t ∨
        hook.outgrows s ∧ payload = .capacityOverflow ∧ t = s :=
    h.trans (or_iff_left (by simp [hhook])).symm
  cases hook with
  | getMember base name =>
    refine hfits rfl (getMember_panics_iff.trans ⟨fun h => h.imp ?_, fun h => h.imp fun job u hruns => ?_⟩)
    · rintro job u ⟨id, rfl, hread⟩
      exact .getMember hread
    · cases hruns with
      | getMember hread => exact ⟨_, rfl, hread⟩
  | setMember base name value =>
    have hbare : ¬ R.Breaks (R.Runs (.setMember base name value) s) payload t := by
      rintro ⟨job, u, hruns, hjob, -⟩
      cases hruns with
      | setMember _ _ hwrite =>
        generalize Handle.descriptor _ = d at hwrite
        cases hwrite <;> exact absurd hjob Bool.false_ne_true
    rw [or_iff_right hbare]
    exact put_panics_iff
  | deleteMember base name =>
    exact hfits rfl (hcalm (calm_delete R base name _) fun job u hruns => by cases hruns)
  | defineData base name value flags =>
    exact hfits rfl (hcalm (calm_define R base name _) fun job u hruns => by cases hruns)
  | call callee this args =>
    refine hfits rfl (callable_panics_iff.trans ⟨fun h => h.imp ?_, fun h => h.imp fun job u hruns => ?_⟩)
    · rintro job u ⟨id, hcallee, hcall⟩
      exact .call hcallee hcall
    · cases hruns with
      | call hcallee hcall => exact ⟨_, hcallee, hcall⟩
  | callMethod base name args =>
    refine hfits rfl ?_
    show R.callMethod base name args s = _ ↔ _
    rw [callMethod, bind_panics_iff, getMember_panics_iff]
    constructor
    · rintro (hread | ⟨callee, u, hmember, hcall⟩)
      · refine Breaks.imp hread ?_
        rintro job u ⟨id, rfl, hlook⟩
        exact .lookUp hlook
      · refine (callable_panics_iff.1 hcall).imp ?_
        rintro job v ⟨id, hcallee, hcall⟩
        exact .callMethod hmember hcallee hcall
    · rintro ⟨job, v, hruns, hbare, hrun⟩
      cases hruns with
      | lookUp hread => exact .inl ⟨job, v, ⟨_, rfl, hread⟩, hbare, hrun⟩
      | callMethod hmember hcallee hcall =>
        exact .inr ⟨_, _, hmember,
          callable_panics_iff.2 ⟨job, v, ⟨_, hcallee, hcall⟩, hbare, hrun⟩⟩
  | construct callee args => exact hfits rfl construct_panics_iff
  | instanceOf value callee => exact hfits rfl instanceOf_panics_iff
  | arrayLike base => exact hfits rfl arrayLike_panics_iff

end Realm

end Membrane
