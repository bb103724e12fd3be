import Membrane.Overload.Dispatch

/-!
# What a call tries

A call of a method group or of a type goes through the positions that the ranker names. `Course`
describes such a search by what became of each candidate (`Attempt`): its parameters are supplied in
turn (`supply`), and its body is entered, with what they were supplied with, once all of them are.

Main statement: every call follows a course, tries what is ranked until a body returns, and ends as
the last attempt tells (`calls_follow_course`).
-/

namespace Membrane

/-- An overload as the search sees it: what it is supplied with, and what its body does then. -/
structure Overload (α : Type) where
  params : List Parameter
  enter : List HostValue → Action HostError α

/-- What becomes of a candidate. -/
inductive Attempt (α : Type) where
  /-- A parameter could not be supplied, so the body was not entered. -/
  | refused (cause : BridgeError)
  /-- The body was entered with the values, and ended. -/
  | entered (values : List HostValue) (outcome : Outcome HostError α)
  /-- The default of an omitted argument panicked. -/
  | aborted (payload : Panic)
  /-- The granted steps ran out before the body was entered. -/
  | exhausted

namespace Attempt

variable {α : Type}

/-- The candidate is passed over. -/
def Missed : Attempt α → Prop
  | .refused _ | .entered _ (.error _) | .entered _ (.panicked _) => True
  | .entered _ (.ok _) | .entered _ .exhausted | .aborted _ | .exhausted => False

/-- How the attempt ends for the call that makes it. -/
def outcome : Attempt α → Outcome BridgeError α
  | .refused cause => .error cause
  | .entered _ (.ok a) => .ok a
  | .entered _ (.error cause) => .error (.host cause)
  | .entered _ (.panicked payload) => .error (.host (.panicked payload.message))
  | .entered _ .exhausted => .exhausted
  | .aborted payload => .panicked payload
  | .exhausted => .exhausted

/-- An attempt is missed if it ended with an error. -/
theorem missed_iff (a : Attempt α) : a.Missed ↔ ∃ e, a.outcome = .error e := by
  cases a with
  | entered values outcome => cases outcome <;> simp [Missed, Attempt.outcome]
  | _ => simp [Missed, Attempt.outcome]

end Attempt

namespace Realm

variable {α ι : Type} {R : Realm} {args : List ScriptValue}

/-- What the parameter at a position is supplied with: the argument there at the declared type, and
without an argument the default. -/
def supplyOne (R : Realm) (args : List ScriptValue) (p : Parameter) (position : Nat) :
    Action BridgeError HostValue :=
  match args[position]?, p.default with
  | some arg, _ => (R.convertTo arg p.type).mapError .conversion
  | none, some default => (R.run default).mapError .host
  | none, none => Action.throw (.host (.missingArgument position))

/-- What the parameters of a candidate are supplied with. -/
def supply (R : Realm) (args : List ScriptValue) (params : List Parameter) :
    Action BridgeError (List HostValue) :=
  params.zipIdx.mapM fun (p, position) => R.supplyOne args p position

/-- The candidate is tried on the store `s`, which becomes `t`. -/
inductive Tried (R : Realm) (args : List ScriptValue) (o : Overload α) (s : Store) :
    Attempt α → Store → Prop where
  | refused {cause t} (h : R.supply args o.params s = (.error cause, t)) :
      Tried R args o s (.refused cause) t
  | entered {values t outcome u} (h : R.supply args o.params s = (.ok values, t))
      (hbody : o.enter values t = (outcome, u)) : Tried R args o s (.entered values outcome) u
  | aborted {payload t} (h : R.supply args o.params s = (.panicked payload, t)) :
      Tried R args o s (.aborted payload) t
  | exhausted {t} (h : R.supply args o.params s = (.exhausted, t)) :
      Tried R args o s .exhausted t

/-- A search through the overloads at the given positions: it starts on the store `s`, tries what
the log tells, and leaves the store `t`. -/
inductive Course (R : Realm) (args : List ScriptValue) (overloads : List (Overload α)) :
    List Nat → Store → List (Nat × Attempt α) → Store → Prop where
  | finished {s} : Course R args overloads [] s [] s
  /-- There is no overload at the position. -/
  | skip {i order s log t} (hi : overloads[i]? = none)
      (hrest : Course R args overloads order s log t) :
      Course R args overloads (i :: order) s log t
  | miss {i order s o a t log u} (hi : overloads[i]? = some o) (htried : R.Tried args o s a t)
      (hmissed : a.Missed) (hrest : Course R args overloads order t log u) :
      Course R args overloads (i :: order) s ((i, a) :: log) u
  | stop {i order s o a t} (hi : overloads[i]? = some o) (htried : R.Tried args o s a t)
      (hmissed : ¬ a.Missed) : Course R args overloads (i :: order) s [(i, a)] t

/-- The end of a search with the given log: the result of the last body, if that returned one. -/
def verdict (log : List (Nat × Attempt α)) : Outcome BridgeError (Option α) :=
  match log.getLast? with
  | some (_, .entered _ (.ok a)) => .ok (some a)
  | some (_, .entered _ .exhausted) | some (_, .exhausted) => .exhausted
  | some (_, .aborted payload) => .panicked payload
  | _ => .ok none

/-- A call that searches the overloads in the given order, on a store `s`, ends as it should:
`finish` is what it does with the result of a body, and `refusal` is its error if there is none. -/
def Dispatches (R : Realm) (args : List ScriptValue) (overloads : List (Overload α))
    (order : List Nat) (finish : α → Action BridgeError ScriptValue) (refusal : InvocationError)
    (s : Store) (result : Outcome BridgeError ScriptValue × Store) : Prop :=
  ∃ log t, R.Course args overloads order s log t ∧
    -- the overloads are tried in their order, and all of them unless one is not passed over
    log.map (·.1) <+: order.filter (· < overloads.length) ∧
    ((∀ attempt ∈ log, attempt.2.Missed) →
      log.map (·.1) = order.filter (· < overloads.length)) ∧
    -- none is tried after one that was not passed over
    (∀ attempt ∈ log.dropLast, attempt.2.Missed) ∧
    result = (match verdict log with
      | .ok (some a) => finish a t
      | .ok none => (.error (.invocation refusal), t)
      | .error e => (.error e, t)
      | .panicked payload => (.panicked payload, t)
      | .exhausted => (.exhausted, t)) ∧
    (result.1 = .error (.invocation refusal) ↔ ∀ attempt ∈ log, attempt.2.Missed)

/-- The overloads of a method group on its target. -/
def methodOverloads (R : Realm) (group : MethodGroup) (target : Option HostRef) :
    List (Overload HostValue) :=
  group.methods.map fun m => ⟨m.params, fun values => R.run (y := .value) (m.body ⟨target, values⟩)⟩

/-- The overloads that construct a type. -/
def constructorOverloads (R : Realm) (type : TypeId) : List (Overload Storage) :=
  (R.types.constructors type).map fun c =>
    ⟨c.params, fun values => R.run (y := .storage) (c.body ⟨none, values⟩)⟩

/-- What makes the default value of a value type, if it has one. -/
def default? (R : Realm) (type : TypeId) : Option (Action BridgeError HostValue) :=
  match R.types.kind type with
  | .primitive kind => some (pure (.zeroOf kind))
  | .declared .enumeration => some (pure (.constant type .zero))
  | .declared .value =>
      ((R.types.entry? type).bind (·.defaultInstance)).map fun make => do
        let storage ← (R.run (y := .storage) make).mapError .host
        let ref ← Action.state (·.newInstance type storage)
        return .object ref
  | .declared _ => none

/-! ### Supplying the parameters -/

/-- Arguments from a position on are supplied from that position on. -/
theorem convertArguments_eq (R : Realm) (args : List ScriptValue) (params : List Parameter)
    (position : Nat) :
    R.convertArguments position params (args.drop position) =
      (params.zipIdx position).mapM fun (p, position) => R.supplyOne args p position := by
  -- the arguments that are left begin at the position of the next parameter
  induction params generalizing position with
  | nil => rfl
  | cons p params ih =>
    have hrest := ih (position + 1)
    rw [List.zipIdx_cons, List.mapM_cons, ← hrest]
    cases hdrop : args.drop position with
    | nil =>
      have hnone : args[position]? = none :=
        List.getElem?_eq_none (List.drop_eq_nil_iff.1 hdrop)
      have hdrop' : args.drop (position + 1) = [] :=
        List.drop_eq_nil_iff.2 (Nat.le_succ_of_le (List.drop_eq_nil_iff.1 hdrop))
      simp only [convertArguments, supplyOne, hnone, hdrop']
      cases p.default <;> rfl
    | cons arg rest =>
      have hsome : args[position]? = some arg := by
        rw [← List.head?_drop, hdrop, List.head?_cons]
      have hdrop' : args.drop (position + 1) = rest := by
        rw [← List.tail_drop, hdrop, List.tail_cons]
      simp only [convertArguments, supplyOne, hsome, hdrop']

/-- The conversion of the arguments from the first one on. -/
theorem convertArguments_zero (R : Realm) (args : List ScriptValue) (params : List Parameter) :
    R.convertArguments 0 params args = R.supply args params :=
  R.convertArguments_eq args params 0

/-! ### The search -/

/-- Trying a candidate is an attempt. -/
theorem exists_tried (R : Realm) (args : List ScriptValue) (o : Overload α) (s : Store) :
    ∃ a t, R.Tried args o s a t ∧
      (R.convertArguments 0 o.params args >>= fun values => guarded (o.enter values)) s =
        (a.outcome, t) := by
  simp only [Action.bind_apply, convertArguments_zero]
  generalize hsupply : R.supply args o.params s = r
  obtain ⟨outcome, t⟩ := r
  -- the body is entered if every argument has been supplied
  cases outcome with
  | ok values =>
    generalize hbody : o.enter values t = r
    obtain ⟨outcome, u⟩ := r
    refine ⟨.entered values outcome, u, .entered hsupply hbody, ?_⟩
    simp only [guarded, Action.mapError, Action.contained, hbody]
    cases outcome <;> rfl
  | error cause => exact ⟨.refused cause, t, .refused hsupply, rfl⟩
  | panicked payload => exact ⟨.aborted payload, t, .aborted hsupply, rfl⟩
  | exhausted => exact ⟨.exhausted, t, .exhausted hsupply, rfl⟩

/-- A missed attempt before others does not count. -/
theorem verdict_cons_of_missed {i : Nat} {a : Attempt α} (h : a.Missed)
    (log : List (Nat × Attempt α)) : verdict ((i, a) :: log) = verdict log := by
  cases log with
  | cons attempt log => simp only [verdict, List.getLast?_cons_cons]
  | nil =>
    -- as the only attempt it is missed, and nothing has been found
    cases a with
    | refused cause => rfl
    | entered values outcome =>
      cases outcome with
      | error cause => rfl
      | panicked payload => rfl
      | ok result => exact h.elim
      | exhausted => exact h.elim
    | aborted payload => exact h.elim
    | exhausted => exact h.elim

/-- A search that stops ends as the attempt that stopped it. -/
theorem verdict_singleton {i : Nat} {a : Attempt α} (h : ¬ a.Missed) :
    verdict [(i, a)] = match a.outcome with
      | .ok a => .ok (some a)
      | .error _ => .ok none
      | .panicked payload => .panicked payload
      | .exhausted => .exhausted := by
  -- the last attempt has not missed, so it was entered or ended everything
  cases a with
  | refused cause => exact absurd trivial h
  | entered values outcome =>
    cases outcome with
    | ok result => rfl
    | exhausted => rfl
    | error cause => exact absurd trivial h
    | panicked payload => exact absurd trivial h
  | aborted payload => rfl
  | exhausted => rfl

/-- The search follows a course and ends with its verdict. -/
theorem firstSuccess_course (attempt : ι → Action BridgeError α) (overload : ι → Overload α)
    (hattempt : ∀ c, attempt c =
      R.convertArguments 0 (overload c).params args >>= fun values =>
        guarded ((overload c).enter values))
    (candidates : List ι) (order : List Nat) (s : Store) :
    ∃ log t, R.Course args (candidates.map overload) order s log t ∧
      firstSuccess attempt (inOrder candidates order) s = (verdict log, t) := by
  -- each position starts where the attempts before it have left the store
  induction order generalizing s with
  | nil => exact ⟨[], s, .finished, rfl⟩
  | cons i order ih =>
    cases hi : candidates[i]? with
    | none =>
      obtain ⟨log, t, hcourse, heq⟩ := ih s
      have hi' : (candidates.map overload)[i]? = none := by rw [List.getElem?_map, hi]; rfl
      refine ⟨log, t, .skip hi' hcourse, ?_⟩
      rw [← heq, inOrder, List.filterMap_cons_none hi]
      rfl
    | some c =>
      have hi' : (candidates.map overload)[i]? = some (overload c) := by
        rw [List.getElem?_map, hi]; rfl
      have hcons : inOrder candidates (i :: order) = c :: inOrder candidates order :=
        List.filterMap_cons_some hi
      obtain ⟨a, t, htried, hrun⟩ := R.exists_tried args (overload c) s
      rw [hcons, firstSuccess, Action.bind_apply, Action.capture_apply, hattempt, hrun]
      -- a miss goes on with the rest from the store that it left; everything else stops
      by_cases hmissed : a.Missed
      · obtain ⟨log, u, hcourse, heq⟩ := ih t
        obtain ⟨e, he⟩ := a.missed_iff.1 hmissed
        refine ⟨(i, a) :: log, u, .miss hi' htried hmissed hcourse, ?_⟩
        rw [verdict_cons_of_missed hmissed, ← heq, he]
      · refine ⟨[(i, a)], t, .stop hi' htried hmissed, ?_⟩
        rw [verdict_singleton hmissed]
        cases houtcome : a.outcome with
        | error e => exact absurd (a.missed_iff.2 ⟨e, houtcome⟩) hmissed
        | _ => rfl

/-! ### What a course tells -/

namespace Course

variable {overloads : List (Overload α)} {order : List Nat} {s t : Store}
  {log : List (Nat × Attempt α)}

/-- A position without an overload is left out of the order. -/
private theorem filter_cons_of_none {i : Nat} (hi : overloads[i]? = none) (order : List Nat) :
    (i :: order).filter (· < overloads.length) = order.filter (· < overloads.length) :=
  List.filter_cons_of_neg (by simpa using List.getElem?_eq_none_iff.1 hi)

/-- A position with an overload stays in it. -/
private theorem filter_cons_of_some {i : Nat} {o : Overload α} (hi : overloads[i]? = some o)
    (order : List Nat) :
    (i :: order).filter (· < overloads.length) = i :: order.filter (· < overloads.length) :=
  List.filter_cons_of_pos (by simpa using (List.getElem?_eq_some_iff.1 hi).1)

/-- The overloads are tried in the order of the ranking, from its start. -/
theorem tried_prefix (h : R.Course args overloads order s log t) :
    log.map (·.1) <+: order.filter (· < overloads.length) := by
  induction h with
  | finished => exact List.nil_prefix
  | skip hi _ ih => rwa [filter_cons_of_none hi]
  | miss hi _ _ _ ih =>
    rw [filter_cons_of_some hi, List.map_cons]
    exact (List.prefix_cons_inj _).2 ih
  | stop hi =>
    rw [filter_cons_of_some hi]
    exact (List.prefix_cons_inj _).2 List.nil_prefix

/-- If all of them were missed, none was left out. -/
theorem tried_eq (h : R.Course args overloads order s log t)
    (hmissed : ∀ attempt ∈ log, attempt.2.Missed) :
    log.map (·.1) = order.filter (· < overloads.length) := by
  induction h with
  | finished => rfl
  | skip hi _ ih => rw [filter_cons_of_none hi, ih hmissed]
  | miss hi _ _ _ ih =>
    rw [filter_cons_of_some hi, List.map_cons, ih fun a ha => hmissed a (.tail _ ha)]
  | stop _ _ hstop => exact absurd (hmissed _ (.head _)) hstop

/-- Every attempt but the last one was missed. -/
theorem missed_of_mem_dropLast (h : R.Course args overloads order s log t) :
    ∀ attempt ∈ log.dropLast, attempt.2.Missed := by
  -- along the course: a candidate is followed by another one only after a miss
  induction h with
  | finished => simp
  | skip _ _ ih => exact ih
  | @miss i order s o a t log u hi htried hmissed hrest ih =>
    intro attempt hattempt
    cases log with
    | nil => simp at hattempt
    | cons first log =>
      rw [List.dropLast_cons_cons, List.mem_cons] at hattempt
      obtain rfl | hattempt := hattempt
      · exact hmissed
      · exact ih attempt hattempt
  | stop => simp

/-- The search is in vain if every attempt misses, and only then. -/
theorem verdict_eq_none_iff (h : R.Course args overloads order s log t) :
    verdict log = .ok none ↔ ∀ attempt ∈ log, attempt.2.Missed := by
  induction h with
  | finished => simp [verdict]
  | skip _ _ ih => exact ih
  | miss hi htried hmissed hrest ih => simp [verdict_cons_of_missed hmissed, ih, hmissed]
  | @stop i order s o a t hi htried hstop =>
    have hverdict := verdict_singleton (i := i) hstop
    have hnone : verdict [(i, a)] ≠ .ok none := by
      rw [hverdict]
      -- an attempt that stops the search has found something or has broken off
      cases houtcome : a.outcome with
      | error e => exact absurd (a.missed_iff.2 ⟨e, houtcome⟩) hstop
      | _ => simp
    simp [hnone, hstop]

end Course

/-! ### Calls -/

/-- The errors of the attempts are not the verdict. -/
theorem verdict_ne_error (log : List (Nat × Attempt α)) (e : BridgeError) :
    verdict log ≠ .error e := by
  unfold verdict
  split <;> simp

/-- A search that is settled ends as it should. -/
theorem dispatches_settle (attempt : ι → Action BridgeError α) (overload : ι → Overload α)
    (hattempt : ∀ c, attempt c =
      R.convertArguments 0 (overload c).params args >>= fun values =>
        guarded ((overload c).enter values))
    (candidates : List ι) (order : List Nat) {finish : α → Action BridgeError ScriptValue}
    (hfinish : ∀ a t e, (finish a t).1 ≠ .error e) (refusal : InvocationError) (s : Store) :
    R.Dispatches args (candidates.map overload) order finish refusal s
      ((firstSuccess attempt (inOrder candidates order) >>= settle finish refusal) s) := by
  obtain ⟨log, t, hcourse, heq⟩ :=
    firstSuccess_course attempt overload hattempt candidates order s
  have hmissed := hcourse.verdict_eq_none_iff
  refine ⟨log, t, hcourse, hcourse.tried_prefix, hcourse.tried_eq,
    hcourse.missed_of_mem_dropLast, ?_, ?_⟩
  · -- what the call makes of the verdict
    rw [Action.bind_apply, heq]
    cases verdict log with
    | ok found => cases found <;> rfl
    | _ => rfl
  · -- the refusal is the only error, and it needs the verdict that nothing was found
    rw [Action.bind_apply, heq, ← hmissed]
    cases hverdict : verdict log with
    | ok found =>
      cases found with
      | none => simp only [settle, Action.throw]
      | some a => simpa [settle] using hfinish a t _
    | error e => exact absurd hverdict (verdict_ne_error log e)
    | panicked payload => simp
    | exhausted => simp

/-- A call of a group tries its methods in the order of their ranking. -/
theorem callMethods_dispatches (R : Realm) (group : MethodGroup) (target : Option HostRef)
    (args : List ScriptValue) (s : Store) :
    R.Dispatches args (R.methodOverloads group target)
      (R.ranker.order R.types s (group.methods.map (·.params)) args) R.fromHost
      (.noMatchingMethod (R.types.name group.owner) group.name) s
      (R.callMethods group target args s) := by
  let candidates := group.methods.map fun m => (⟨m.params, m.body⟩ : Candidate .value)
  -- the overloads are the candidates, with the target fixed
  have hoverloads : R.methodOverloads group target = candidates.map fun c =>
      ⟨c.params, fun values => R.run (y := .value) (c.body ⟨target, values⟩)⟩ := by
    rw [List.map_map]
    rfl
  rw [hoverloads]
  exact dispatches_settle (R.tryCandidate target args) _ (fun _ => rfl) candidates _
    (fun _ _ _ h => by cases h) _ s

/-- A construction tries the constructors of the type in the order of their ranking. -/
theorem constructOverload_dispatches (R : Realm) (type : TypeId) (args : List ScriptValue)
    (s : Store) :
    R.Dispatches args (R.constructorOverloads type)
      (R.ranker.order R.types s ((R.types.constructors type).map (·.params)) args)
      (R.wrapNew type) (.noMatchingConstructor (R.types.name type)) s
      (R.constructOverload type args s) := by
  let candidates :=
    (R.types.constructors type).map fun c => (⟨c.params, c.body⟩ : Candidate .storage)
  -- the overloads are the candidates, without a target
  have hoverloads : R.constructorOverloads type = candidates.map fun c =>
      ⟨c.params, fun values => R.run (y := .storage) (c.body ⟨none, values⟩)⟩ := by
    rw [List.map_map]
    rfl
  rw [hoverloads]
  exact dispatches_settle (R.tryConstructor args) _ (fun _ => rfl) candidates _
    (fun _ _ _ h => by cases h) _ s

/-- The value that a type has by default, if there is one. -/
theorem defaultValue_eq (R : Realm) (type : TypeId) :
    R.defaultValue type = match R.default? type with
      | some default => some <$> default
      | none => pure none := by
  unfold defaultValue default?
  cases R.types.kind type with
  | primitive kind => rfl
  | declared kind =>
    cases kind with
    | enumeration => rfl
    -- only a declared value type can run anything for it
    | value =>
      dsimp only
      cases (R.types.entry? type).bind (·.defaultInstance) with
      | none => rfl
      | some make => simp
    | _ => rfl

/-- A call of a method group, and a construction that is not the default of a value type, follows a
course through its overloads in ranked order and ends as the course tells. A construction without
arguments of a value type that has a default value gives that. -/
theorem calls_follow_course (R : Realm) (args : List ScriptValue) (s : Store) :
    (∀ group target,
      R.Dispatches args (R.methodOverloads group target)
        (R.ranker.order R.types s (group.methods.map (·.params)) args) R.fromHost
        (.noMatchingMethod (R.types.name group.owner) group.name) s
        (R.callMethods group target args s)) ∧
    ∀ type,
      match if args = [] ∧ R.types.isValueType type then R.default? type else none with
      | some default => R.constructType type args s = (default >>= fun v => R.fromHost v) s
      | none =>
        R.Dispatches args (R.constructorOverloads type)
          (R.ranker.order R.types s ((R.types.constructors type).map (·.params)) args)
          (R.wrapNew type) (.noMatchingConstructor (R.types.name type)) s
          (R.constructType type args s) := by
  refine ⟨fun group target => R.callMethods_dispatches group target args s, fun type => ?_⟩
  have hcourse := R.constructOverload_dispatches type args s
  unfold constructType
  -- without arguments the default of a value type comes before the constructors
  by_cases hdefault : args = [] ∧ R.types.isValueType type
  · obtain ⟨rfl, hvalue⟩ := hdefault
    simp only [hvalue, List.isEmpty_nil, Bool.and_self, and_self, if_true, defaultValue_eq]
    cases R.default? type with
    | none => simpa using hcourse
    | some default => simp
  · have hcond : (args.isEmpty && R.types.isValueType type) = false := by
      simpa [List.isEmpty_iff] using hdefault
    simpa only [if_neg hdefault, hcond, Bool.false_eq_true, if_false] using hcourse

end Realm

end Membrane
