import Mathlib.Logic.Relation
import Membrane.Proofs.Dispatch
import Membrane.Realm.Hooks

/-!
# What discarded candidates leave behind

A candidate that is passed over is passed over for good, but what its host code has done by then
stays done: there is no way back to an earlier store. The host code of a candidate is the defaults of
omitted arguments, and its body if it was entered. Nothing else that a search does changes the store
(`Realm.Tried.reaches`, `Realm.Course.exists_missed`), so what a body finds on entry is the store at
the start of the call, as the host code of the candidates before it has changed it
(`Realm.entered_behind_discarded`).
-/

namespace Membrane.Realm

open Relation

variable {α : Type} {R : Realm} {args : List ScriptValue} {o : Overload α} {s t : Store}
  {overloads : List (Overload α)} {order : List Nat} {log : List (Nat × Attempt α)}

/-- The default of an argument that a call of the overload omits is made. -/
inductive MakesDefault (R : Realm) (args : List ScriptValue) (o : Overload α) :
    Store → Store → Prop where
  | make {p position default s} (hp : (p, position) ∈ o.params.zipIdx)
      (homitted : args.length ≤ position) (hdefault : p.default = some default) :
      MakesDefault R args o s (R.run default s).2

/-- No argument that a call of the overload omits has a default. -/
def OmitsNoDefault (args : List ScriptValue) (o : Overload α) : Prop :=
  ∀ entry ∈ o.params.zipIdx, args.length ≤ entry.2 → entry.1.default = none

/-- The host code of a candidate that was passed over runs: a default, or the body that was entered
with these values. -/
inductive RunsDiscarded (R : Realm) (args : List ScriptValue) (overloads : List (Overload α))
    (missed : List (Nat × Attempt α)) : Store → Store → Prop where
  | default {i a o s t} (htried : (i, a) ∈ missed) (hi : overloads[i]? = some o)
      (hmake : R.MakesDefault args o s t) : RunsDiscarded R args overloads missed s t
  | body {i values outcome o s} (htried : (i, .entered values outcome) ∈ missed)
      (hi : overloads[i]? = some o) : RunsDiscarded R args overloads missed s (o.enter values s).2

/-- How a call that searches the overloads on a store `s` ends, and on which store the body is
entered that decides it: the attempts before it were passed over, and `u` is what they leave. -/
def EntersBehind (R : Realm) (args : List ScriptValue) (overloads : List (Overload α))
    (order : List Nat) (finish : α → Action BridgeError ScriptValue) (refusal : InvocationError)
    (s : Store) (result : Outcome BridgeError ScriptValue × Store) : Prop :=
  ∃ missed last u t, R.Course args overloads order s (missed ++ last) t ∧
    (∀ attempt ∈ missed, attempt.2.Missed) ∧
    -- the discarded candidates change the store by their host code alone
    ReflTransGen (R.RunsDiscarded args overloads missed) s u ∧
    -- so they change nothing if none of them was entered or makes a default
    ((∀ i a, (i, a) ∈ missed → ∀ values outcome, a ≠ .entered values outcome) →
      (∀ i a o, (i, a) ∈ missed → overloads[i]? = some o → OmitsNoDefault args o) → u = s) ∧
    match last with
    | [] => result = (.error (.invocation refusal), u)
    | (i, .entered values (.ok a)) :: _ =>
        ∃ o v, overloads[i]? = some o ∧ R.supply args o.params u = (.ok values, v) ∧
          ReflTransGen (R.MakesDefault args o) u v ∧ (OmitsNoDefault args o → v = u) ∧
          o.enter values v = (.ok a, t) ∧ result = finish a t
    -- the default of an argument panicked, or the granted steps ran out
    | _ => (∀ v, result.1 ≠ .ok v) ∧ ∀ e, result.1 ≠ .error e

/-! ### Attempts -/

/-- Another error leaves the store as it is. -/
private theorem store_mapError {ε ε' β : Type} (act : Action ε β) (f : ε → ε') (s : Store) :
    (act.mapError f s).2 = (act s).2 := by
  unfold Action.mapError
  generalize act s = r
  obtain ⟨outcome, t⟩ := r
  cases outcome <;> rfl

/-- One argument is supplied by a conversion, which changes nothing, or by its default. -/
private theorem supplyOne_reaches (args : List ScriptValue) {p : Parameter} {position : Nat}
    (hp : (p, position) ∈ o.params.zipIdx) (s : Store) :
    ReflTransGen (R.MakesDefault args o) s (R.supplyOne args p position s).2 := by
  -- an argument that is given is converted; one that is omitted is made by its default
  cases harg : args[position]? with
  | some arg =>
    simp only [supplyOne, harg, store_mapError, store_convertTo]
    exact .refl
  | none =>
    have homitted : args.length ≤ position := List.getElem?_eq_none_iff.1 harg
    cases hdefault : p.default with
    | some default =>
      simp only [supplyOne, harg, hdefault, store_mapError]
      exact .single (.make hp homitted hdefault)
    | none =>
      simp only [supplyOne, harg, hdefault]
      exact .refl

/-- Only the defaults of omitted arguments change the store while the parameters are supplied. -/
theorem supply_reaches (R : Realm) (args : List ScriptValue) (o : Overload α) (s : Store) :
    ReflTransGen (R.MakesDefault args o) s (R.supply args o.params s).2 := by
  -- what is still to be supplied are parameters of the overload
  suffices h : ∀ entries : List (Parameter × Nat), entries ⊆ o.params.zipIdx → ∀ s,
      ReflTransGen (R.MakesDefault args o) s
        ((entries.mapM fun (p, position) => R.supplyOne args p position) s).2 from
    h _ (List.Subset.refl _) s
  intro entries
  induction entries with
  | nil => exact fun _ s => .refl
  | cons entry rest ih =>
    intro hsubset s
    obtain ⟨p, position⟩ := entry
    have hfirst := R.supplyOne_reaches args (hsubset (.head _)) s
    rw [List.mapM_cons, Action.bind_apply]
    dsimp only
    generalize R.supplyOne args p position s = r at hfirst
    obtain ⟨outcome, t⟩ := r
    -- the rest is supplied only after a value, and starts from its store
    cases outcome with
    | ok value =>
      have hrest := ih (fun entry hentry => hsubset (.tail _ hentry)) t
      dsimp only
      rw [Action.bind_apply]
      generalize (rest.mapM fun (p, position) => R.supplyOne args p position) t = r at hrest
      obtain ⟨outcome, u⟩ := r
      cases outcome <;> exact hfirst.trans hrest
    | error e => exact hfirst
    | panicked payload => exact hfirst
    | exhausted => exact hfirst

/-- Where every omitted argument is without a default, none is run. -/
private theorem not_makesDefault (h : OmitsNoDefault args o) : ¬ R.MakesDefault args o s t := by
  rintro ⟨hp, homitted, hdefault⟩
  cases hdefault.symm.trans (h _ hp homitted)

/-- So the arguments leave the store as it was. -/
private theorem eq_of_no_default (hmake : ReflTransGen (R.MakesDefault args o) s t)
    (h : OmitsNoDefault args o) : t = s := by
  induction hmake with
  | refl => rfl
  | tail _ hstep _ => exact absurd hstep (not_makesDefault h)

/-- An attempt that was passed over changes the store by its host code alone. -/
theorem Tried.reaches {i : Nat} {a : Attempt α} {missed : List (Nat × Attempt α)}
    (h : R.Tried args o s a t) (hi : overloads[i]? = some o) (hmissed : (i, a) ∈ missed) :
    ReflTransGen (R.RunsDiscarded args overloads missed) s t := by
  have hsupply : ReflTransGen (R.RunsDiscarded args overloads missed) s
      (R.supply args o.params s).2 :=
    ReflTransGen.mono (fun _ _ hmake => RunsDiscarded.default hmissed hi hmake) _ _
      (R.supply_reaches args o s)
  -- a body that was entered is one step more than its arguments
  cases h with
  | refused h => rwa [h] at hsupply
  | aborted h => rwa [h] at hsupply
  | exhausted h => rwa [h] at hsupply
  | @entered values v outcome u h hbody =>
    rw [h] at hsupply
    have hstep : R.RunsDiscarded args overloads missed v (o.enter values v).2 :=
      .body hmissed hi
    rw [hbody] at hstep
    exact hsupply.tail hstep

/-! ### Searches -/

/-- A search passes over attempts and comes to its end, or to an attempt that it does not pass
over. -/
theorem Course.exists_missed (h : R.Course args overloads order s log t) :
    ∃ missed u, (∀ attempt ∈ missed, attempt.2.Missed) ∧
      ReflTransGen (R.RunsDiscarded args overloads missed) s u ∧
      ((log = missed ∧ t = u) ∨ ∃ i o a, log = missed ++ [(i, a)] ∧ overloads[i]? = some o ∧
        ¬ a.Missed ∧ R.Tried args o u a t) := by
  -- on the course: an attempt that is passed over goes in front of those that the rest passes over
  induction h with
  | finished => exact ⟨[], _, by simp, .refl, .inl ⟨rfl, rfl⟩⟩
  | skip _ _ ih => exact ih
  | stop hi htried hstop => exact ⟨[], _, by simp, .refl, .inr ⟨_, _, _, rfl, hi, hstop, htried⟩⟩
  | @miss i order s o a t log u hi htried hmissed hrest ih =>
    obtain ⟨missed, v, hall, hreaches, hend⟩ := ih
    have hfirst := htried.reaches hi (List.mem_cons_self : (i, a) ∈ (i, a) :: missed)
    have hothers : ReflTransGen (R.RunsDiscarded args overloads ((i, a) :: missed)) t v := by
      refine ReflTransGen.mono (fun _ _ hstep => ?_) _ _ hreaches
      cases hstep with
      | default htried hi hmake => exact .default (.tail _ htried) hi hmake
      | body htried hi => exact .body (.tail _ htried) hi
    refine ⟨(i, a) :: missed, v, ?_, hfirst.trans hothers, ?_⟩
    · rintro attempt (_ | ⟨_, hattempt⟩)
      · exact hmissed
      · exact hall attempt hattempt
    · obtain ⟨rfl, rfl⟩ | ⟨j, o', a', rfl, hj, hstop, hlast⟩ := hend
      · exact .inl ⟨rfl, rfl⟩
      · exact .inr ⟨j, o', a', rfl, hj, hstop, hlast⟩

/-- Discarded candidates that are not entered and make no default change nothing. -/
private theorem eq_of_no_host_code {missed : List (Nat × Attempt α)}
    (h : ReflTransGen (R.RunsDiscarded args overloads missed) s t)
    (hbodies : ∀ i a, (i, a) ∈ missed → ∀ values outcome, a ≠ .entered values outcome)
    (hdefaults : ∀ i a o, (i, a) ∈ missed → overloads[i]? = some o → OmitsNoDefault args o) :
    t = s := by
  induction h with
  | refl => rfl
  | tail _ hstep _ =>
    -- a step is a default or a body, and there is neither
    cases hstep with
    | default htried hi hmake =>
      exact absurd hmake (not_makesDefault (hdefaults _ _ _ htried hi))
    | body htried hi => exact absurd rfl (hbodies _ _ htried _ _)

/-- A call that ends as its search tells enters the deciding body behind the discarded
candidates. -/
private theorem Dispatches.entersBehind {finish : α → Action BridgeError ScriptValue}
    {refusal : InvocationError} {result : Outcome BridgeError ScriptValue × Store}
    (h : R.Dispatches args overloads order finish refusal s result) :
    R.EntersBehind args overloads order finish refusal s result := by
  obtain ⟨log, t, hcourse, -, -, -, hresult, -⟩ := h
  obtain ⟨missed, u, hmissed, hreaches, hend⟩ := hcourse.exists_missed
  have hverdict := hcourse.verdict_eq_none_iff
  -- either every attempt was missed, or the last one stopped the search
  obtain ⟨rfl, rfl⟩ | ⟨i, o, a, rfl, hi, hstop, htried⟩ := hend
  · refine ⟨log, [], t, t, by rwa [List.append_nil], hmissed, hreaches,
      R.eq_of_no_host_code hreaches, ?_⟩
    rw [hresult, hverdict.2 hmissed]
  · refine ⟨missed, [(i, a)], u, t, hcourse, hmissed, hreaches,
      R.eq_of_no_host_code hreaches, ?_⟩
    have hlast : (missed ++ [(i, a)]).getLast? = some (i, a) := List.getLast?_concat
    cases htried with
    | refused => exact absurd trivial hstop
    | @entered values v outcome t hsupply hbody =>
      cases outcome with
      | ok r =>
        have hmake := R.supply_reaches args o u
        rw [hsupply] at hmake
        refine ⟨o, v, hi, hsupply, hmake, eq_of_no_default hmake, hbody, ?_⟩
        rw [hresult, verdict, hlast]
      | error e => exact absurd trivial hstop
      | panicked payload => exact absurd trivial hstop
      | exhausted => simp [hresult, verdict, hlast]
    | aborted => simp [hresult, verdict, hlast]
    | exhausted => simp [hresult, verdict, hlast]

/-- The body that decides a call of a method group, or a construction by a constructor, is entered on
the store at the start of the call, as changed by the defaults and entered bodies of the candidates
that were passed over before it, and by its own defaults, and by nothing else. If all candidates are
passed over, the call leaves the store as their host code has changed it. -/
theorem entered_behind_discarded (R : Realm) (args : List ScriptValue) (s : Store) :
    (∀ group target,
      R.EntersBehind args (R.methodOverloads group target)
        (R.ranker.order R.types s (group.methods.map (·.params)) args) R.fromHost
        (.noMatchingMethod (R.types.name group.owner) group.name) s
        (R.callMethods group target args s)) ∧
    ∀ type,
      match if args = [] ∧ R.types.isValueType type then R.default? type else none with
      | some default => R.constructType type args s = (default >>= fun v => R.fromHost v) s
      | none =>
        R.EntersBehind args (R.constructorOverloads type)
          (R.ranker.order R.types s ((R.types.constructors type).map (·.params)) args)
          (R.wrapNew type) (.noMatchingConstructor (R.types.name type)) s
          (R.constructType type args s) := by
  refine ⟨fun group target => (R.callMethods_dispatches group target args s).entersBehind,
    fun type => ?_⟩
  have hsearch := (R.constructOverload_dispatches type args s).entersBehind
  unfold constructType
  -- a value type without arguments need not come to its constructors at all
  by_cases hdefault : args = [] ∧ R.types.isValueType type
  · obtain ⟨rfl, hvalue⟩ := hdefault
    simp only [hvalue, List.isEmpty_nil, Bool.and_self, and_self, if_true, defaultValue_eq]
    cases R.default? type with
    | none => simpa using hsearch
    | some default => simp
  · have hcond : (args.isEmpty && R.types.isValueType type) = false := by
      simpa [List.isEmpty_iff] using hdefault
    simpa only [if_neg hdefault, hcond, Bool.false_eq_true, if_false] using hsearch

/-- The first method of a group sets a static variable and fails. The second one, which reads the
variable, finds it set, and not as it was at the start of the call; and after a call of the first
alone, which fails, it is set as well. -/
theorem discarded_write_stays :
    let R : Realm := Engine.realm ⟨.empty, .default, .fixed [0, 1]⟩ 0
    let key : StaticKey := (.object, "x")
    let method (body : Program .value) : Method :=
      .make (.ofName "T") R.types.hash "M" [] fun _ => body
    let write := method (.ask (.writeStatic key (.bool true)) fun _ => .fail (.message "no"))
    let read := method (.ask (.readStatic key) fun v => .done (v.getD .null))
    let call (methods : List Method) := R.callMethods ⟨.object, "M", methods⟩ none [] .initial
    Store.initial.readStatic key = none ∧
      (call [write, read]).1 = .ok (.boolean true) ∧
      (call [write]).1 = .error (.invocation (.noMatchingMethod "object" "M")) ∧
      (call [write]).2.readStatic key = some (.bool true) :=
  ⟨rfl, rfl, rfl, rfl⟩

end Membrane.Realm
