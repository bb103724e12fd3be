import Membrane.Proofs.Dispatch
import Membrane.Proofs.Ranking

/-!
# Arguments that cannot be omitted

The ranking counts the parameters that a candidate requires, and the conversion of the arguments
goes through the parameters by position. A parameter beyond the arguments is supplied by its
default, and the first one without a default ends the conversion (`FirstUnfilled`).

If the optional parameters stand last, both agree: a ranked candidate has a default for every
parameter beyond the arguments. If a required parameter stands behind an optional one, the optional
one can take the argument that the count kept for the required one, and a candidate is ranked that
no call with these arguments can enter (`overtaken_parameter`).

## Key results

- `Realm.convertArguments_missing_iff`: when an argument is missing
- `Realm.missing_iff_overtaken`: a ranked candidate misses an argument only if a required parameter
  stands behind an optional one
-/

namespace Membrane

namespace Action

variable {ε α ι : Type} {f : ι → Action ε α} {l : List ι} {s t : Store}

/-- What succeeds on a list succeeds on each element. -/
theorem exists_ok_of_mapM {values : List α} {a : ι} (h : l.mapM f s = (.ok values, t))
    (ha : a ∈ l) : ∃ u value v, f a u = (.ok value, v) := by
  induction l generalizing s t values with
  | nil => cases ha
  | cons b l ih =>
    rw [List.mapM_cons] at h
    obtain ⟨value, u, hb, hrest⟩ := bind_eq_ok h
    obtain ⟨others, v, hl, -⟩ := bind_eq_ok hrest
    -- the first entry, or one of the rest
    obtain rfl | ha := List.mem_cons.1 ha
    · exact ⟨s, value, u, hb⟩
    · exact ih hl ha

/-- What fails on a list fails on an element, after success on those before it. -/
theorem mapM_eq_error_iff {e : ε} : l.mapM f s = (.error e, t) ↔
    ∃ n a values u, l[n]? = some a ∧ (l.take n).mapM f s = (.ok values, u) ∧
      f a u = (.error e, t) := by
  induction l generalizing s with
  | nil =>
    refine iff_of_false (fun h => by cases h) ?_
    rintro ⟨n, a, -, -, ha, -⟩
    cases ha
  | cons b l ih =>
    constructor
    · intro h
      rw [List.mapM_cons] at h
      -- the first entry fails, or the rest does after it
      obtain hb | ⟨value, u, hb, hrest⟩ := bind_eq_error h
      · exact ⟨0, b, [], s, rfl, rfl, hb⟩
      · obtain hl | ⟨others, v, -, hpure⟩ := bind_eq_error hrest
        · obtain ⟨n, a, values, v, ha, hbefore, hfail⟩ := ih.1 hl
          refine ⟨n + 1, a, value :: values, v, ha, ?_, hfail⟩
          rw [List.take_succ_cons, List.mapM_cons, bind_apply, hb]
          simp only [bind_apply, hbefore, pure_apply]
        · cases hpure
    · rintro ⟨n, a, values, u, ha, hbefore, hfail⟩
      rw [List.mapM_cons, bind_apply]
      -- the failing entry is the head, or it stands further down and the head succeeds
      cases n with
      | zero =>
        cases ha
        cases hbefore
        rw [hfail]
      | succ n =>
        rw [List.take_succ_cons, List.mapM_cons] at hbefore
        obtain ⟨value, v, hb, hrest⟩ := bind_eq_ok hbefore
        obtain ⟨others, w, hl, hpure⟩ := bind_eq_ok hrest
        cases hpure
        rw [hb]
        have hfails := ih.2 ⟨n, a, others, u, ha, hl, hfail⟩
        simp only [bind_apply, hfails]

end Action

/-- The parameter at `k` is the first beyond the given arguments that has no default. -/
structure FirstUnfilled (params : List Parameter) (given k : Nat) : Prop where
  beyond : given ≤ k
  unfilled : ∃ p, params[k]? = some p ∧ p.default = none
  first : ∀ j p, given ≤ j → j < k → params[j]? = some p → p.isOptional

/-- A parameter that is left without an argument and a default stands behind an optional one that
takes an argument, if there are as many arguments as the candidate requires. -/
theorem FirstUnfilled.exists_optional {params : List Parameter} {given k : Nat}
    (h : FirstUnfilled params given k) (harity : requiredArity params ≤ given) :
    ∃ j p, j < given ∧ params[j]? = some p ∧ p.isOptional := by
  by_contra hnone
  push Not at hnone
  obtain ⟨p, hp, hdefault⟩ := h.unfilled
  have hlength := (List.getElem?_eq_some_iff.1 hp).1
  -- all arguments go to required parameters, and there is one more
  have htaken : ((params.take given).filter (!·.isOptional)).length = given := by
    have htake : (params.take given).length = given := by
      rw [List.length_take]
      have := h.beyond
      omega
    refine .trans (List.length_filter_eq_length_iff.2 fun q hq => ?_) htake
    obtain ⟨j, hj⟩ := List.mem_iff_getElem?.1 hq
    rw [List.getElem?_take] at hj
    split at hj
    · next hlt => simpa using hnone j q hlt hj
    · cases hj
  have hleft : 0 < ((params.drop given).filter (!·.isOptional)).length := by
    refine List.length_filter_pos_iff.2 ⟨p, List.mem_iff_getElem?.2 ⟨k - given, ?_⟩, ?_⟩
    · rw [List.getElem?_drop, Nat.add_sub_cancel' h.beyond, hp]
    · simp [Parameter.isOptional, hdefault]
  have hsum : requiredArity params = ((params.take given).filter (!·.isOptional)).length +
      ((params.drop given).filter (!·.isOptional)).length := by
    rw [← List.length_append, ← List.filter_append, List.take_append_drop]
    rfl
  omega

namespace Realm

variable {R : Realm} {args : List ScriptValue} {params : List Parameter} {s t : Store}
  {position k : Nat} {p : Parameter}

/-- The defaults of omitted arguments are made without errors: they give a value or panic. -/
def DefaultsNeverFail (R : Realm) (params : List Parameter) : Prop :=
  ∀ p ∈ params, ∀ make, p.default = some make → ∀ s e t, R.run make s ≠ (.error e, t)

/-- A parameter without argument and default is missing. -/
theorem supplyOne_of_unfilled (hbeyond : args.length ≤ position) (hp : p.default = none) :
    R.supplyOne args p position s = (.error (.host (.missingArgument position)), s) := by
  unfold supplyOne
  rw [List.getElem?_eq_none hbeyond, hp]
  rfl

/-- A parameter misses its argument if there is none for it and no default. -/
theorem unfilled_of_missing
    (hdefault : ∀ make, p.default = some make → ∀ s e t, R.run make s ≠ (.error e, t))
    (h : R.supplyOne args p position s = (.error (.host (.missingArgument k)), t)) :
    args.length ≤ position ∧ p.default = none := by
  unfold supplyOne at h
  cases harg : args[position]? with
  | some arg =>
    simp only [harg] at h
    obtain ⟨cause, -, hcause⟩ := Action.mapError_eq_error h
    cases hcause
  | none =>
    cases hp : p.default with
    -- a default that failed would have another error
    | some make =>
      simp only [harg, hp] at h
      obtain ⟨cause, hfail, -⟩ := Action.mapError_eq_error h
      exact absurd hfail (hdefault make hp _ _ _)
    | none => exact ⟨List.getElem?_eq_none_iff.1 harg, rfl⟩

/-- A candidate that leaves a parameter unfilled is never supplied. -/
theorem convertArguments_ne_ok (h : FirstUnfilled params args.length k) (values : List HostValue) :
    R.convertArguments 0 params args s ≠ (.ok values, t) := by
  intro hok
  rw [convertArguments_zero] at hok
  obtain ⟨p, hp, hdefault⟩ := h.unfilled
  have hmem : (p, k) ∈ params.zipIdx := List.mem_zipIdx_iff_getElem?.2 hp
  obtain ⟨u, value, v, hsupplied⟩ := Action.exists_ok_of_mapM hok hmem
  cases (supplyOne_of_unfilled h.beyond hdefault).symm.trans hsupplied

/-- The first entries keep their positions. -/
theorem take_zipIdx {α : Type} (l : List α) (n : Nat) : l.zipIdx.take n = (l.take n).zipIdx := by
  refine List.ext_getElem? fun i => ?_
  simp only [List.getElem?_take, List.getElem?_zipIdx]
  split <;> simp

/-- An argument is missing exactly at the first parameter beyond the arguments without a default, if
all parameters before it are supplied. -/
theorem convertArguments_missing_iff (hdefaults : R.DefaultsNeverFail params) :
    R.convertArguments 0 params args s = (.error (.host (.missingArgument k)), t) ↔
      FirstUnfilled params args.length k ∧
        ∃ values, R.convertArguments 0 (params.take k) args s = (.ok values, t) := by
  simp only [convertArguments_zero, supply, Action.mapM_eq_error_iff, take_zipIdx]
  constructor
  · rintro ⟨n, ⟨p, position⟩, values, u, hp, hbefore, hmissing⟩
    rw [List.getElem?_zipIdx, Nat.zero_add] at hp
    obtain ⟨q, hq, heq⟩ := Option.map_eq_some_iff.1 hp
    cases heq
    obtain ⟨hbeyond, hdefault⟩ :=
      unfilled_of_missing (hdefaults p (List.mem_of_getElem? hq)) hmissing
    cases (supplyOne_of_unfilled hbeyond hdefault).symm.trans hmissing
    refine ⟨⟨hbeyond, ⟨p, hq, hdefault⟩, fun j r hj hlt hr => ?_⟩, values, hbefore⟩
    -- the parameters before were supplied, those beyond the arguments by a default
    have hmem : (r, j) ∈ (params.take n).zipIdx := by
      rw [List.mem_zipIdx_iff_getElem?, List.getElem?_take_of_lt hlt]
      exact hr
    obtain ⟨u, value, v, hsupplied⟩ := Action.exists_ok_of_mapM hbefore hmem
    cases hr : r.default with
    | some make => simp [Parameter.isOptional, hr]
    | none =>
      cases (supplyOne_of_unfilled hj hr).symm.trans hsupplied
  · rintro ⟨hunfilled, values, hbefore⟩
    obtain ⟨p, hp, hdefault⟩ := hunfilled.unfilled
    refine ⟨k, (p, k), values, t, ?_, hbefore, supplyOne_of_unfilled hunfilled.beyond hdefault⟩
    rw [List.getElem?_zipIdx, hp, Option.map_some, Nat.zero_add]

/-- **A ranked candidate misses an argument only where a required parameter stands behind an
optional one.** It does so, whatever has happened since it was ranked, exactly at the first
parameter beyond the arguments that has no default, once all parameters before it are supplied. If
there is such a parameter, an optional one before it takes an argument, and no call with these
arguments enters the candidate. So a ranked candidate whose optional parameters stand last never
misses an argument. -/
theorem missing_iff_overtaken {candidates : List (List Parameter)} {i : Nat}
    (hranked : i ∈ s.rankByCost R.types candidates args) (hi : candidates[i]? = some params)
    (hdefaults : R.DefaultsNeverFail params) :
    (∀ t k u, R.convertArguments 0 params args t = (.error (.host (.missingArgument k)), u) ↔
      FirstUnfilled params args.length k ∧
        ∃ values, R.convertArguments 0 (params.take k) args t = (.ok values, u)) ∧
    (∀ k, FirstUnfilled params args.length k →
      (∃ j p, j < args.length ∧ params[j]? = some p ∧ p.isOptional) ∧
        ∀ t values u, R.convertArguments 0 params args t ≠ (.ok values, u)) ∧
    (params.Pairwise (fun p q => p.isOptional → q.isOptional) →
      ∀ t k u, R.convertArguments 0 params args t ≠ (.error (.host (.missingArgument k)), u)) := by
  obtain ⟨others, hothers, harity, -, -⟩ := Store.mem_rankByCost.1 hranked
  cases hi.symm.trans hothers
  have hovertaken {k : Nat} (h : FirstUnfilled params args.length k) := h.exists_optional harity
  refine ⟨fun t k u => convertArguments_missing_iff hdefaults,
    fun k h => ⟨hovertaken h, fun t values u => convertArguments_ne_ok h values⟩,
    fun hlast t k u hmissing => ?_⟩
  obtain ⟨hunfilled, -⟩ := (convertArguments_missing_iff hdefaults).1 hmissing
  obtain ⟨j, p, hj, hp, hoptional⟩ := hovertaken hunfilled
  obtain ⟨q, hq, hdefault⟩ := hunfilled.unfilled
  obtain ⟨hj', rfl⟩ := List.getElem?_eq_some_iff.1 hp
  obtain ⟨hk, rfl⟩ := List.getElem?_eq_some_iff.1 hq
  have hlt := Nat.lt_of_lt_of_le hj hunfilled.beyond
  -- with the optional ones last, a required one behind them would be optional
  have hfilled := List.pairwise_iff_getElem.1 hlast j k hj' hk hlt hoptional
  simp [Parameter.isOptional, hdefault] at hfilled

/-- An optional parameter before a required one. -/
def overtaking : List Parameter :=
  [.optional (.primitive .bool) (.done (.bool false)), .required (.primitive .bool)]

/-- With one argument the candidate is ranked, and the argument goes to the optional parameter. -/
theorem missing_behind_optional :
    let R : Realm := Engine.realm ⟨.empty, .default, .byCost⟩ 0
    0 ∈ Store.initial.rankByCost R.types [overtaking] [.boolean true] ∧
      [overtaking][0]? = some overtaking ∧ R.DefaultsNeverFail overtaking ∧
      FirstUnfilled overtaking 1 1 ∧
      R.convertArguments 0 overtaking [.boolean true] .initial =
        (.error (.host (.missingArgument 1)), .initial) := by
  intro R
  have hranked : 0 ∈ Store.initial.rankByCost R.types [overtaking] [.boolean true] := by
    refine Store.mem_rankByCost.2 ⟨overtaking, rfl, by decide, by decide, ?_⟩
    rintro pair hpair
    obtain rfl := List.mem_singleton.1 hpair
    rfl
  -- the one default is a constant
  have hdefaults : R.DefaultsNeverFail overtaking := by
    rintro p hp make hmake s e t hrun
    obtain rfl | rfl : p = .optional (.primitive .bool) (.done (.bool false)) ∨
        p = .required (.primitive .bool) := by simpa [overtaking] using hp
    · cases hmake
      cases hrun
    · cases hmake
  -- one argument is given, so the second parameter is the first unfilled one
  have hunfilled : FirstUnfilled overtaking 1 1 :=
    ⟨Nat.le_refl 1, ⟨_, rfl, rfl⟩, fun j p hj hlt _ => by omega⟩
  exact ⟨hranked, rfl, hdefaults, hunfilled,
    ((missing_iff_overtaken hranked rfl hdefaults).1 _ 1 _).2 ⟨hunfilled, [.bool true], rfl⟩⟩

/-- A candidate is ranked for arguments that leave a required parameter without one. -/
theorem overtaken_parameter :
    let R : Realm := Engine.realm ⟨.empty, .default, .byCost⟩ 0
    Store.initial.rankByCost R.types [overtaking] [.boolean true] = [0] ∧
      R.convertArguments 0 overtaking [.boolean true] .initial =
        (.error (.host (.missingArgument 1)), .initial) := by
  intro R
  have hstanding : Store.initial.standing? R.types [.boolean true] (overtaking, 0) =
      some ⟨0, 0, 1⟩ := rfl
  exact ⟨by simp [Store.rankByCost, hstanding], rfl⟩

end Realm

end Membrane
