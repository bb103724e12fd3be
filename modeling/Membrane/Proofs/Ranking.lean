import Membrane.Overload.Dispatch
import Membrane.Proofs.Inhabitants
import Membrane.Proofs.RoundTrip

/-!
# Which overloads are ranked

The default ranking leaves out the candidates to which some argument has no cost. Cost and
conversion are separate case analyses over the shape of the argument and the declared type. Each is
summed up by the types that it lets an argument of some shape pass to, the cost here and the
conversion in `target_of_coerced_number` and its siblings. The two agree but for one entry: a bool or
a number is kept as it is at the universal value type, which has a cost for wrapped instances alone
(`Overlooked`).

So a candidate whose arguments convert is ranked exactly if none of them is overlooked, and a call
fails although its only overload accepts the argument (`overlooked_overload`).

## Key results

- `Store.isSome_cost_number_iff` and its siblings: the types to which an argument has a cost
- `Store.mem_rankByCost`: which candidates are ranked
- `Realm.ranked_iff_not_overlooked`: which candidates are ranked among those that accept the
  arguments
-/

namespace Membrane

/-- A bool or a number for a parameter of the universal value type: it can be passed as it is, but
has no cost. -/
inductive Overlooked : ScriptValue → TypeId → Prop where
  | boolean (b : Bool) : Overlooked (.boolean b) .valueType
  | number (x : Double) : Overlooked (.number x) .valueType

/-! ### The types that an argument has a cost for -/

namespace Store

variable (s : Store) (types : Registry) (t : TypeId)

/-- Null can be passed where it is a value of the type. -/
theorem isSome_cost_null_iff : (s.cost? types .null t).isSome ↔ types.isValueType t = false := by
  by_cases hscript : t = .scriptValue
  · simp [cost?, hscript, Registry.isValueType, Registry.kind, TypeKind.isValue]
  · by_cases hvalue : types.isValueType t <;> simp [cost?, hscript, hvalue]

/-- What a bool can be passed for. -/
theorem isSome_cost_boolean_iff (b : Bool) : (s.cost? types (.boolean b) t).isSome ↔
    t = .scriptValue ∨ t = .object ∨ t = .string ∨ ∃ kind, t = .primitive kind := by
  cases t with
  | primitive kind => cases kind <;> simp [cost?, Registry.primitiveKind?, Registry.kind]
  | _ => simp [cost?, Registry.primitiveKind?, Registry.kind]

/-- What a text can be passed for. -/
theorem isSome_cost_string_iff (text : String) : (s.cost? types (.string text) t).isSome ↔
    t = .scriptValue ∨ t = .object ∨ t = .string ∨ (∃ kind, t = .primitive kind) ∨
      types.isEnumeration t := by
  cases t with
  | declared index => simp [cost?, Registry.primitiveKind?, Registry.kind]
  | _ => simp [cost?, Registry.primitiveKind?, Registry.kind, Registry.isEnumeration]

/-- What a number can be passed for. -/
theorem isSome_cost_number_iff (x : Double) : (s.cost? types (.number x) t).isSome ↔
    t = .scriptValue ∨ t = .object ∨ t = .string ∨ (∃ kind, t = .primitive kind) ∨
      (types.isEnumeration t ∧ x.isWhole) := by
  cases t with
  | declared index =>
    by_cases henum : types.isEnumeration (.declared index) <;>
      simp [cost?, Registry.primitiveKind?, Registry.kind, henum]
  | _ => simp [cost?, Registry.primitiveKind?, Registry.kind, Registry.isEnumeration]

variable {s} {id : ObjectId}

/-- What an array can be passed for. -/
theorem isSome_cost_array_iff {elements : Array ScriptValue}
    (h : s.elements? id = some elements) : (s.cost? types (.object id) t).isSome ↔
    t = .scriptValue ∨ t = .object ∨ t = .array := by
  have hsort := elements?_eq_some_iff.1 h
  cases t <;> simp [cost?, hsort]

/-- What a wrapper can be passed for. -/
theorem isSome_cost_wrapper_iff {ref : HostRef} (h : s.hostTarget? id = some ref) :
    (s.cost? types (.object id) t).isSome ↔ t = .scriptValue ∨ types.isAssignable ref.type t := by
  have hsort := hostTarget?_eq_some_iff.1 h
  have hself : types.isAssignable ref.type ref.type := types.isAssignable_self _
  by_cases hscript : t = .scriptValue
  · simp [cost?, hscript]
  · -- the own type, the root and any other type cost differently, but only the assignable ones cost
    -- anything
    by_cases htype : ref.type = t
    · rw [htype] at hself
      simp [cost?, hsort, htype, hself, hscript]
    · by_cases hobject : t = .object
      · have hassignable : types.isAssignable ref.type t := by simp [hobject, Registry.isAssignable]
        rw [hobject] at htype hassignable
        simp [cost?, hsort, hobject, htype, hassignable]
      · by_cases hassignable : types.isAssignable ref.type t <;>
          simp [cost?, hsort, hscript, htype, hobject, hassignable]

/-- What any other object can be passed for. -/
theorem isSome_cost_other_iff (harray : s.elements? id = none) (htarget : s.hostTarget? id = none) :
    (s.cost? types (.object id) t).isSome ↔ t = .scriptValue ∨ t = .object := by
  cases hsort : s.sort? id with
  | none => cases t <;> simp [cost?, hsort]
  | some sort =>
    cases sort with
    | array elements => simp [elements?, hsort] at harray
    | wrapper ref => simp [hostTarget?, hsort] at htarget
    | _ => cases t <;> simp [cost?, hsort]

end Store

/-! ### Cost and conversion compared -/

variable {types : Registry} {s : Store} {arg : ScriptValue} {t : TypeId} {w : HostValue}

namespace Store

/-- What is converted is coerced from its host form. -/
theorem coerced_of_convertTo_scalar (hscalar : s.arrayElements? arg = none)
    (ht : t ≠ .scriptValue) (h : s.convertTo? types arg t = some (.ok w)) :
    Coerced types (s.naturalScalar arg) t w := by
  obtain ⟨natural, hnatural, hcoerced⟩ := coerced_of_convertTo ht h
  rw [natural?, naturalWithin_of_scalar hscalar] at hnatural
  cases hnatural
  exact hcoerced

/-- An object that can be converted can be passed. -/
theorem isSome_cost_of_convertTo_object {id : ObjectId} (ht : t ≠ .scriptValue)
    (h : s.convertTo? types (.object id) t = some (.ok w)) :
    (s.cost? types (.object id) t).isSome := by
  cases helements : s.elements? id with
  | some elements =>
    obtain ⟨natural, hnatural, hcoerced⟩ := coerced_of_convertTo ht h
    obtain ⟨hscalar, -⟩ | ⟨-, -, items, -, -, -, rfl⟩ := naturalWithin_cases hnatural
    · have hnone : s.elements? id = none := hscalar
      rw [hnone] at helements
      cases helements
    · -- an array is assignable to the few types above it, and each of these has a cost
      have hassignable := (kept_of_coerced rfl (fun _ => rfl) rfl rfl hcoerced).2
      have htarget := (Registry.isAssignable_iff_mem_ancestry rfl).1 hassignable
      simp only [Registry.ancestry_array, List.mem_cons, List.not_mem_nil] at htarget
      exact (isSome_cost_array_iff types t helements).2 (by tauto)
  | none =>
    have hscalar : s.arrayElements? (.object id) = none := helements
    have hcoerced := coerced_of_convertTo_scalar hscalar ht h
    cases htarget : s.hostTarget? id with
    | some ref =>
      simp only [naturalScalar, hostTarget?_eq_some_iff.1 htarget] at hcoerced
      have hassignable := (kept_of_coerced rfl (fun _ => rfl) rfl rfl hcoerced).2
      exact (isSome_cost_wrapper_iff types t htarget).2 (.inr hassignable)
    | none =>
      have hobject : t = .object := by
        -- a reference to a type is boxed, and every other object is carried as a script value
        simp only [naturalScalar] at hcoerced
        split at hcoerced
        · next ref hsort => simp [hostTarget?, hsort] at htarget
        · have hassignable := (kept_of_coerced rfl (fun _ => rfl) rfl rfl hcoerced).2
          have := (Registry.isAssignable_iff_mem_ancestry rfl).1 hassignable
          simpa [Registry.ancestry_object] using this
        · have hassignable := (kept_of_coerced rfl (fun _ => rfl) rfl rfl hcoerced).2
          have := (Registry.isAssignable_iff_mem_ancestry rfl).1 hassignable
          simp only [Registry.ancestry_scriptValue, List.mem_cons, List.not_mem_nil] at this
          tauto
      exact (isSome_cost_other_iff types t helements htarget).2 (.inr hobject)

/-- What is overlooked has no cost. -/
theorem cost?_of_overlooked (s : Store) (types : Registry) (h : Overlooked arg t) :
    s.cost? types arg t = none := by
  rw [← Option.not_isSome_iff_eq_none]
  cases h with
  | boolean b => simp [isSome_cost_boolean_iff]
  | number x => simp [isSome_cost_number_iff, Registry.isEnumeration, Registry.kind]

/-- An argument that can be converted has a cost, unless it is overlooked. -/
theorem isSome_cost_of_convertTo (hoverlooked : ¬ Overlooked arg t)
    (h : s.convertTo? types arg t = some (.ok w)) : (s.cost? types arg t).isSome := by
  by_cases ht : t = .scriptValue
  · simp [cost?, ht]
  cases arg with
  | undefined =>
    -- undefined is converted to script values only
    cases coerced_of_convertTo_scalar rfl ht h with
    | kept htype => cases htype
    | primitive hnumber => cases hnumber
    | constant _ hinteger => cases hinteger
    | text htext => cases htext
  | null =>
    have hvalue := (eq_null_of_coerced (coerced_of_convertTo_scalar rfl ht h)).2
    exact (isSome_cost_null_iff s types t).2 hvalue
  | boolean b =>
    have htarget := target_of_coerced_bool (coerced_of_convertTo_scalar rfl ht h)
    -- the type of all values takes it, but has no cost for it
    have hvalueType : t ≠ .valueType := by
      rintro rfl
      exact hoverlooked (.boolean b)
    exact (isSome_cost_boolean_iff s types t b).2 (by tauto)
  | number x =>
    have htarget := target_of_coerced_number (coerced_of_convertTo_scalar rfl ht h)
    have hvalueType : t ≠ .valueType := by
      rintro rfl
      exact hoverlooked (.number x)
    exact (isSome_cost_number_iff s types t x).2 (by tauto)
  | string text =>
    have htarget := target_of_coerced_string (coerced_of_convertTo_scalar rfl ht h)
    exact (isSome_cost_string_iff s types t text).2 (by tauto)
  | object id => exact isSome_cost_of_convertTo_object ht h

/-! ### Candidates -/

/-- There are costs if every argument has one. -/
theorem isSome_costs_iff {params : List Parameter} {args : List ScriptValue} :
    (s.costs? types params args).isSome ↔
      ∀ pair ∈ args.zip params, (s.cost? types pair.1 pair.2.type).isSome :=
  isSome_mapM_iff

/-- A candidate has a standing if its arity fits and every argument has a cost. -/
theorem exists_standing_iff {params : List Parameter} {args : List ScriptValue} {index i : Nat} :
    (∃ standing, s.standing? types args (params, index) = some standing ∧ standing.index = i) ↔
      index = i ∧ requiredArity params ≤ args.length ∧ args.length ≤ params.length ∧
        ∀ pair ∈ args.zip params, (s.cost? types pair.1 pair.2.type).isSome := by
  rw [← isSome_costs_iff]
  simp only [standing?, Bool.or_eq_true, decide_eq_true_eq]
  -- too few arguments, or too many
  split
  · next harity =>
    refine iff_of_false (by simp) ?_
    rintro ⟨-, hrequired, hlength, -⟩
    omega
  · next harity =>
    have hrequired : requiredArity params ≤ args.length := by omega
    have hlength : args.length ≤ params.length := by omega
    cases s.costs? types params args with
    | none => simp
    | some costs => simp [hrequired, hlength]

/-- The candidates that are ranked are those of a fitting arity for which every argument has a
cost. -/
theorem mem_rankByCost {candidates : List (List Parameter)} {args : List ScriptValue} {i : Nat} :
    i ∈ s.rankByCost types candidates args ↔
      ∃ params, candidates[i]? = some params ∧ requiredArity params ≤ args.length ∧
        args.length ≤ params.length ∧
        ∀ pair ∈ args.zip params, (s.cost? types pair.1 pair.2.type).isSome := by
  simp only [rankByCost, List.mem_map, List.mem_mergeSort, List.mem_filterMap]
  constructor
  · -- the sort changes the order only, so membership is that of the standings
    rintro ⟨standing, ⟨⟨params, index⟩, hcandidate, hstanding⟩, hindex⟩
    obtain ⟨rfl, hfits⟩ := exists_standing_iff.1 ⟨standing, hstanding, hindex⟩
    exact ⟨params, List.mem_zipIdx_iff_getElem?.1 hcandidate, hfits⟩
  · rintro ⟨params, hcandidate, hfits⟩
    obtain ⟨standing, hstanding, hindex⟩ := exists_standing_iff.2 ⟨rfl, hfits⟩
    have hmem : (params, i) ∈ candidates.zipIdx := List.mem_zipIdx_iff_getElem?.2 hcandidate
    exact ⟨standing, ⟨(params, i), hmem, hstanding⟩, hindex⟩

end Store

namespace Realm

/-- An argument that converts has a cost, and a candidate whose arguments convert is ranked, unless
an argument is overlooked; then there is no cost and the candidate is left out. -/
theorem ranked_iff_not_overlooked (R : Realm) (s : Store) :
    (∀ arg t w, s.convertTo? R.types arg t = some (.ok w) →
      ((s.cost? R.types arg t).isSome ↔ ¬ Overlooked arg t)) ∧
    ∀ candidates args i params values s', candidates[i]? = some params →
      args.length ≤ params.length →
      R.convertArguments 0 params args s = (.ok values, s') →
      (i ∈ s.rankByCost R.types candidates args ↔
        ∀ pair ∈ args.zip params, ¬ Overlooked pair.1 pair.2.type) := by
  have hcost : ∀ arg t w, s.convertTo? R.types arg t = some (.ok w) →
      ((s.cost? R.types arg t).isSome ↔ ¬ Overlooked arg t) := by
    refine fun arg t w h => ⟨fun hsome hoverlooked => ?_, fun hnot => ?_⟩
    · rw [Store.cost?_of_overlooked s R.types hoverlooked] at hsome
      cases hsome
    · exact Store.isSome_cost_of_convertTo hnot h
  refine ⟨hcost, fun candidates args i params values s' hcandidate hlength hconvert => ?_⟩
  obtain ⟨harity, hconverted⟩ := convertTo_of_convertArguments hconvert
  -- every argument of the pairs has been converted, so each cost is decided by the first part
  have hcosts : (∀ pair ∈ args.zip params, (s.cost? R.types pair.1 pair.2.type).isSome) ↔
      ∀ pair ∈ args.zip params, ¬ Overlooked pair.1 pair.2.type := by
    refine forall₂_congr fun pair hpair => ?_
    obtain ⟨i, hi⟩ := List.mem_iff_getElem?.1 hpair
    obtain ⟨harg, hparam⟩ := List.getElem?_zip_eq_some.1 hi
    obtain ⟨w, -, hw⟩ := hconverted i pair.1 pair.2 harg hparam
    exact hcost _ _ w hw
  rw [← hcosts, Store.mem_rankByCost]
  constructor
  · rintro ⟨others, hothers, -, -, h⟩
    rw [hcandidate] at hothers
    cases hothers
    exact h
  · intro h
    exact ⟨params, hcandidate, harity, hlength, h⟩

/-- A bool for a number and null for a text: the candidate that takes both is ranked. -/
theorem ranked_second_overload :
    let R : Realm := Engine.realm ⟨.empty, .default, .byCost⟩ 0
    let params : List Parameter := [.required (.integer .int8), .required .string]
    let args : List ScriptValue := [.boolean true, .null]
    R.convertArguments 0 params args .initial =
        (.ok [.integer .int8 ⟨1, by decide⟩, .null], .initial) ∧
      1 ∈ Store.initial.rankByCost R.types [[], params] args := by
  intro R params args
  have hconvert : R.convertArguments 0 params args .initial =
      (.ok [.integer .int8 ⟨1, by decide⟩, .null], .initial) := rfl
  have hranked := (R.ranked_iff_not_overlooked .initial).2 [[], params] args 1 params _ _ rfl
    (by decide) hconvert
  refine ⟨hconvert, hranked.2 fun pair hpair hoverlooked => ?_⟩
  have hpair : pair = (.boolean true, .required (.integer .int8)) ∨
      pair = (.null, .required .string) := by simpa [args, params] using hpair
  -- neither argument is a flag or number at the value type
  obtain rfl | rfl := hpair <;> cases hoverlooked

/-- A bool is accepted as it is by a parameter of the universal value type, but has no cost there,
and the only candidate is left out. -/
theorem overlooked_overload :
    let R : Realm := Engine.realm ⟨.empty, .default, .byCost⟩ 0
    let params : List Parameter := [.required .valueType]
    R.convertArguments 0 params [.boolean true] .initial = (.ok [.bool true], .initial) ∧
      Store.initial.cost? R.types (.boolean true) .valueType = none ∧
      Store.initial.rankByCost R.types [params] [.boolean true] = [] := by
  intro R params
  have hstanding : Store.initial.standing? R.types [.boolean true] (params, 0) = none := rfl
  exact ⟨rfl, rfl, by simp [Store.rankByCost, hstanding]⟩

end Realm

end Membrane
