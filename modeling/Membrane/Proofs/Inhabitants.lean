import Membrane.Proofs.Agreement
import Membrane.Proofs.Homogenize

/-!
# Values at their declared types

A value inhabits a type when it can stand where the type is declared (`Registry.inhabits`). What a
coercion makes of a value is one of five things (`Coerced`); each of them inhabits the target, and
the same coercion keeps it.

So every body is entered with inhabitants of its declared types alone. A check in front of a body,
which panics on values outside the declared type (`Descriptor.checking`, `Candidate.checking`), says
what this means: no access and no call can tell the checked body from the body itself.

## Key results

- `coerced_of_coerce`: the rule that a successful coercion followed
- `target_of_coerced_number` and its siblings: the types that a value can be brought to
- `inhabits_of_coerce`, `coerce_of_inhabits`: a coerced value inhabits its type, and is kept
- `convertTo_of_convertArguments`: arguments that convert together convert one by one
- `yields_convertArguments`: the arguments of a call inhabit the types of the parameters
- `Realm.coercions_inhabit`: no check in front of a body shows
-/

namespace Membrane

/-- The value can stand where the type is declared: null for a type that is not a value type, any
other value if its own type is assignable. Undefined has no type and stands nowhere. -/
def Registry.inhabits (types : Registry) (v : HostValue) (t : TypeId) : Bool :=
  match v with
  | .null => !types.isValueType t
  | v => v.runtimeType?.any (types.isAssignable · t)

open Conversion in
/-- What a successful coercion makes of a value. -/
inductive Coerced (types : Registry) : HostValue → TypeId → HostValue → Prop where
  | null {t} (h : types.isValueType t = false) : Coerced types .null t .null
  /-- The value is assignable as it is. -/
  | kept {v t T} (htype : v.runtimeType? = some T) (h : types.isAssignable T t) :
      Coerced types v t v
  | primitive {v kind n w} (hnumber : numeric? v kind = some (.ok n))
      (h : ofNumeric kind n = .ok w) : Coerced types v (.primitive kind) w
  | constant {v t n} {m : Sized .int64} (ht : types.isEnumeration t)
      (hinteger : integral? v = some n) (h : m.val = n) : Coerced types v t (.constant t m)
  | text {v s} (h : format? v = some s) : Coerced types v .string (.string s)

namespace Registry

variable {types : Registry} {v w h : HostValue} {t T : TypeId}

/-! ### Coercion -/

/-- A value inhabits a type as null, or by its own type. -/
theorem inhabits_iff : types.inhabits v t ↔
    (v = .null ∧ types.isValueType t = false) ∨
      ∃ T, v.runtimeType? = some T ∧ types.isAssignable T t := by
  cases v <;> simp [inhabits, HostValue.runtimeType?]

/-- A value of an assignable type inhabits the type. -/
theorem inhabits_of_isAssignable (htype : v.runtimeType? = some T) (h : types.isAssignable T t) :
    types.inhabits v t :=
  inhabits_iff.2 (.inr ⟨T, htype, h⟩)

/-- Only the primitive types are of a primitive kind. -/
theorem kind_eq_primitive_iff {kind : PrimitiveKind} :
    types.kind t = .primitive kind ↔ t = .primitive kind := by
  cases t <;> simp [Registry.kind]

/-- A coercion that succeeds has followed one of its rules. -/
theorem coerced_of_coerce (h : types.coerce v t = .ok w) : Coerced types v t w := by
  unfold coerce at h
  split at h
  · cases h
  · -- null and undefined first, then what is kept, then by the kind of the target
    split at h
    · cases h
    · next hnull =>
      cases h
      exact .null (by simpa using hnull)
  · split at h
    · next hany =>
      cases h
      -- a value without a type is kept by no type
      cases htype : v.runtimeType? with
      | none => simp [htype] at hany
      | some T => exact .kept htype (by simpa [htype] using hany)
    · split at h
      · cases h
      · split at h
        · next kind hkind =>
          split at h
          · next n hnumber =>
            rw [kind_eq_primitive_iff.1 hkind]
            exact .primitive hnumber h
          · cases h
          · cases h
        · next hkind =>
          split at h
          · next n hinteger =>
            split at h
            · next m hm =>
              cases h
              have ht : types.isEnumeration t := by simp [isEnumeration, hkind]
              exact .constant ht hinteger (Sized.ofInt?_eq_some_iff.1 hm)
            · cases h
          · cases h
        · split at h
          · next hstring =>
            split at h
            · next s hs =>
              cases h
              rw [beq_iff_eq.1 hstring]
              exact .text hs
            · cases h
          · cases h

/-- A number at a primitive kind is a value of that kind. -/
theorem primitiveKind?_of_ofNumeric {kind : PrimitiveKind} {n : Numeric}
    (h : Conversion.ofNumeric kind n = .ok w) : w.primitiveKind? = some kind := by
  -- what is narrowed is of the kind that it is narrowed to
  have hnarrow {k : IntegerKind} {i : Int} (h : Conversion.narrow k i = .ok w) :
      w.primitiveKind? = some (.integer k) := by
    unfold Conversion.narrow at h
    split at h
    · cases h
      rfl
    · cases h
  cases kind with
  | integer k =>
    cases n with
    | int i => exact hnarrow h
    | real x =>
      simp only [Conversion.ofNumeric] at h
      split at h
      · exact hnarrow h
      · cases h
  | float =>
    cases n with
    | int i =>
      cases h
      rfl
    | real x =>
      simp only [Conversion.ofNumeric] at h
      split at h
      · cases h
      · cases h
        rfl
  | _ =>
    cases n <;>
    · cases h
      rfl

/-- A value of a primitive kind has the type of that kind. -/
theorem runtimeType?_of_primitiveKind? {kind : PrimitiveKind} (h : w.primitiveKind? = some kind) :
    w.runtimeType? = some (.primitive kind) := by
  cases w <;> cases h <;> rfl

/-- What a coercion gives inhabits its target. -/
theorem inhabits_of_coerced (h : Coerced types v t w) : types.inhabits w t := by
  cases h with
  | null h => exact inhabits_iff.2 (.inl ⟨rfl, h⟩)
  | kept htype h => exact inhabits_of_isAssignable htype h
  | primitive hnumber h =>
    have htype := runtimeType?_of_primitiveKind? (primitiveKind?_of_ofNumeric h)
    exact inhabits_of_isAssignable htype (types.isAssignable_self _)
  | constant => exact inhabits_of_isAssignable rfl (types.isAssignable_self _)
  | text => exact inhabits_of_isAssignable rfl (types.isAssignable_self _)

/-- The same of the program. -/
theorem inhabits_of_coerce (h : types.coerce v t = .ok w) : types.inhabits w t :=
  inhabits_of_coerced (coerced_of_coerce h)

/-- What inhabits a type already is kept. -/
theorem coerce_of_inhabits (h : types.inhabits v t) : types.coerce v t = .ok v := by
  obtain ⟨rfl, hnull⟩ | ⟨T, htype, hassignable⟩ := inhabits_iff.1 h
  · simp [coerce, hnull]
  · exact coerce_of_isAssignable htype hassignable

end Registry

/-! ### The types that a value can be brought to -/

section Targets

variable {types : Registry} {v w : HostValue} {t T : TypeId}

open Conversion

/-- Null stays what it is. -/
theorem eq_null_of_coerced (h : Coerced types .null t w) :
    w = .null ∧ types.isValueType t = false := by
  cases h with
  | null hvalue => exact ⟨rfl, hvalue⟩
  | kept htype => cases htype
  | primitive hnumber => cases hnumber
  | constant _ hinteger => cases hinteger
  | text htext => cases htext

/-- Only bools, numbers, texts and constants become other values. -/
theorem kept_of_coerced (htype : v.runtimeType? = some T)
    (hnumber : ∀ kind, numeric? v kind = none) (hint : integral? v = none)
    (htext : format? v = none) (h : Coerced types v t w) :
    w = v ∧ types.isAssignable T t := by
  cases h with
  | null => cases htype
  | kept htype' h =>
    rw [htype] at htype'
    cases htype'
    exact ⟨rfl, h⟩
  -- no other way of a coercion is open to the value
  | primitive hnumber' =>
    rw [hnumber] at hnumber'
    cases hnumber'
  | constant ht hinteger =>
    rw [hint] at hinteger
    cases hinteger
  | text htext' =>
    rw [htext] at htext'
    cases htext'

/-- What a bool is coerced to. -/
theorem target_of_coerced_bool {b : Bool} (h : Coerced types (.bool b) t w) :
    t = .valueType ∨ t = .object ∨ t = .string ∨ ∃ kind, t = .primitive kind := by
  cases h with
  | kept htype h =>
    cases htype
    obtain rfl | rfl | rfl := Registry.eq_of_isAssignable rfl h <;> simp
  | primitive => simp
  | constant ht hinteger => cases hinteger
  | text => simp

/-- What a text is coerced to. -/
theorem target_of_coerced_string {text : String} (h : Coerced types (.string text) t w) :
    t = .object ∨ t = .string ∨ ∃ kind, t = .primitive kind := by
  cases h with
  | kept htype h =>
    cases htype
    have ht := (Registry.isAssignable_iff_mem_ancestry rfl).1 h
    simp only [Registry.ancestry_string, List.mem_cons, List.not_mem_nil, or_false] at ht
    obtain rfl | rfl | rfl := ht <;> simp
  | primitive => simp
  | constant ht hinteger => cases hinteger
  | text h => cases h

/-- What a number is coerced to, an enumeration only if it is whole. -/
theorem target_of_coerced_number {x : Double} (h : Coerced types (naturalNumber x) t w) :
    t = .valueType ∨ t = .object ∨ t = .string ∨ (∃ kind, t = .primitive kind) ∨
      (types.isEnumeration t ∧ x.isWhole) := by
  have htype : ∃ kind, (naturalNumber x).runtimeType? = some (.primitive kind) := by
    obtain hx | ⟨n, hx, -⟩ := naturalNumber_cases x
    · exact ⟨.double, by rw [hx]; rfl⟩
    · exact ⟨.integer .int32, by rw [hx]; rfl⟩
  obtain ⟨kind, htype⟩ := htype
  generalize hv : naturalNumber x = v at h htype
  cases h with
  | null => cases htype
  | kept htype' h =>
    rw [htype] at htype'
    cases htype'
    obtain rfl | rfl | rfl := Registry.eq_of_isAssignable rfl h <;> simp
  | primitive => simp
  | constant ht hinteger =>
    -- an integral value is made of a whole number only
    have hwhole : x.isWhole := by
      obtain hx | ⟨n, -, hwhole, -⟩ := naturalNumber_cases x
      · rw [← hv, hx] at hinteger
        simp only [integral?, HostValue.asInt?, HostValue.asDouble?, Option.bind_some,
          Option.map_eq_some_iff] at hinteger
        obtain ⟨i, hi, -⟩ := hinteger
        rw [Binary.isWhole, hi]
        rfl
      · rw [Binary.isWhole, hwhole]
        rfl
    exact .inr (.inr (.inr (.inr ⟨ht, hwhole⟩)))
  | text => simp

end Targets

/-! ### Conversion -/

namespace Store

variable {types : Registry} {s : Store} {v : ScriptValue} {t : TypeId} {w : HostValue}

/-- A conversion coerces the natural host form, where script values are not passed untouched. -/
theorem coerced_of_convertTo (ht : t ≠ .scriptValue) (h : s.convertTo? types v t = some (.ok w)) :
    ∃ natural, s.natural? types v = some natural ∧ Coerced types natural t w := by
  have hbeq : (t == .scriptValue) = false := beq_eq_false_iff_ne.2 ht
  simp only [convertTo?, hbeq, Bool.false_eq_true, if_false] at h
  obtain ⟨natural, hnatural, hcoerce⟩ := Option.map_eq_some_iff.1 h
  exact ⟨natural, hnatural, Registry.coerced_of_coerce hcoerce⟩

/-- A script value at a declared type inhabits the type. -/
theorem inhabits_of_convertTo (h : s.convertTo? types v t = some (.ok w)) : types.inhabits w t := by
  by_cases ht : t = .scriptValue
  · subst ht
    cases h
    exact Registry.inhabits_of_isAssignable rfl (types.isAssignable_self _)
  · obtain ⟨natural, -, hcoerced⟩ := coerced_of_convertTo ht h
    exact Registry.inhabits_of_coerced hcoerced

end Store

/-! ### Results of a special kind -/

namespace Action

variable {ε ε' α β : Type} {P : α → Prop} {Q : β → Prop} {act : Action ε α}

/-- What is yielded, by the runs that succeed. -/
theorem yields_iff : Yields P act ↔ ∀ s a t, act s = (.ok a, t) → P a := by
  constructor
  · intro h s a t hact
    exact h s a (by rw [hact])
  · intro h s a ha
    exact h s a (act s).2 (Prod.ext ha rfl)

/-- As `yields_bind`, after an action whose results are of a special kind. -/
theorem yields_bindOf {next : α → Action ε β} (h : Yields P act)
    (hnext : ∀ a, P a → Yields Q (next a)) : Yields Q (act >>= next) := by
  refine yields_iff.2 fun s b t hb => ?_
  obtain ⟨a, u, hact, hrest⟩ := bind_eq_ok hb
  exact yields_iff.1 (hnext a (yields_iff.1 h s a u hact)) u b t hrest

/-- Another error is no result. -/
theorem yields_mapError (f : ε → ε') (h : Yields P act) : Yields P (act.mapError f) :=
  yields_iff.2 fun s a t ha => yields_iff.1 h s a t (mapError_eq_ok ha)

/-- What is captured, if it is no error. -/
theorem yields_capture (h : Yields P act) :
    Yields (fun r => ∀ a, r = .ok a → P a) (act.capture : Action ε' (Except ε α)) := by
  refine yields_iff.2 ?_
  rintro s r t hr a rfl
  exact yields_iff.1 h s a t (capture_eq_ok hr)

/-- What follows an action matters on its results alone. -/
theorem Yields.bind_congr {next next' : α → Action ε β} (h : Yields P act)
    (hnext : ∀ a, P a → next a = next' a) : act >>= next = act >>= next' := by
  funext s
  simp only [bind_apply]
  generalize hact : act s = r
  obtain ⟨o, t⟩ := r
  cases o with
  | ok a => exact congrFun (hnext a (h s a (by rw [hact]))) t
  | _ => rfl

end Action

open Action

/-! ### Checks in front of bodies -/

/-- The panic of a check that fails. -/
def misfit : Panic := .text "value outside the declared type"

/-- The values are passed for the parameters of a call: there is one for each, and the first ones,
which come from that many arguments, inhabit the declared types. A default is passed as it is. -/
def Registry.receives (types : Registry) (params : List Parameter) (given : Nat)
    (values : List HostValue) : Bool :=
  values.length == params.length &&
    ((values.zip params).take given).all fun (v, p) => types.inhabits v p.type

/-- A body that writes, with a check of the value in front. -/
def Setter.checking (types : Registry) (t : TypeId) (set : Setter) : Setter := fun this v =>
  if types.inhabits v t then set this v else .panic misfit

/-- The field with the check in front of its setter. -/
def Field.checking (types : Registry) (f : Field) : Field :=
  { f with set := f.set.map (Setter.checking types f.type) }

/-- The property with the check in front of its setter. -/
def Property.checking (types : Registry) (p : Property) : Property :=
  { p with set := p.set.map (Setter.checking types p.type) }

/-- An indexer with a check of the key, and of the value if there is one, in front of its bodies. -/
def Indexer.checking (types : Registry) (i : Indexer) : Indexer :=
  { i with
    get := i.get.map fun get this k =>
      if types.inhabits k i.keyType then get this k else .panic misfit
    set := i.set.map fun set this k v =>
      if types.inhabits k i.keyType && types.inhabits v i.valueType then set this k v
      else .panic misfit }

/-- The setter of the field, checked. -/
theorem Field.set_checking (types : Registry) (f : Field) :
    (f.checking types).set = f.set.map (Setter.checking types f.type) := rfl

/-- The setter of the property, checked. -/
theorem Property.set_checking (types : Registry) (p : Property) :
    (p.checking types).set = p.set.map (Setter.checking types p.type) := rfl

/-- The getter of the indexer, with a check of the key. -/
theorem Indexer.get_checking (types : Registry) (i : Indexer) :
    (i.checking types).get = i.get.map fun get this k =>
      if types.inhabits k i.keyType then get this k else .panic misfit := rfl

/-- The setter of the indexer, with a check of key and value. -/
theorem Indexer.set_checking (types : Registry) (i : Indexer) :
    (i.checking types).set = i.set.map fun set this k v =>
      if types.inhabits k i.keyType && types.inhabits v i.valueType then set this k v
      else .panic misfit := rfl

/-- The binding of a host member, with a check in front of the member's bodies. -/
def Descriptor.checking (types : Registry) : Descriptor → Descriptor
  | .field member target => .field (member.checking types) target
  | .property member target shadow => .property (member.checking types) target shadow
  | .sharedProperty member target cell => .sharedProperty (member.checking types) target cell
  | .index member target key => .index (member.checking types) target key
  | d => d

/-- An overload with a check of the values it is passed for the arguments of a call. -/
def Realm.Candidate.checking {y : Yield} (types : Registry) (args : List ScriptValue)
    (c : Candidate y) : Candidate y :=
  { c with body := fun call =>
      if types.receives c.params args.length call.args then c.body call else .panic misfit }

namespace Realm

variable {R : Realm}

/-- A conversion that succeeds leaves the store as it was. -/
theorem convertTo_eq_ok {v : ScriptValue} {t : TypeId} {w : HostValue} {s s' : Store}
    (h : R.convertTo v t s = (.ok w, s')) :
    s.convertTo? R.types v t = some (.ok w) ∧ s' = s := by
  simp only [convertTo, Action.bind_apply, Action.getStore] at h
  -- a conversion without end is no success
  cases hconvert : s.convertTo? R.types v t with
  | none =>
    rw [hconvert] at h
    cases h
  | some r =>
    rw [hconvert] at h
    cases r with
    | error e => cases h
    | ok w =>
      cases h
      exact ⟨rfl, rfl⟩

/-- A conversion yields values of its target. -/
theorem yields_convertTo (R : Realm) (v : ScriptValue) (t : TypeId) :
    Yields (R.types.inhabits · t) (R.convertTo v t) :=
  yields_iff.2 fun _ _ _ h => Store.inhabits_of_convertTo (convertTo_eq_ok h).1

/-- The key that an indexer is asked for is of its key type. -/
theorem inhabits_of_indexKey {member : Indexer} {key : String} {k : HostValue}
    (h : R.indexKey member key = .ok k) : R.types.inhabits k member.keyType :=
  Registry.inhabits_of_coerce h

/-- A parameter with a default is not required. -/
theorem requiredArity_cons_of_some {p : Parameter} {params : List Parameter}
    {default : Program .value} (h : p.default = some default) :
    requiredArity (p :: params) = requiredArity params := by
  simp [requiredArity, Parameter.isOptional, h]

/-- One parameter more is at most one more that is required. -/
theorem requiredArity_cons_le (p : Parameter) (params : List Parameter) :
    requiredArity (p :: params) ≤ requiredArity params + 1 := by
  simp only [requiredArity, List.filter_cons]
  split
  · simp
  · omega

/-- Arguments that convert together convert one by one, and only optional parameters go without. -/
theorem convertTo_of_convertArguments {position : Nat} {params : List Parameter}
    {args : List ScriptValue} {values : List HostValue} {s s' : Store}
    (h : R.convertArguments position params args s = (.ok values, s')) :
    requiredArity params ≤ args.length ∧
      ∀ (i : Nat) arg p, args[i]? = some arg → params[i]? = some p →
        ∃ w, values[i]? = some w ∧ s.convertTo? R.types arg p.type = some (.ok w) := by
  -- the arguments are converted one after the other, and none of them changes the store
  induction params generalizing position args values s s' with
  | nil => simp [requiredArity]
  | cons p params ih =>
    cases args with
    | nil =>
      rw [convertArguments] at h
      cases hdefault : p.default with
      | none =>
        rw [hdefault] at h
        cases h
      | some default =>
        rw [hdefault] at h
        obtain ⟨first, u, -, hnext⟩ := Action.bind_eq_ok h
        obtain ⟨others, u', hothers, -⟩ := Action.bind_eq_ok hnext
        -- no argument is left, so the rest says nothing about arguments
        obtain ⟨harity, -⟩ := ih hothers
        rw [requiredArity_cons_of_some hdefault]
        exact ⟨harity, by simp⟩
    | cons arg args =>
      rw [convertArguments] at h
      obtain ⟨first, u, hfirst, hnext⟩ := Action.bind_eq_ok h
      obtain ⟨others, u', hothers, hdone⟩ := Action.bind_eq_ok hnext
      obtain ⟨hconvert, rfl⟩ := convertTo_eq_ok (Action.mapError_eq_ok hfirst)
      obtain ⟨harity, hrest⟩ := ih hothers
      cases hdone
      have hcons := requiredArity_cons_le p params
      refine ⟨by rw [List.length_cons]; omega, fun i other q hother hq => ?_⟩
      -- the first argument is the first parameter's, and the others are shifted by one
      cases i with
      | zero =>
        cases hother
        cases hq
        exact ⟨first, rfl, hconvert⟩
      | succ i => exact hrest i other q hother hq

/-- A call passes inhabitants of the declared types for its arguments. -/
theorem yields_convertArguments (R : Realm) (params : List Parameter) (args : List ScriptValue)
    (position : Nat) :
    Yields (fun values => R.types.receives params args.length values = true)
      (R.convertArguments position params args) := by
  -- the first value is that of the first argument, if there are any left
  induction params generalizing args position with
  | nil => exact yields_pure (by simp [Registry.receives])
  | cons p params ih =>
    cases args with
    | nil =>
      have hrest (first : HostValue) :
          Yields (fun values => R.types.receives (p :: params) 0 values = true) (do
            let others ← R.convertArguments (position + 1) params []
            return first :: others) := by
        refine yields_bindOf (ih [] (position + 1)) fun others hothers => yields_pure ?_
        simpa [Registry.receives] using hothers
      rw [convertArguments]
      cases p.default with
      | none => exact yields_bind hrest
      | some default => exact yields_bind hrest
    | cons arg args =>
      rw [convertArguments]
      have hconvert := yields_mapError BridgeError.conversion (R.yields_convertTo arg p.type)
      refine yields_bindOf hconvert fun first hfirst => ?_
      refine yields_bindOf (ih args (position + 1)) fun others hothers => yields_pure ?_
      simp only [Registry.receives, Bool.and_eq_true, beq_iff_eq, List.length_cons,
        List.zip_cons_cons, List.take_succ_cons, List.all_cons] at hothers ⊢
      exact ⟨by omega, hfirst, hothers.2⟩

/-- The check in front of a method is never failed. -/
theorem tryCandidate_checking (this : Option HostRef) (args : List ScriptValue)
    (c : Candidate .value) :
    R.tryCandidate this args (c.checking R.types args) = R.tryCandidate this args c := by
  refine (R.yields_convertArguments c.params args 0).bind_congr fun values hvalues => ?_
  simp only [Candidate.checking, hvalues, if_true]

/-- The check in front of a constructor is never failed. -/
theorem tryConstructor_checking (args : List ScriptValue) (c : Candidate .storage) :
    R.tryConstructor args (c.checking R.types args) = R.tryConstructor args c := by
  refine (R.yields_convertArguments c.params args 0).bind_congr fun values hvalues => ?_
  simp only [Candidate.checking, hvalues, if_true]

/-- The check changes nothing of the key. -/
theorem indexKey_checking (member : Indexer) (key : String) :
    R.indexKey (member.checking R.types) key = R.indexKey member key := rfl

/-- A read of a property is not checked. -/
theorem readProperty_checking (member : Property) (target : Option HostRef)
    (shadow : Option ScriptValue) :
    R.readProperty (member.checking R.types) target shadow = R.readProperty member target shadow := by
  cases shadow <;> rfl

/-- A write to a property passes the check. -/
theorem writeProperty_checking (member : Property) (target : Option HostRef)
    (shadow : Option ScriptValue) (value : ScriptValue) :
    R.writeProperty (member.checking R.types) target shadow value =
      R.writeProperty member target shadow value := by
  simp only [writeProperty, Property.set_checking]
  cases hset : member.set with
  | none => rfl
  | some set =>
    simp only [Option.map_some]
    -- what is passed on is an inhabitant, so the check in front of the body lets it through
    refine (yields_capture (R.yields_convertTo value member.type)).bind_congr fun r hr => ?_
    cases r with
    | ok v => simp only [Setter.checking, hr v rfl, if_true]
    | error e => rfl

/-- A check in front of the bodies of a member does not show in what is read. -/
theorem read_checking (d : Descriptor) : R.read (d.checking R.types) = R.read d := by
  cases d with
  | index member target key =>
    simp only [Descriptor.checking, read, indexKey_checking, Indexer.get_checking]
    cases hget : member.get with
    | none => rfl
    | some get =>
      -- the key that is passed on is of the key type
      cases hkey : R.indexKey member key with
      | error e => rfl
      | ok k => simp only [Option.map_some, inhabits_of_indexKey hkey, if_true]
  | property member target shadow => exact readProperty_checking member target shadow
  | sharedProperty member target cell =>
    simp only [Descriptor.checking, read, readProperty_checking]
  | _ => rfl

/-- A check in front of the bodies of a member does not show in what is written. -/
theorem write_checking (d : Descriptor) (value : ScriptValue) :
    R.write (d.checking R.types) value = Descriptor.checking R.types <$> R.write d value := by
  cases d with
  | field member target =>
    simp only [Descriptor.checking, write, Field.set_checking]
    cases hset : member.set with
    | none => rfl
    | some set =>
      simp only [Option.map_some, map_bind, map_pure]
      refine (yields_mapError _ (R.yields_convertTo value member.type)).bind_congr fun v hv => ?_
      -- the converted value inhabits the type of the field
      simp only [Setter.checking, hv, if_true, Descriptor.checking]
  | property member target shadow =>
    simp only [Descriptor.checking, write, writeProperty_checking, map_bind, map_pure]
  | sharedProperty member target cell =>
    simp only [Descriptor.checking, write, writeProperty_checking, map_bind, map_pure]
  | index member target key =>
    simp only [Descriptor.checking, write, indexKey_checking, Indexer.set_checking]
    cases hset : member.set with
    | none => rfl
    | some set =>
      cases hkey : R.indexKey member key with
      | error e => rfl
      | ok k =>
        simp only [Option.map_some, map_bind, map_pure, Action.ofExcept_mapError_ok, pure_bind]
        refine (yields_mapError _ (R.yields_convertTo value member.valueType)).bind_congr
          fun v hv => ?_
        simp only [inhabits_of_indexKey hkey, hv, Bool.and_self, if_true, Descriptor.checking]
  | _ => rfl

/-- A coerced value is null, for a type that is not a value type, or of an assignable type, and the
same coercion keeps it; a script value at a declared type inhabits the type, and is carried as it is
where script values are declared. No body that writes a member, is given a key or is called with
arguments is ever entered with anything else. -/
theorem coercions_inhabit (R : Realm) :
    (∀ v t w, R.types.coerce v t = .ok w →
      ((w = .null ∧ R.types.isValueType t = false) ∨
        ∃ T, w.runtimeType? = some T ∧ R.types.isAssignable T t) ∧
      R.types.coerce w t = .ok w) ∧
    (∀ v t s w s', R.convertTo v t s = (.ok w, s') →
      R.types.inhabits w t ∧ (t = .scriptValue → w = .script v)) ∧
    (∀ d value,
      R.write (d.checking R.types) value = Descriptor.checking R.types <$> R.write d value) ∧
    (∀ d, R.read (d.checking R.types) = R.read d) ∧
    (∀ this args c, R.tryCandidate this args (c.checking R.types args) =
      R.tryCandidate this args c) ∧
    (∀ args c, R.tryConstructor args (c.checking R.types args) = R.tryConstructor args c) := by
  refine ⟨fun v t w h => ?_, fun v t s w s' h => ⟨?_, ?_⟩, write_checking, read_checking,
    tryCandidate_checking, tryConstructor_checking⟩
  · have hinhabits := Registry.inhabits_of_coerce h
    exact ⟨Registry.inhabits_iff.1 hinhabits, Registry.coerce_of_inhabits hinhabits⟩
  · exact R.yields_convertTo v t s w (by rw [h])
  · -- a script value is handed over as it is
    rintro rfl
    cases h
    rfl

/-- A number as a constant of an enumeration, and a bool as an argument. -/
theorem enumeration_of_number :
    let types := (Registry.empty.declare (.make "Color" .enumeration)).2
    let R : Realm := Engine.realm ⟨types, .default, .byCost⟩ 0
    let color : TypeId := .declared 0
    let two : HostValue := .constant color ⟨2, by decide⟩
    R.types.coerce (.integer .uint8 ⟨2, by decide⟩) color = .ok two ∧
      R.types.coerce two color = .ok two ∧
      R.convertTo (.boolean true) (.integer .int8) .initial =
        (.ok (.integer .int8 ⟨1, by decide⟩), .initial) ∧
      R.types.inhabits (.integer .int8 ⟨1, by decide⟩) (.integer .int8) := by
  intro types R color two
  have hcoerce : R.types.coerce (.integer .uint8 ⟨2, by decide⟩) color = .ok two := rfl
  have hconvert : R.convertTo (.boolean true) (.integer .int8) .initial =
      (.ok (.integer .int8 ⟨1, by decide⟩), .initial) := rfl
  -- soundness and idempotence are the same clause
  obtain ⟨hsound, hconverted, -⟩ := R.coercions_inhabit
  exact ⟨hcoerce, (hsound _ _ _ hcoerce).2, hconvert, (hconverted _ _ _ _ _ hconvert).1⟩

end Realm

end Membrane
