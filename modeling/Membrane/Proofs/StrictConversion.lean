import Membrane.Proofs.Homogenize
import Membrane.Realm.Run

/-!
# The strict conversion as a part of the lenient one

The two conversions to a type decide in different ways what they take. The strict one looks at the
shape of the script value, and a value that has the shape is done when it has its natural form; only
numbers are coerced. The lenient one coerces every natural form. A natural form other than a number
of a value with the right shape is of a type that is assignable to the target, and a coercion keeps
it: so what the strict conversion takes, the lenient one makes the same value of.

## Key results

- `Store.toHost?_eq`: the strict conversion is the lenient one, apart from what it refuses
- `Realm.toHost_ok_iff_accepted`: a value that it gives is the one that the lenient conversion gives
-/

namespace Membrane

variable {types : Registry} {s : Store} {v : ScriptValue} {t : TypeId} {h : HostValue}

namespace Store

/-- The strict conversion takes a value for a type: script values are taken as they are, and for
another type the shape must fit. -/
def accepts (s : Store) (types : Registry) (v : ScriptValue) (t : TypeId) : Bool :=
  t == .scriptValue || s.acceptsShape types v t

/-- The natural form of an array is a sequence, and that of another value is at hand. -/
theorem natural?_cases (hnatural : s.natural? types v = some h) :
    (∃ elements type items, s.arrayElements? v = some elements ∧ h = .array type items) ∨
      s.arrayElements? v = none ∧ h = s.naturalScalar v := by
  obtain hscalar | ⟨elements, -, items, helements, -, -, rfl⟩ := naturalWithin_cases hnatural
  · exact .inr hscalar
  · exact .inl ⟨elements, _, _, helements, rfl⟩

/-- The shape of an object fits the type of its natural form. -/
private theorem coerce_natural_object {id : ObjectId} (hshape : s.acceptsShape types (.object id) t)
    (hnatural : s.natural? types (.object id) = some h) : types.coerce h t = .ok h := by
  -- an array has its elements converted, everything else is taken as it stands
  obtain ⟨elements, type, items, helements, rfl⟩ | ⟨helements, rfl⟩ := natural?_cases hnatural
  · have hsort : s.sort? id = some (.array elements) := by
      simp only [arrayElements?, elements?] at helements
      split at helements
      · next hsort =>
        cases helements
        exact hsort
      · cases helements
    simp only [acceptsShape, hsort] at hshape
    exact Registry.coerce_of_isAssignable rfl hshape
  · -- apart from wrappers, an object that is no array goes where every object goes
    have hobject : ∀ {w : HostValue} {T : TypeId}, w.runtimeType? = some T → t = .object →
        types.coerce w t = .ok w := by
      rintro w T htype rfl
      exact Registry.coerce_of_isAssignable htype (by simp [Registry.isAssignable])
    simp only [acceptsShape] at hshape
    simp only [naturalScalar]
    cases hsort : s.sort? id with
    | none => exact hobject rfl (by simpa [hsort] using hshape)
    | some sort =>
      cases sort with
      | array elements => simp [arrayElements?, elements?, hsort] at helements
      | wrapper target =>
        simp only [hsort] at hshape
        exact Registry.coerce_of_isAssignable rfl hshape
      | typeReference type => exact hobject rfl (by simpa [hsort] using hshape)
      | plain => exact hobject rfl (by simpa [hsort] using hshape)
      | function name body => exact hobject rfl (by simpa [hsort] using hshape)
      | methods group target => exact hobject rfl (by simpa [hsort] using hshape)

/-- A coercion keeps the natural form of a value with the right shape, unless that is a number. -/
theorem coerce_natural (hshape : s.acceptsShape types v t) (hnumber : v.number? = none)
    (hnatural : s.natural? types v = some h) : types.coerce h t = .ok h := by
  -- by the value: its shape leaves a primitive one target type at most
  cases v with
  | undefined => cases hshape
  | number x => cases hnumber
  | object id => exact coerce_natural_object hshape hnatural
  | null =>
    obtain ⟨_, _, _, helements, -⟩ | ⟨-, rfl⟩ := natural?_cases hnatural
    · cases helements
    · have hvalue : types.isValueType t = false := by simpa [acceptsShape] using hshape
      simp [naturalScalar, Registry.coerce, hvalue]
  | boolean b =>
    obtain ⟨_, _, _, helements, -⟩ | ⟨-, rfl⟩ := natural?_cases hnatural
    · cases helements
    · obtain rfl : t = .primitive .bool := by simpa [acceptsShape] using hshape
      exact Registry.coerce_of_isAssignable rfl (types.isAssignable_self _)
  | string text =>
    obtain ⟨_, _, _, helements, -⟩ | ⟨-, rfl⟩ := natural?_cases hnatural
    · cases helements
    · obtain rfl : t = .string := by simpa [acceptsShape] using hshape
      exact Registry.coerce_of_isAssignable rfl (types.isAssignable_self _)

/-- Of the values with the right shape the strict conversion coerces the numbers alone. -/
private theorem toHost?_of_ne (s : Store) (types : Registry) (v : ScriptValue)
    (ht : t ≠ .scriptValue) :
    s.toHost? types v (some t) =
      if !s.acceptsShape types v t then some (s.refuse types v t)
      else (s.natural? types v).map (if v.number?.isSome then (types.coerce · t) else .ok) := by
  cases t with
  | scriptValue => exact absurd rfl ht
  | _ => cases v <;> rfl

/-- The strict conversion is the lenient one, apart from what it refuses. -/
theorem toHost?_eq (s : Store) (types : Registry) (v : ScriptValue) (t : TypeId) :
    s.toHost? types v (some t) =
      if s.accepts types v t then s.convertTo? types v t else some (s.refuse types v t) := by
  by_cases hscript : t = .scriptValue
  · subst hscript
    rfl
  -- apart from script values the shape decides, before anything is converted
  have hbeq : (t == .scriptValue) = false := beq_eq_false_iff_ne.2 hscript
  rw [toHost?_of_ne s types v hscript]
  cases hshape : s.acceptsShape types v t with
  | false => simp [accepts, hbeq, hshape]
  | true =>
    simp only [accepts, hbeq, hshape, convertTo?, Bool.not_true, Bool.false_or, Bool.false_eq_true,
      if_false, if_true]
    cases hnatural : s.natural? types v with
    | none => rfl
    | some h =>
      -- a number is narrowed in either way; what else has the shape is not changed by the
      -- conversion
      cases hnumber : v.number? with
      | some x => rfl
      | none => simp [coerce_natural hshape hnumber hnatural]

end Store

namespace Realm

/-- What the strict conversion takes it converts as the lenient one does, errors included. -/
theorem toHost_of_accepts (R : Realm) (haccepts : s.accepts R.types v t) :
    R.toHost v (some t) s = R.convertTo v t s := by
  simp only [toHost, convertTo, Action.bind_apply, Action.getStore, Store.toHost?_eq, haccepts,
    if_true]

/-- What the strict conversion does not take it refuses, whatever the lenient one makes of it. -/
theorem toHost_of_not_accepts (R : Realm) (haccepts : s.accepts R.types v t = false) :
    R.toHost v (some t) s =
      (.error (.incompatible (s.typeTag v) (R.types.name t)), s) := by
  simp only [toHost, Action.bind_apply, Action.getStore, Store.toHost?_eq, haccepts,
    Bool.false_eq_true, if_false]
  rfl

/-- The strict conversion gives the values that it takes, and for each of them the value that the
lenient conversion gives. -/
theorem toHost_ok_iff_accepted (R : Realm) (s s' : Store) (v : ScriptValue) (t : TypeId)
    (h : HostValue) :
    R.toHost v (some t) s = (.ok h, s') ↔
      s.accepts R.types v t = true ∧ R.convertTo v t s = (.ok h, s') := by
  cases haccepts : s.accepts R.types v t with
  | true => simp [toHost_of_accepts R haccepts]
  | false => simp [toHost_of_not_accepts R haccepts]

-- a bool is no text for the strict conversion, and has one for the lenient conversion
example : Store.initial.accepts .empty (.boolean true) .string = false ∧
    Store.initial.convertTo? .empty (.boolean true) .string = some (.ok (.string "True")) :=
  ⟨rfl, rfl⟩

end Realm

end Membrane
