import Membrane.Conversion.Homogenize
import Membrane.Store

/-! # Host forms of script values

`Store.natural?` gives a script value its natural host form: whole numbers in the range of `int`
become integers, arrays become homogeneous sequences, wrappers and type references what is behind
them, and every other object is carried as it is. The conversion of arrays is granted a depth; the
heap holds no deeper nesting than it has objects unless an array lies inside itself, and there the
conversion has no end and `none` stands for that.

`Store.toHost?` is the strict conversion to a type: every conflict of shape is refused.
`Store.convertTo?` is the lenient one: the natural form, coerced.
-/

namespace Membrane

/-- Whole numbers in the range of `int` are integers, apart from negative zero, whose sign an
integer would lose. -/
def naturalNumber (x : Double) : HostValue :=
  if x.isNegativeZero then .double x
  else match x.whole?.bind (HostValue.ofInt? .int32) with
    | some v => v
    | none => .double x

/-- A number in its natural host form: the double itself, or the integer that it denotes. -/
theorem naturalNumber_cases (x : Double) :
    naturalNumber x = .double x ∨
      ∃ n, naturalNumber x = .integer .int32 n ∧ x.whole? = some n.val ∧
        x.isNegativeZero = false := by
  unfold naturalNumber
  split
  · exact .inl rfl
  · next hzero =>
    split
    · next v hv =>
      obtain ⟨i, hwhole, hi⟩ := Option.bind_eq_some_iff.1 hv
      obtain ⟨n, hn, rfl⟩ := Option.map_eq_some_iff.1 hi
      refine .inr ⟨n, rfl, ?_, by simpa using hzero⟩
      rw [hwhole, Sized.ofInt?_eq_some_iff.1 hn]
    · exact .inl rfl

namespace Store

/-- The elements of a value that is a script array. -/
def arrayElements? (s : Store) : ScriptValue → Option (Array ScriptValue)
  | .object id => s.elements? id
  | _ => none

/-- The natural host form of a value that is no array. -/
def naturalScalar (s : Store) : ScriptValue → HostValue
  | .undefined => .undefined
  | .null => .null
  | .boolean b => .bool b
  | .number x => naturalNumber x
  | .string text => .string text
  | .object id =>
      match s.sort? id with
      | some (.wrapper target) => .object target
      | some (.typeReference type) => .hostType type
      -- functions and plain objects go through the host untouched
      | _ => .script (.object id)

/-- The natural host form of a value with arrays nested to at most `depth`. -/
def naturalWithin (types : Registry) (s : Store) : Nat → ScriptValue → Option HostValue
  | depth, v =>
      match s.arrayElements? v with
      | none => some (s.naturalScalar v)
      | some elements =>
          match depth with
          | 0 => none
          | depth + 1 =>
              (elements.toList.mapM (naturalWithin types s depth)).map fun items =>
                (types.homogenize items).toValue

/-- What is no array is converted at any depth. -/
theorem naturalWithin_of_scalar {types : Registry} {s : Store} {v : ScriptValue}
    (h : s.arrayElements? v = none) (depth : Nat) :
    s.naturalWithin types depth v = some (s.naturalScalar v) := by
  unfold naturalWithin
  rw [h]

/-- An array is not converted when no depth is left. -/
theorem naturalWithin_zero {types : Registry} {s : Store} {v : ScriptValue}
    {elements : Array ScriptValue} (h : s.arrayElements? v = some elements) :
    s.naturalWithin types 0 v = none := by
  unfold naturalWithin
  rw [h]

/-- An array is converted with one level less for its elements. -/
theorem naturalWithin_succ {types : Registry} {s : Store} {v : ScriptValue}
    {elements : Array ScriptValue} (h : s.arrayElements? v = some elements) (depth : Nat) :
    s.naturalWithin types (depth + 1) v =
      (elements.toList.mapM (s.naturalWithin types depth)).map fun items =>
        (types.homogenize items).toValue := by
  rw [naturalWithin, h]

/-- A natural host form is that of no array, or made of those of the elements. -/
theorem naturalWithin_cases {types : Registry} {s : Store} {depth : Nat} {v : ScriptValue}
    {h : HostValue} (hnatural : s.naturalWithin types depth v = some h) :
    (s.arrayElements? v = none ∧ h = s.naturalScalar v) ∨
      ∃ elements inner items, s.arrayElements? v = some elements ∧ depth = inner + 1 ∧
        elements.toList.mapM (s.naturalWithin types inner) = some items ∧
        h = (types.homogenize items).toValue := by
  cases helements : s.arrayElements? v with
  | none =>
    rw [naturalWithin_of_scalar helements] at hnatural
    exact .inl ⟨rfl, (Option.some.inj hnatural).symm⟩
  | some elements =>
    cases depth with
    | zero =>
      rw [naturalWithin_zero helements] at hnatural
      cases hnatural
    | succ inner =>
      rw [naturalWithin_succ helements] at hnatural
      obtain ⟨items, hitems, rfl⟩ := Option.map_eq_some_iff.1 hnatural
      exact .inr ⟨elements, inner, items, rfl, rfl, hitems, rfl⟩

/-- The natural host form of a value; `none` if an array lies inside itself. -/
def natural? (s : Store) (types : Registry) (v : ScriptValue) : Option HostValue :=
  s.naturalWithin types s.heap.count v

/-- The tag that a refusal calls a script value by. -/
def refuse {α : Type} (s : Store) (types : Registry) (v : ScriptValue) (target : TypeId) :
    Except ConversionError α :=
  .error (.incompatible (s.typeTag v) (types.name target))

/-- The shape that a strict conversion to a type demands. -/
def acceptsShape (s : Store) (types : Registry) (v : ScriptValue) (target : TypeId) : Bool :=
  match v with
  | .undefined => false
  | .null => !types.isValueType target
  | .boolean _ => target == .primitive .bool
  | .string _ => target == .string
  | .number _ => types.isValueType target
  | .object id =>
      match s.sort? id with
      | some (.array _) => types.isAssignable .array target
      | some (.wrapper ref) => types.isAssignable ref.type target
      | _ => target == .object

/-- The strict conversion, to a type if one is required. -/
def toHost? (s : Store) (types : Registry) (v : ScriptValue) (target : Option TypeId) :
    Option (Except ConversionError HostValue) :=
  match target with
  | none => (s.natural? types v).map .ok
  | some .scriptValue => some (.ok (.script v))
  | some t =>
      if !s.acceptsShape types v t then some (s.refuse types v t)
      else (s.natural? types v).map fun h =>
        match v with
        | .number _ => types.coerce h t
        | _ => .ok h

/-- The lenient conversion to a declared type. -/
def convertTo? (s : Store) (types : Registry) (v : ScriptValue) (target : TypeId) :
    Option (Except ConversionError HostValue) :=
  if target == .scriptValue then some (.ok (.script v))
  else (s.natural? types v).map (types.coerce · target)

end Store

end Membrane
