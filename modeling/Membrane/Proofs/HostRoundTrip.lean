import Membrane.Proofs.WrittenBack

/-!
# Host values come back at their own type

A host value goes to the script side and is brought back to the type that it has. On the script side
all numbers and constants are doubles; the way back first gives a double its natural form, an `int`
or a double again, and then coerces that to the declared type. Each of the steps is exact for the
values that a script is handed one at a time (`HostValue.Handed`): bools, numbers, constants, texts
and instances. The wrapper of an instance is new, and the instance behind it is the same.

An instance of the type of script values does not come back as itself: what is declared as a script
value receives the wrapper.

## Key results

- `coerce_naturalNumber_constant`: a constant comes back at its enumeration
- `HostValue.Handed.convertTo?_fromHost`: the script form of a value is converted to the value
- `Realm.handed_come_back`: what becomes of every such value on its way through a realm
-/

namespace Membrane

open Conversion

variable {types : Registry} {s : Store}

/-- An enumeration is declared, so it is not the type of script values. -/
theorem kind_of_isEnumeration {t : TypeId} (ht : types.isEnumeration t) :
    types.kind t = .declared .enumeration ∧ (t == .scriptValue) = false := by
  refine ⟨by simpa [Registry.isEnumeration] using ht, ?_⟩
  rw [← Bool.not_eq_true]
  intro h
  cases eq_of_beq h
  cases ht

/-- No bool or number stands at an enumeration as it is. -/
theorem not_kept_at_enumeration {v : HostValue} {kind : PrimitiveKind} {t : TypeId}
    (hkind : v.primitiveKind? = some kind) (ht : types.isEnumeration t) :
    v.runtimeType?.any (types.isAssignable · t) = false := by
  rw [Registry.runtimeType?_of_primitiveKind? hkind, Option.any_some, ← Bool.not_eq_true]
  intro h
  obtain rfl | rfl | rfl := Registry.eq_of_isAssignable rfl h <;> cases ht

/-- An enumeration makes its constant of the integer that a value is. -/
theorem coerce_integral {v : HostValue} {t : TypeId} {n : Sized .int64} (ht : types.isEnumeration t)
    (hkept : v.runtimeType?.any (types.isAssignable · t) = false)
    (hn : integral? v = some n.val) : types.coerce v t = .ok (.constant t n) := by
  obtain ⟨hdeclared, hscript⟩ := kind_of_isEnumeration ht
  cases v with
  | undefined => cases hn
  | null => cases hn
  | _ => simp [Registry.coerce, hkept, hscript, hdeclared, hn, Sized.ofInt?_val]

/-- A whole double is an integral value. -/
theorem integral?_of_whole? {x : Double} {n : Int} (h : x.whole? = some n) :
    integral? (.double x) = some (clamp n) := by
  show (x.whole?).map clamp = some (clamp n)
  rw [h, Option.map_some]

/-- A constant that a double holds comes back at its enumeration. -/
theorem coerce_naturalNumber_constant {t : TypeId} (ht : types.isEnumeration t) (n : Sized .int64)
    (hn : FloatFormat.double.Holds n.val) :
    types.coerce (naturalNumber (.ofInt n.val)) t = .ok (.constant t n) := by
  obtain ⟨hwhole, -⟩ := Binary.whole?_ofInt (F := .double) (by decide) (by decide) (by decide) hn
  -- a number is taken for a double or, if it is small enough, for an integer
  obtain hnatural | ⟨m, hnatural, hm, -⟩ := naturalNumber_cases (.ofInt n.val)
  · have hintegral := integral?_of_whole? hwhole
    rw [clamp_val] at hintegral
    rw [hnatural]
    exact coerce_integral ht (not_kept_at_enumeration rfl ht) hintegral
  · have hval : m.val = n.val := by
      rw [hwhole] at hm
      exact (Option.some.inj hm).symm
    have hintegral : integral? (.integer .int32 m) = some n.val := by
      rw [← hval]
      rfl
    rw [hnatural]
    exact coerce_integral ht (not_kept_at_enumeration rfl ht) hintegral

/-- A value that a script is handed as one scalar or one handle, and that its double can tell from
all others: integers of 64 bits and constants are at most of the size up to which doubles hold every
integer. -/
inductive HostValue.Handed (types : Registry) : HostValue → Prop where
  | bool (b : Bool) : Handed types (.bool b)
  | narrow (k : IntegerKind) (n : Sized k) (hk : k.size ≤ 4) : Handed types (.integer k n)
  | wide (k : IntegerKind) (n : Sized k) (hk : k.size = 8) (hn : FloatFormat.double.Holds n.val) :
      Handed types (.integer k n)
  | constant (t : TypeId) (n : Sized .int64) (ht : types.isEnumeration t)
      (hn : FloatFormat.double.Holds n.val) : Handed types (.constant t n)
  | float (x : Single) : Handed types (.float x)
  | double (x : Double) : Handed types (.double x)
  | string (text : String) : Handed types (.string text)
  | object (ref : HostRef) : Handed types (.object ref)

namespace HostValue.Handed

variable {v : HostValue} {T : TypeId}

/-- A double holds every integer of up to 32 bits. -/
theorem holds_of_size {k : IntegerKind} (n : Sized k) (hk : k.size ≤ 4) :
    FloatFormat.double.Holds n.val := by
  refine Carrier.holds_of_isExact ?_
  cases k with
  | int64 => exact absurd hk (by decide)
  | uint64 => exact absurd hk (by decide)
  | _ => rfl

/-- The wrapper of an instance is new, and has the instance behind it. -/
theorem hostTarget?_wrap (s : Store) (types : Registry) (ref : HostRef) :
    ∃ id, (s.wrap types ref).1 = .object id ∧ (s.wrap types ref).2.hostTarget? id = some ref :=
  ⟨_, rfl, Store.hostTarget?_eq_some_iff.2 (s.sort?_create (Store.wrapperOf types ref))⟩

/-- The wrapper of an instance is converted to the instance. -/
theorem convertTo?_wrap (s : Store) (types : Registry) (ref : HostRef)
    (hT : ref.type ≠ .scriptValue) :
    (s.wrap types ref).2.convertTo? types (s.wrap types ref).1 ref.type =
      some (.ok (.object ref)) := by
  obtain ⟨id, hid, htarget⟩ := hostTarget?_wrap s types ref
  have hsort := Store.hostTarget?_eq_some_iff.1 htarget
  have hscalar : (s.wrap types ref).2.arrayElements? (.object id) = none := by
    simp [Store.arrayElements?, Store.elements?, hsort]
  have hnatural : (s.wrap types ref).2.naturalScalar (.object id) = .object ref := by
    simp [Store.naturalScalar, hsort]
  -- the wrapper is converted to the object, which its own type takes as it is
  rw [hid, Store.convertTo?_of_scalar hscalar hT, hnatural,
    Registry.coerce_of_isAssignable rfl (types.isAssignable_self _)]

/-- The script form of a value is converted to the value. -/
theorem convertTo?_fromHost (hv : v.Handed types) (htype : v.runtimeType? = some T)
    (hT : T ≠ .scriptValue) (s : Store) :
    (s.fromHost types v).2.convertTo? types (s.fromHost types v).1 T = some (.ok v) := by
  have hself (t : TypeId) := types.isAssignable_self t
  cases hv with
  | object ref =>
    cases htype
    exact convertTo?_wrap s types ref hT
  | bool b =>
    cases htype
    rw [Store.convertTo?_of_scalar rfl hT]
    exact congrArg some (Registry.coerce_of_isAssignable rfl (hself _))
  | string text =>
    cases htype
    rw [Store.convertTo?_of_scalar rfl hT]
    exact congrArg some (Registry.coerce_of_isAssignable rfl (hself _))
  -- a number comes back by a coercion, and is exact as a double
  | narrow k n hk =>
    cases htype
    rw [Store.convertTo?_of_scalar rfl hT]
    exact congrArg some (coerce_naturalNumber_integer n (holds_of_size n hk))
  | wide k n hk hn =>
    cases htype
    rw [Store.convertTo?_of_scalar rfl hT]
    exact congrArg some (coerce_naturalNumber_integer n hn)
  -- a constant returns as a number, which the enumeration takes
  | constant t n ht hn =>
    cases htype
    rw [Store.convertTo?_of_scalar rfl hT]
    exact congrArg some (coerce_naturalNumber_constant ht n hn)
  | float x =>
    cases htype
    rw [Store.convertTo?_of_scalar rfl hT]
    exact congrArg some (coerce_naturalNumber_float x)
  | double x =>
    cases htype
    rw [Store.convertTo?_of_scalar rfl hT]
    exact congrArg some (coerce_naturalNumber_double x)

/-- Of the types that a value can have, only that of an instance can be the type of script
values. -/
theorem eq_object (hv : v.Handed types) (htype : v.runtimeType? = some .scriptValue) :
    ∃ ref, v = .object ref := by
  cases hv with
  | object ref => exact ⟨ref, rfl⟩
  | constant t n ht hn =>
    cases htype
    cases ht
  | _ => cases htype

end HostValue.Handed

namespace Realm

/-- A scalar or an instance that goes to the script side and is converted back to its own type is
the same value again, payload and all, except that an instance of the type of script values comes
back as the script value that it has become: its wrapper, with the same instance behind it. -/
theorem handed_come_back (R : Realm) {v : HostValue} {T : TypeId} (hv : v.Handed R.types)
    (htype : v.runtimeType? = some T) (s : Store) :
    ∃ w s', (R.fromHost v : Action ConversionError ScriptValue) s = (.ok w, s') ∧
      if T = .scriptValue then
        R.convertTo w T s' = (.ok (.script w), s') ∧
          ∃ ref id, v = .object ref ∧ w = .object id ∧ s'.hostTarget? id = some ref
      else R.convertTo w T s' = (.ok v, s') := by
  refine ⟨(s.fromHost R.types v).1, (s.fromHost R.types v).2, rfl, ?_⟩
  -- an instance of the type of script values stays the wrapper that the script has
  split
  · next hT =>
    subst hT
    obtain ⟨ref, rfl⟩ := hv.eq_object htype
    obtain ⟨id, hid, htarget⟩ := HostValue.Handed.hostTarget?_wrap s R.types ref
    exact ⟨rfl, ref, id, rfl, hid, htarget⟩
  · next hT =>
    simp only [convertTo, Action.bind_apply, Action.getStore, hv.convertTo?_fromHost htype hT s]
    rfl

/-- A constant of an enumeration that is no constant with a name. -/
theorem constant_comes_back :
    let types : Registry := ⟨#[.make "E" .enumeration]⟩
    let R : Realm := Engine.realm ⟨types, .default, .byCost⟩ 0
    let v : HostValue := .constant (.declared 0) ⟨-9007199254740992, by decide⟩
    v.Handed R.types ∧ v.runtimeType? = some (.declared 0) ∧
      ∃ w s', (R.fromHost v : Action ConversionError ScriptValue) .initial = (.ok w, s') ∧
        R.convertTo w (.declared 0) s' = (.ok v, s') := by
  intro types R v
  have hv : v.Handed R.types := .constant _ _ rfl (by decide)
  obtain ⟨w, s', hfrom, hto⟩ := R.handed_come_back hv rfl .initial
  exact ⟨hv, rfl, w, s', hfrom, hto⟩

/-- An instance of the type of script values comes back as a script value. -/
theorem script_typed_instance_comes_back_wrapped :
    let R : Realm := Engine.realm ⟨.empty, .default, .byCost⟩ 0
    let made := Store.initial.newInstance .scriptValue (.empty "Storage")
    let v : HostValue := .object made.1
    v.Handed R.types ∧ v.runtimeType? = some .scriptValue ∧
      (∃ w s', (R.fromHost v : Action ConversionError ScriptValue) made.2 = (.ok w, s') ∧
        R.convertTo w .scriptValue s' = (.ok (.script (.object (.created 3))), s')) ∧
      ¬ ∃ w s', (R.fromHost v : Action ConversionError ScriptValue) made.2 = (.ok w, s') ∧
        R.convertTo w .scriptValue s' = (.ok v, s') := by
  intro R made v
  refine ⟨.object _, rfl, ⟨_, _, rfl, rfl⟩, ?_⟩
  rintro ⟨w, s', hfrom, hto⟩
  -- a script value is asked for, so the wrapper itself is handed over
  cases hfrom
  have hvalue : (.ok (.script (.object (.created 3))) : Outcome ConversionError HostValue) = .ok v :=
    congrArg Prod.fst hto
  simp [v] at hvalue

end Realm

end Membrane
