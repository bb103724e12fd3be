import Membrane.Member.Accessor
import Membrane.Proofs.Inhabitants
import Membrane.Proofs.RoundTrip

/-!
# Declared types and the variables behind them

A typed member declares the host type of its carrier, and its body extracts a variable of the
carrier from the value that it is given. Whether a value gets to the body is decided by the
conversion to the declared type, whether a variable can be read from it by the extraction, and the
two agree but for what the carrier `Misses`: null is a value of the type of texts but no text, and an
instance of a type that is declared with the carrier's type as its base is accepted as it is, but is
no variable of the carrier.

## Key results

- `extract_of_basicType`: a value of the carrier's own type is a variable of it
- `basicType?_of_coerced`: what a coercion to a basic type gives
- `Carrier.extract_iff_of_convertTo`: a converted value can be extracted unless the carrier misses
  it
- `Realm.extracts_unless_missed`: so conversions fail in front of the bodies, not inside them
-/

namespace Membrane

open Conversion

/-! ### Values of basic types -/

/-- The type of a bool, a number or a text. -/
def HostValue.basicType? : HostValue → Option TypeId
  | .string _ => some .string
  | v => v.primitiveKind?.map .primitive

namespace Carrier

/-- The carrier holds no list. -/
def isScalar : Carrier → Bool
  | .list _ => false
  | .optional c => isScalar c
  | _ => true

/-- The carrier takes script or host values as they are. -/
def isDynamic : Carrier → Bool
  | .host | .script => true
  | .optional c => isDynamic c
  | _ => false

/-- The value has the type that the carrier declares without being a variable of the carrier: null
for a text, and a wrapped instance of a derived type for anything but script and host values. -/
def Misses (c : Carrier) (types : Registry) (s : Store) (v : ScriptValue) : Prop :=
  (v = .null ∧ c = .string) ∨
    (c.isDynamic = false ∧ ∃ ref, v.object?.bind s.hostTarget? = some ref ∧
      types.isAssignable ref.type c.hostType)

end Carrier

variable {types : Registry} {s : Store} {c : Carrier} {v : ScriptValue} {natural w : HostValue}
  {t : TypeId}

/-- What can be read as a variable can be read as an optional one. -/
theorem extract_optional (h : ∃ r, types.extract c w = .ok r) :
    ∃ r, types.extract (.optional c) w = .ok r := by
  obtain ⟨r, hr⟩ := h
  unfold Registry.extract
  split
  · exact ⟨none, rfl⟩
  · exact ⟨none, rfl⟩
  · exact ⟨some r, by rw [hr]; rfl⟩

/-- A value of the type that a carrier declares, if that is the type of a bool, a number or a text,
is a variable of the carrier. -/
theorem extract_of_basicType (types : Registry) (h : w.basicType? = some c.hostType) :
    ∃ r, types.extract c w = .ok r := by
  -- a basic type has one constructor of host values, and it is the one that the carrier reads
  induction c with
  | optional c ih => exact extract_optional (ih h)
  | integer k =>
    cases w <;> cases h
    next n => exact ⟨n, by simp [Registry.extract, Registry.plainInt?, Sized.ofInt?_val]⟩
  | float =>
    cases w <;> cases h
    next x => exact ⟨x, rfl⟩
  | double =>
    cases w <;> cases h
    next x => exact ⟨x, rfl⟩
  | bool =>
    cases w <;> cases h
    next b => exact ⟨b, rfl⟩
  | string =>
    cases w <;> cases h
    next text => exact ⟨text, rfl⟩
  | _ => cases w <;> cases h

/-- A wrapped instance is a variable of no carrier that takes a value apart. -/
theorem extract_object (types : Registry) (hc : c.isDynamic = false) (ref : HostRef) :
    ∃ e, types.extract c (.object ref) = .error e := by
  induction c with
  | optional c ih =>
    obtain ⟨e, he⟩ := ih hc
    exact ⟨e, by simp only [Registry.extract, he]; rfl⟩
  | host => cases hc
  | script => cases hc
  | _ => exact ⟨_, rfl⟩

/-- The type of a scalar carrier is basic unless the carrier takes anything. -/
theorem hostType_isBasic (hscalar : c.isScalar) (hc : c.isDynamic = false) :
    c.hostType.isBasic := by
  induction c with
  | optional c ih => exact ih hscalar hc
  | list c => cases hscalar
  | host => cases hc
  | script => cases hc
  | _ => rfl

/-- A built-in type that is assignable to a basic type is that type. -/
theorem eq_of_isAssignable_builtin {T : TypeId} (hT : T.builtinName?.isSome) (ht : t.isBasic)
    (h : types.isAssignable T t) : t = T := by
  have hmem := (Registry.isAssignable_iff_mem_ancestry hT).1 h
  cases T with
  | declared index => cases hT
  | _ =>
    cases t <;> cases ht <;>
      simp_all [Registry.ancestry, Registry.ancestryWithin, Registry.base?, TypeId.rank]

/-- A value of a primitive kind has the type of that kind. -/
theorem basicType?_of_primitiveKind? {kind : PrimitiveKind} (h : w.primitiveKind? = some kind) :
    w.basicType? = some (.primitive kind) := by
  cases w <;> cases h <;> rfl

/-- What else than null, an instance or a constant is brought to a basic type is a value of it. -/
theorem basicType?_of_coerced (ht : t.isBasic) (hnull : natural ≠ .null)
    (hobject : ∀ ref, natural ≠ .object ref) (hconstant : ∀ type n, natural ≠ .constant type n)
    (h : Coerced types natural t w) : w.basicType? = some t := by
  cases h with
  | null => exact absurd rfl hnull
  | @kept _ _ T htype h =>
    cases natural with
    | undefined => cases htype
    | null => cases htype
    | object ref => exact absurd rfl (hobject ref)
    | constant type n => exact absurd rfl (hconstant type n)
    | _ =>
      -- the value has a built-in type, and that is the basic type
      cases htype
      obtain rfl := eq_of_isAssignable_builtin rfl ht h
      first
      | rfl
      | cases ht
  | primitive hnumber h =>
    exact basicType?_of_primitiveKind? (Registry.primitiveKind?_of_ofNumeric h)
  | constant henum => cases t <;> cases ht <;> cases henum
  | text => rfl

/-! ### Extraction of converted values -/

namespace Store

/-- Only `null` is converted to null. -/
theorem natural?_eq_null_iff : s.natural? types v = some .null ↔ v = .null := by
  constructor
  · intro h
    -- a scalar or an array; a number becomes an integer or a double
    obtain ⟨-, hnatural⟩ | ⟨-, -, items, -, -, -, hnatural⟩ := naturalWithin_cases h
    · cases v with
      | null => rfl
      | number x =>
        obtain hx | ⟨n, hx, -⟩ := naturalNumber_cases x <;> simp [naturalScalar, hx] at hnatural
      | object id =>
        simp only [naturalScalar] at hnatural
        split at hnatural <;> cases hnatural
      | _ => cases hnatural
    · cases hnatural
  · rintro rfl
    exact naturalWithin_of_scalar rfl _

/-- Only the wrapper of an object is converted to it. -/
theorem natural?_eq_object_iff {ref : HostRef} :
    s.natural? types v = some (.object ref) ↔ v.object?.bind s.hostTarget? = some ref := by
  constructor
  · intro h
    obtain ⟨-, hnatural⟩ | ⟨-, -, items, -, -, -, hnatural⟩ := naturalWithin_cases h
    · -- of all values only a wrapper becomes a host object
      cases v with
      | number x =>
        obtain hx | ⟨n, hx, -⟩ := naturalNumber_cases x <;> simp [naturalScalar, hx] at hnatural
      | object id =>
        simp only [naturalScalar] at hnatural
        split at hnatural
        · next target hsort =>
          cases hnatural
          exact hostTarget?_eq_some_iff.2 hsort
        · cases hnatural
        · cases hnatural
      | _ => cases hnatural
    · cases hnatural
  · intro h
    obtain ⟨id, hid, htarget⟩ := Option.bind_eq_some_iff.1 h
    cases v with
    | object id =>
      cases hid
      have hsort := hostTarget?_eq_some_iff.1 htarget
      -- a wrapper is no array, so no depth is used up
      have hscalar : s.arrayElements? (.object id) = none := by
        simp [arrayElements?, elements?, hsort]
      rw [natural?, naturalWithin_of_scalar hscalar]
      simp [naturalScalar, hsort]
    | _ => cases hid

end Store

/-- Where script or host values are declared, what is converted is taken as it is. -/
theorem extract_of_isDynamic (hc : c.isDynamic)
    (h : s.convertTo? types v c.hostType = some (.ok w)) : ∃ r, types.extract c w = .ok r := by
  induction c with
  | optional c ih => exact extract_optional (ih hc h)
  | host => exact ⟨w, rfl⟩
  | script =>
    have hw : w = .script v := by
      simpa [Store.convertTo?, Carrier.hostType] using h.symm
    exact ⟨v, by rw [hw]; rfl⟩
  | _ => cases hc

/-- A null that is converted is read as absent, but as no text. -/
theorem extract_null_iff (hscalar : c.isScalar) (hc : c.isDynamic = false)
    (hvalue : types.isValueType c.hostType = false) :
    (∃ r, types.extract c .null = .ok r) ↔ c ≠ .string := by
  cases c with
  | optional c => exact iff_of_true ⟨none, rfl⟩ (by simp)
  | string => exact iff_of_false (by rintro ⟨r, hr⟩; cases hr) (by simp)
  | list c => cases hscalar
  | host => cases hc
  | script => cases hc
  | _ => cases hvalue

/-- A value that is converted to the type that a carrier declares can be read as a variable of the
carrier, unless the carrier misses it. -/
theorem Carrier.extract_iff_of_convertTo (hscalar : c.isScalar)
    (h : s.convertTo? types v c.hostType = some (.ok w)) :
    (∃ r, types.extract c w = .ok r) ↔ ¬ c.Misses types s v := by
  cases hc : c.isDynamic with
  | true =>
    refine iff_of_true (extract_of_isDynamic hc h) ?_
    rintro (⟨-, rfl⟩ | ⟨hnot, -⟩)
    · cases hc
    · rw [hc] at hnot
      cases hnot
  | false =>
    have hbasic := hostType_isBasic hscalar hc
    have ht : c.hostType ≠ .scriptValue := by
      intro heq
      rw [heq] at hbasic
      cases hbasic
    obtain ⟨natural, hnatural, hcoerced⟩ := Store.coerced_of_convertTo ht h
    -- null, an object, or a value whose type is the one of the carrier
    by_cases hnull : natural = .null
    · subst hnull
      obtain rfl := Store.natural?_eq_null_iff.1 hnatural
      obtain ⟨rfl, hvalue⟩ := eq_null_of_coerced hcoerced
      rw [extract_null_iff hscalar hc hvalue]
      simp [Misses, ScriptValue.object?]
    · by_cases hobject : ∃ ref, natural = .object ref
      · obtain ⟨ref, rfl⟩ := hobject
        -- an instance is kept as it is where its type is assignable, and no such carrier reads one
        obtain ⟨rfl, hassignable⟩ := kept_of_coerced rfl (fun _ => rfl) rfl rfl hcoerced
        obtain ⟨e, he⟩ := extract_object types hc ref
        refine iff_of_false ?_ (not_not_intro (.inr ⟨hc, ref, ?_, hassignable⟩))
        · rintro ⟨r, hr⟩
          rw [he] at hr
          cases hr
        · exact Store.natural?_eq_object_iff.1 hnatural
      · have hconstant := Store.naturalWithin_ne_constant hnatural
        have hw : w.basicType? = some c.hostType :=
          basicType?_of_coerced hbasic hnull (fun ref h => hobject ⟨ref, h⟩) hconstant hcoerced
        refine iff_of_true (extract_of_basicType types hw) ?_
        rintro (⟨hv, -⟩ | ⟨-, ref, href, -⟩)
        · rw [Store.natural?_eq_null_iff.2 hv] at hnatural
          cases hnatural
          exact hnull rfl
        · rw [Store.natural?_eq_object_iff.2 href] at hnatural
          cases hnatural
          exact hobject ⟨ref, rfl⟩

/-- A text that is brought to the type that a carrier declares is a variable of the carrier. -/
theorem extract_of_coerced_string {text : String}
    (h : Coerced types (.string text) c.hostType w) : ∃ r, types.extract c w = .ok r := by
  have htarget := target_of_coerced_string h
  -- an optional carrier has the type of the one in it
  induction c with
  | optional c ih => exact extract_optional (ih h htarget)
  | host => exact ⟨w, rfl⟩
  | script => simp [Carrier.hostType] at htarget
  | list c => simp [Carrier.hostType] at htarget
  | _ =>
    have hw := basicType?_of_coerced rfl (by simp) (by simp) (by simp) h
    exact extract_of_basicType types hw

/-! ### Bodies that write -/

namespace Accessor

/-- A body that writes a variable of the carrier: a slot of an instance or a static variable. -/
inductive Stores (c : Carrier) : Setter → Prop where
  | slot (layout slot : String) : Stores c (slotSetter layout c slot)
  | static (key : StaticKey) : Stores c (staticSetter c key)

end Accessor

/-- The binding of a member with typed accessors: a field, a property or an indexer whose values are
variables of the carrier. -/
inductive Descriptor.Writes (c : Carrier) : Descriptor → Prop where
  | field {member : Field} {target set} (hset : member.set = some set)
      (hstores : Accessor.Stores c set) (htype : member.type = c.hostType) :
      Writes c (.field member target)
  | property {member : Property} {target shadow set} (hset : member.set = some set)
      (hstores : Accessor.Stores c set) (htype : member.type = c.hostType) :
      Writes c (.property member target shadow)
  | sharedProperty {member : Property} {target cell set} (hset : member.set = some set)
      (hstores : Accessor.Stores c set) (htype : member.type = c.hostType) :
      Writes c (.sharedProperty member target cell)
  /-- The keys are variables of a carrier of their own. -/
  | index {member : Indexer} {target key layout k}
      (hset : member.set = some (Accessor.elementSetter layout k c))
      (hkey : member.keyType = k.hostType) (hvalue : member.valueType = c.hostType) :
      Writes c (.index member target key)

namespace Action

variable {α : Type} {act : Action HostError α} {s' : Store} {e : ConversionError}

/-- To capture how an action ends and to end in the same way is the action. -/
theorem capture_rethrow {next : Except HostError α → Action HostError α}
    (hok : ∀ a, next (.ok a) = pure a) (herror : ∀ cause, next (.error cause) = throw cause) :
    act.capture >>= next = act := by
  funext s
  simp only [bind_apply, capture_apply]
  generalize act s = r
  obtain ⟨o, t⟩ := r
  -- a panic and an end without result are not captured
  cases o with
  | ok a => simp only [hok, pure_apply]
  | error cause => simp only [herror, throw]
  | panicked payload => rfl
  | exhausted => rfl

/-- A conversion error behind the call boundary is one of the body. -/
theorem of_guarded_conversion (h : Realm.guarded act s = (.error (.host (.conversion e)), s')) :
    act s = (.error (.conversion e), s') := by
  simp only [Realm.guarded, mapError, contained] at h
  generalize act s = r at h ⊢
  obtain ⟨o, t⟩ := r
  -- a panic that is contained is another error, never a conversion
  cases o with
  | ok a => cases h
  | error e' =>
    cases h
    rfl
  | panicked payload => cases h
  | exhausted => cases h

end Action

namespace Realm

variable {R : Realm} {ref : HostRef} {layout : String} {s' : Store} {e : ConversionError}

/-- An instance is refused for other reasons than a conversion. -/
theorem borrow_ne_conversion {mode : BorrowMode} :
    s.borrow types ref layout mode ≠ .error (.conversion e) := by
  unfold Store.borrow
  split
  · simp
  · split
    · simp
    · split <;> simp

/-- A change of an instance fails with a conversion error only if the change itself does. -/
theorem update_ne_conversion {change : Storage → Except HostError Storage}
    (hchange : ∀ storage, change storage ≠ .error (.conversion e)) :
    R.update ref layout change s ≠ (.error (.conversion e), s') := by
  intro h
  simp only [update, Action.bind_apply, Action.getStore] at h
  -- refused at the hold, or by the change itself
  cases hborrow : s.borrow R.types ref layout .exclusive with
  | error cause =>
    rw [hborrow] at h
    cases h
    exact borrow_ne_conversion hborrow
  | ok i =>
    cases hstorage : change i.storage with
    | error cause =>
      rw [hborrow] at h
      simp only [Action.ofExcept, Action.pure_apply, hstorage] at h
      cases h
      exact hchange _ hstorage
    | ok storage =>
      rw [hborrow] at h
      simp only [Action.ofExcept, Action.pure_apply, hstorage] at h
      cases h

/-- What a program extracts it goes on with. -/
theorem run_extract {y : Yield} (next : Except ConversionError c.Rep → Program y) :
    R.run (.ask (.extract c w) next) = R.run (next (R.types.extract c w)) := rfl

/-- A body that changes an instance and ends as the change does is the change. -/
theorem run_update {change : Storage → Except HostError Storage}
    {next : Except HostError Unit → Program .nothing} (hok : next (.ok ()) = .done ())
    (herror : ∀ cause, next (.error cause) = .fail cause) :
    R.run (.ask (.update ref layout change) next) = R.update ref layout change := by
  show (R.update ref layout change).capture >>= (fun r => R.run (next r)) = _
  refine Action.capture_rethrow (fun a => ?_) fun cause => ?_
  · rw [hok]
    rfl
  · rw [herror]
    rfl

/-- A body that writes a variable it can extract fails for other reasons than a conversion. -/
theorem run_stores_ne_conversion {set : Setter} {this : Option HostRef}
    (hstores : Accessor.Stores c set) (hextract : ∃ r, R.types.extract c w = .ok r) :
    R.run (set this w) s ≠ (.error (.conversion e), s') := by
  obtain ⟨r, hr⟩ := hextract
  cases hstores with
  | slot layout slot =>
    rw [Accessor.slotSetter, run_extract, hr]
    -- a slot needs an instance, which is missed with another error
    cases this with
    | none => simp [Program.withInstance, run, Action.throw, HostError.noInstance]
    | some ref =>
      simp only [Program.withInstance]
      rw [run_update rfl fun _ => rfl]
      exact update_ne_conversion fun storage => by simp
  | static key =>
    rw [Accessor.staticSetter, run_extract, hr]
    intro h
    cases h

/-- An assignment to a place never fails to convert. -/
theorem assign_ne_conversion {storage : Storage} {place : Accessor.Place} :
    Accessor.assign w storage place ≠ .error (.conversion e) := by
  unfold Accessor.assign
  repeat' split
  all_goals simp

/-- To find the place of a key takes no change of the store. -/
theorem exists_place {y : Yield} (R : Realm) (key : HostValue) (next : Accessor.Place → Program y)
    (s : Store) : ∃ place, R.run (Accessor.placeOf key next) s = R.run (next place) s := by
  unfold Accessor.placeOf
  split
  · exact ⟨_, rfl⟩
  · exact ⟨_, rfl⟩
  · exact ⟨.entry _, rfl⟩

/-- A setter of elements converts nothing after the key and the value. -/
theorem run_elementSetter_ne_conversion {k : Carrier} {key : HostValue}
    (hkey : ∃ r, R.types.extract k key = .ok r) (hextract : ∃ r, R.types.extract c w = .ok r) :
    R.run (Accessor.elementSetter layout k c ref key w) s ≠ (.error (.conversion e), s') := by
  obtain ⟨r, hr⟩ := hkey
  obtain ⟨x, hx⟩ := hextract
  rw [Accessor.elementSetter, run_extract, hr]
  simp only [run_extract, hx]
  intro h
  obtain ⟨place, hplace⟩ := R.exists_place (k.wrap r) _ s
  rw [hplace, run_update rfl fun _ => rfl] at h
  exact update_ne_conversion (fun storage => assign_ne_conversion) h

/-- A write to a property fails with a conversion error behind the call boundary only if its body
does so on the converted value. -/
theorem exists_run_of_writeProperty {member : Property} {target : Option HostRef}
    {shadow : Option ScriptValue} {set : Setter} (hset : member.set = some set)
    (h : R.writeProperty member target shadow v s = (.error (.host (.conversion e)), s')) :
    ∃ w u, R.convertTo v member.type s = (.ok w, u) ∧
      R.run (set target w) u = (.error (.conversion e), s') := by
  simp only [writeProperty, hset] at h
  -- a failed conversion hides the property and is no error, so the error is one of the setter
  obtain hrefused | ⟨result, u, hconvert, hnext⟩ := Action.bind_eq_error h
  · exact absurd (congrArg Prod.fst hrefused) (Action.capture_ne_error _ _ _)
  · cases result with
    | error cause => cases hnext
    | ok w =>
      obtain hbody | ⟨-, _, -, hdone⟩ := Action.bind_eq_error hnext
      · exact ⟨w, u, Action.capture_eq_ok hconvert, Action.of_guarded_conversion hbody⟩
      · cases hdone

/-- A write to a typed member fails with a conversion error behind the call boundary only if the
carrier misses the value. -/
theorem misses_of_write {d : Descriptor} (hscalar : c.isScalar) (hd : d.Writes c)
    (h : R.write d v s = (.error (.host (.conversion e)), s')) : c.Misses R.types s v := by
  by_contra hmiss
  -- whatever is converted can be extracted, so the error is none of the body that is entered
  have hextract {w : HostValue} {u : Store} (hconvert : R.convertTo v c.hostType s = (.ok w, u)) :
      ∃ r, R.types.extract c w = .ok r :=
    (Carrier.extract_iff_of_convertTo hscalar (convertTo_eq_ok hconvert).1).2 hmiss
  cases hd with
  | @field member target set hset hstores htype =>
    simp only [write, hset, htype] at h
    obtain hrefused | ⟨w, u, hconvert, hnext⟩ := Action.bind_eq_error h
    · obtain ⟨cause, -, hcause⟩ := Action.mapError_eq_error hrefused
      cases hcause
    · obtain hbody | ⟨-, _, -, hdone⟩ := Action.bind_eq_error hnext
      · exact run_stores_ne_conversion hstores (hextract (Action.mapError_eq_ok hconvert))
          (Action.of_guarded_conversion hbody)
      · cases hdone
  | @property member target shadow set hset hstores htype =>
    obtain hrefused | ⟨_, _, -, hdone⟩ := Action.bind_eq_error h
    · obtain ⟨w, u, hconvert, hbody⟩ := exists_run_of_writeProperty hset hrefused
      exact run_stores_ne_conversion hstores (hextract (htype ▸ hconvert)) hbody
    · cases hdone
  | @sharedProperty member target cell set hset hstores htype =>
    obtain hstore | ⟨s₁, _, hstore, hwrite⟩ := Action.bind_eq_error h
    · cases hstore
    · cases hstore
      obtain hrefused | ⟨_, _, -, hdone⟩ := Action.bind_eq_error hwrite
      · obtain ⟨w, u, hconvert, hbody⟩ := exists_run_of_writeProperty hset hrefused
        exact run_stores_ne_conversion hstores (hextract (htype ▸ hconvert)) hbody
      · cases hdone
  | @index member target key layout k hset hkey hvalue =>
    simp only [write, hset, hvalue] at h
    cases hindex : R.indexKey member key with
    | error cause =>
      rw [hindex] at h
      cases h
    | ok kv =>
      rw [hindex] at h
      simp only [Action.ofExcept_mapError_ok, pure_bind] at h
      have hcoerce : R.types.coerce (.string key) k.hostType = .ok kv := by
        rw [← hkey]
        exact hindex
      -- a key that was coerced from text can always be extracted
      have hextractKey := extract_of_coerced_string (Registry.coerced_of_coerce hcoerce)
      obtain hrefused | ⟨w, u, hconvert, hnext⟩ := Action.bind_eq_error h
      · obtain ⟨cause, -, hcause⟩ := Action.mapError_eq_error hrefused
        cases hcause
      · obtain hbody | ⟨-, _, -, hdone⟩ := Action.bind_eq_error hnext
        · exact run_elementSetter_ne_conversion hextractKey
            (hextract (Action.mapError_eq_ok hconvert)) (Action.of_guarded_conversion hbody)
        · cases hdone

/-- A value that is converted to the type that a scalar carrier declares is a variable of the
carrier unless the carrier misses it, and so is an argument that is passed to a parameter of that
type. So a write to a typed member of the carrier does not fail with a conversion error behind the
call boundary, other than for a value that the carrier misses. -/
theorem extracts_unless_missed (R : Realm) (c : Carrier) (hscalar : c.isScalar) (s : Store) :
    (∀ v w s', R.convertTo v c.hostType s = (.ok w, s') →
      ((∃ r, R.types.extract c w = .ok r) ↔ ¬ c.Misses R.types s v)) ∧
    (∀ params args values s', R.convertArguments 0 params args s = (.ok values, s') →
      ∀ (i : Nat) arg p, args[i]? = some arg → params[i]? = some p → p.type = c.hostType →
        ∃ w, values[i]? = some w ∧
          ((∃ r, R.types.extract c w = .ok r) ↔ ¬ c.Misses R.types s arg)) ∧
    ∀ d v, d.Writes c → ¬ c.Misses R.types s v →
      ∀ e s', R.write d v s ≠ (.error (.host (.conversion e)), s') := by
  refine ⟨fun v w s' h => ?_, fun params args values s' h i arg p harg hp htype => ?_,
    fun d v hd hmiss e s' h => ?_⟩
  · exact Carrier.extract_iff_of_convertTo hscalar (convertTo_eq_ok h).1
  · obtain ⟨-, hconverted⟩ := convertTo_of_convertArguments h
    obtain ⟨w, hw, hconvert⟩ := hconverted i arg p harg hp
    rw [htype] at hconvert
    exact ⟨w, hw, Carrier.extract_iff_of_convertTo hscalar hconvert⟩
  · -- a write that fails to convert in its body has missed
    exact hmiss (misses_of_write hscalar hd h)

/-- A bool at a static field of small integers: it is converted, extracted and written. -/
theorem extracted_bool :
    let R : Realm := Engine.realm ⟨.empty, .default, .byCost⟩ 0
    let c : Carrier := .integer .int8
    let key : StaticKey := (.object, "Total")
    let member : Field := .make "Total" c.hostType (Accessor.staticGetter c key)
      (some (Accessor.staticSetter c key))
    c.isScalar ∧ ¬ c.Misses R.types .initial (.boolean true) ∧
      R.convertTo (.boolean true) c.hostType .initial =
        (.ok (.integer .int8 ⟨1, by decide⟩), .initial) ∧
      (∃ r, R.types.extract c (.integer .int8 ⟨1, by decide⟩) = .ok r) ∧
      ∀ e s', R.write (.field member none) (.boolean true) .initial ≠
        (.error (.host (.conversion e)), s') := by
  intro R c key member
  have hconvert : R.convertTo (.boolean true) c.hostType .initial =
      (.ok (.integer .int8 ⟨1, by decide⟩), .initial) := rfl
  have hmiss : ¬ c.Misses R.types .initial (.boolean true) := by
    simp [Carrier.Misses, ScriptValue.object?]
  have hwrites : (Descriptor.field member none).Writes c := .field rfl (.static key) rfl
  -- the flag became the integer 1 by the conversion, which is no miss
  obtain ⟨hextract, -, hwrite⟩ := R.extracts_unless_missed c rfl .initial
  exact ⟨rfl, hmiss, hconvert, (hextract _ _ _ hconvert).2 hmiss, hwrite _ _ hwrites hmiss⟩

/-- Null is accepted where texts are declared, and an instance of a type that is declared with the
texts as its base is, too; but neither is a text, and a body that writes texts fails after the
conversion has succeeded. -/
theorem declared_text_without_text :
    let types := (Registry.empty.declare ((TypeEntry.make "Label" .reference).withBase .string)).2
    let R : Realm := Engine.realm ⟨types, .default, .byCost⟩ 0
    let ref : HostRef := ⟨.declared 0, 0⟩
    let wrapped := Store.initial.wrap types ref
    let key : StaticKey := (.object, "Title")
    let member : Field := .make "Title" .string (Accessor.staticGetter .string key)
      (some (Accessor.staticSetter .string key))
    let refused (source : String) : ConversionError := .incompatible source "string"
    R.convertTo .null .string .initial = (.ok .null, .initial) ∧
      R.types.extract .string .null = .error (refused "null") ∧
      R.convertTo wrapped.1 .string wrapped.2 = (.ok (.object ref), wrapped.2) ∧
      R.types.extract .string (.object ref) = .error (refused "Label") ∧
      (Descriptor.field member none).Writes .string ∧
      R.write (.field member none) .null .initial =
        (.error (.host (.conversion (refused "null"))), .initial) :=
  ⟨rfl, rfl, rfl, rfl, .field rfl (.static _) rfl, rfl⟩

end Realm

end Membrane
