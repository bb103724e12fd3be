import Membrane.Proofs.Extraction
import Membrane.Proofs.Rounding

/-!
# What a typed member gives is taken back

A host variable reaches a script by way of its host form and the script form of that. On the way
back the script form gets its natural host form, which forgets the kind of a number, and is coerced
to the type that the member declares, which brings the kind back: every number on this way is exact.
So what a script reads from a typed member can be written to it, and the variable stays as it is.

There is one exception. An absent optional variable is null to a script, and the type that an
optional carrier declares is that of the carrier inside: an absent bool or number is lost, because
null is no value of a value type (`Carrier.isLost`).

## Key results

- `coerce_naturalNumber_integer` and its siblings: a number comes back at its own type
- `Carrier.convertTo?_scriptForm`: the script form of a variable is converted to its host form
- `Realm.taken_back_unless_lost`: so a script can write to a typed field what it has read from it
-/

namespace Membrane

open Conversion

variable {types : Registry} {s : Store}

/-! ### Numbers on their way -/

/-- A value that does not stand at a primitive type as it is goes there by way of its number. -/
theorem coerce_numeric {v : HostValue} {kind : PrimitiveKind} {n : Numeric}
    (hkept : v.runtimeType?.any (types.isAssignable · (.primitive kind)) = false)
    (hnumber : numeric? v kind = some (.ok n)) :
    types.coerce v (.primitive kind) = ofNumeric kind n := by
  cases v with
  | undefined => cases hnumber
  | null => cases hnumber
  | _ => simp [Registry.coerce, hkept, hnumber, Registry.kind]

/-- A bool or number stands at no primitive type but its own. -/
theorem not_kept_of_ne {v : HostValue} {kind kind' : PrimitiveKind}
    (hkind : v.primitiveKind? = some kind') (hne : kind ≠ kind') :
    v.runtimeType?.any (types.isAssignable · (.primitive kind)) = false := by
  have hassignable : types.isAssignable (.primitive kind') (.primitive kind) = false :=
    types.isAssignable_eq_false_of_ne rfl rfl (by simpa using hne)
  rw [Registry.runtimeType?_of_primitiveKind? hkind, Option.any_some, hassignable]

/-- A number of another kind is brought to a primitive kind by way of its value. -/
theorem coerce_number {v : HostValue} {kind kind' : PrimitiveKind} {n : Numeric}
    (hkind : v.primitiveKind? = some kind') (hne : kind ≠ kind')
    (hnumber : numeric? v kind = some (.ok n)) :
    types.coerce v (.primitive kind) = ofNumeric kind n :=
  coerce_numeric (not_kept_of_ne hkind hne) hnumber

/-- An integer of a kind is not changed by narrowing to the kind. -/
theorem narrow_val {k : IntegerKind} (n : Sized k) : narrow k n.val = .ok (.integer k n) := by
  rw [narrow, Sized.ofInt?_val]

/-- Intermediate results reach beyond every kind. -/
theorem range_widest (k : IntegerKind) : widestLow < k.lowest ∧ k.highest < widestHigh := by
  have hpow : (1 <<< 127 : Nat) = 2 ^ 127 := Nat.one_shiftLeft 127
  simp only [widestLow, widestHigh, hpow]
  cases k <;> decide

/-- No integer of a kind is clamped. -/
theorem clamp_val {k : IntegerKind} (n : Sized k) : clamp n.val = n.val := by
  obtain ⟨hlow, hhigh⟩ := range_widest k
  obtain ⟨hn, hn'⟩ := n.inRange
  simp only [clamp]
  omega

/-- A number becomes the nearest integer, clamped and narrowed. -/
theorem ofNumeric_of_nearestInt? {k : IntegerKind} {x : Double} {n : Int}
    (h : x.nearestInt? = some n) : ofNumeric (.integer k) (.real x) = narrow k (clamp n) := by
  simp only [ofNumeric, h]

/-- An integer that fits a double comes back at its own kind. -/
theorem coerce_naturalNumber_integer {k : IntegerKind} (n : Sized k)
    (hn : FloatFormat.double.Holds n.val) :
    types.coerce (naturalNumber (.ofInt n.val)) (.integer k) = .ok (.integer k n) := by
  obtain ⟨hwhole, -⟩ := Binary.whole?_ofInt (F := .double) (by decide) (by decide) (by decide) hn
  obtain hnatural | ⟨m, hnatural, hm, -⟩ := naturalNumber_cases (.ofInt n.val)
  · -- beyond `int` the number stays a double, and is rounded to the integer that it is
    rw [hnatural, coerce_number rfl (by simp) rfl,
      ofNumeric_of_nearestInt? (Binary.nearestInt?_of_whole? hwhole), clamp_val, narrow_val]
  · have hval : m.val = n.val := by
      rw [hwhole] at hm
      exact (Option.some.inj hm).symm
    rw [hnatural]
    -- an `int` stays as it is, and the other kinds are narrowed from it
    by_cases hk : k = .int32
    · subst hk
      rw [Registry.coerce_of_isAssignable rfl (types.isAssignable_self _), Sized.ext_val hval]
    · have hkind : PrimitiveKind.integer k ≠ .integer .int32 := by simpa using hk
      rw [coerce_number rfl hkind rfl, ofNumeric, hval, narrow_val]

/-- A single number comes back from the double that a script sees. -/
theorem coerce_naturalNumber_float (x : Single) :
    types.coerce (naturalNumber (x.convert .double)) (.primitive .float) = .ok (.float x) := by
  have hwidens := FloatFormat.single_widens_double
  -- the widened value returns as a double, or as the integer that it is
  obtain hnatural | ⟨n, hnatural, hwhole, hzero⟩ := naturalNumber_cases (x.convert .double)
  · rw [hnatural, coerce_number rfl (by simp) rfl]
    simp only [ofNumeric, Binary.tooLargeFor_convert hwidens, Bool.false_eq_true, if_false,
      Binary.convert_convert hwidens]
  · rw [Binary.whole?_convert hwidens] at hwhole
    rw [Binary.isNegativeZero_convert hwidens] at hzero
    rw [hnatural, coerce_number rfl (by simp) rfl, ofNumeric,
      Binary.ofInt_of_whole? (by decide) hwhole hzero]

/-- A double that was shown to the script is taken back. -/
theorem coerce_naturalNumber_double (x : Double) :
    types.coerce (naturalNumber x) (.primitive .double) = .ok (.double x) := by
  -- as a double, or as the integer that it is, but never from the negative zero
  obtain hnatural | ⟨n, hnatural, hwhole, hzero⟩ := naturalNumber_cases x
  · rw [hnatural, Registry.coerce_of_isAssignable rfl (types.isAssignable_self _)]
  · rw [hnatural, coerce_number rfl (by simp) rfl, ofNumeric,
      Binary.ofInt_of_whole? (by decide) hwhole hzero]

/-! ### Variables on their way -/

/-- What is no array is converted to a type by way of its natural host form. -/
theorem Store.convertTo?_of_scalar {v : ScriptValue} {t : TypeId} (h : s.arrayElements? v = none)
    (ht : t ≠ .scriptValue) :
    s.convertTo? types v t = some (types.coerce (s.naturalScalar v) t) := by
  have hbeq : (t == .scriptValue) = false := beq_eq_false_iff_ne.2 ht
  simp only [convertTo?, hbeq, Bool.false_eq_true, if_false, natural?, naturalWithin_of_scalar h,
    Option.map_some]

namespace Carrier

/-- The variables are bools, numbers or texts. -/
def isBasic : Carrier → Bool
  | .integer _ | .float | .double | .bool | .string => true
  | _ => false

/-- The variables are bools, numbers or texts, which may be optional, or script values. -/
def isPlain : Carrier → Bool
  | .optional c => c.isBasic
  | .script => true
  | c => c.isBasic

/-- A double can tell the variable from all others: of integers of 64 bits, those that doubles
hold. -/
def isExact : (c : Carrier) → c.Rep → Bool
  | .integer .int64, n | .integer .uint64, n => FloatFormat.double.Holds n.val
  | .optional c, some r => isExact c r
  | _, _ => true

/-- The variable is an absent bool or number: null to a script, and null is no value of the type
that the carrier declares. -/
def isLost : (c : Carrier) → c.Rep → Bool
  | .optional .string, none => false
  | .optional _, none => true
  | _, _ => false

/-- How a script sees a variable that is no list, host value or optional script value. -/
def scriptForm : (c : Carrier) → c.Rep → ScriptValue
  | .integer _, n => .number (.ofInt n.val)
  | .float, x => .number (x.convert .double)
  | .double, x => .number x
  | .bool, b => .boolean b
  | .string, text => .string text
  | .script, v => v
  | .optional c, some r => scriptForm c r
  | .optional _, none => .null
  | .host, _ | .list _, _ => .undefined

variable {c : Carrier}

/-- A plain carrier is a basic one, optional or not, or that of script values. -/
theorem plain_cases (hc : c.isPlain) :
    c.isBasic ∨ c = .script ∨ ∃ inner : Carrier, inner.isBasic ∧ c = .optional inner := by
  cases c with
  | optional inner => exact .inr (.inr ⟨inner, hc, rfl⟩)
  | script => exact .inr (.inl rfl)
  | host => cases hc
  | list => cases hc
  | _ => exact .inl rfl

/-- An exact integer is one that doubles hold. -/
theorem holds_of_isExact {k : IntegerKind} {n : Sized k} (h : (Carrier.integer k).isExact n) :
    FloatFormat.double.Holds n.val := by
  obtain ⟨i, hlow, hhigh⟩ := n
  cases k with
  | int64 => simpa [isExact] using h
  | uint64 => simpa [isExact] using h
  | _ =>
    -- the other kinds are narrower
    simp only [IntegerKind.lowest, IntegerKind.highest] at hlow hhigh
    show i.natAbs ≤ 9007199254740992
    omega

/-- A basic value is shown to the script without a new object. -/
theorem fromHost_wrap_of_isBasic (hc : c.isBasic) (r : c.Rep) (s : Store) :
    s.fromHost types (c.wrap r) = (c.scriptForm r, s) := by
  cases c with
  | integer k => rfl
  | float => rfl
  | double => rfl
  | bool => rfl
  | string => rfl
  | _ => cases hc

/-- The script form of a variable is that of its host form, and nothing new is made for it. -/
theorem fromHost_wrap (hc : c.isPlain) (r : c.Rep) (s : Store) :
    s.fromHost types (c.wrap r) = (c.scriptForm r, s) := by
  obtain hbasic | rfl | ⟨inner, hinner, rfl⟩ := plain_cases hc
  · exact fromHost_wrap_of_isBasic hbasic r s
  · rfl
  · cases r with
    | none => rfl
    | some r => exact fromHost_wrap_of_isBasic hinner r s

/-- A basic value is extracted as it was wrapped, present in an option or by itself. -/
theorem extract_wrap_of_isBasic (hc : c.isBasic) (r : c.Rep) :
    types.extract c (c.wrap r) = .ok r ∧
      types.extract (.optional c) (c.wrap r) = .ok (some r) := by
  cases c with
  | integer k =>
    have hextract : types.extract (.integer k) (.integer k r) = .ok r := by
      simp [Registry.extract, Registry.plainInt?, Sized.ofInt?_val]
    -- an option is extracted by its content unless it is null
    have hoptional : types.extract (.optional (.integer k)) (.integer k r) =
        (types.extract (.integer k) (.integer k r)).map some := rfl
    exact ⟨hextract, by rw [wrap, hoptional, hextract]; rfl⟩
  | float => exact ⟨rfl, rfl⟩
  | double => exact ⟨rfl, rfl⟩
  | bool => exact ⟨rfl, rfl⟩
  | string => exact ⟨rfl, rfl⟩
  | _ => cases hc

/-- A variable can be extracted from its host form. -/
theorem extract_wrap (hc : c.isPlain) (r : c.Rep) : types.extract c (c.wrap r) = .ok r := by
  obtain hbasic | rfl | ⟨inner, hinner, rfl⟩ := plain_cases hc
  · exact (extract_wrap_of_isBasic hbasic r).1
  · rfl
  · cases r with
    | none => rfl
    | some r => exact (extract_wrap_of_isBasic hinner r).2

/-- The script form of a bool, number or text is converted to its host form. -/
theorem convertTo?_of_isBasic (hc : c.isBasic) {r : c.Rep} (hexact : c.isExact r) :
    s.convertTo? types (c.scriptForm r) c.hostType = some (.ok (c.wrap r)) := by
  have hself (t : TypeId) := types.isAssignable_self t
  -- numbers return by their natural value, flags and texts by their own type
  cases c with
  | integer k =>
    rw [Store.convertTo?_of_scalar rfl (by simp [hostType])]
    exact congrArg some (coerce_naturalNumber_integer r (holds_of_isExact hexact))
  | float =>
    rw [Store.convertTo?_of_scalar rfl (by simp [hostType])]
    exact congrArg some (coerce_naturalNumber_float r)
  | double =>
    rw [Store.convertTo?_of_scalar rfl (by simp [hostType])]
    exact congrArg some (coerce_naturalNumber_double r)
  | bool =>
    rw [Store.convertTo?_of_scalar rfl (by simp [hostType])]
    exact congrArg some (Registry.coerce_of_isAssignable rfl (hself _))
  | string =>
    rw [Store.convertTo?_of_scalar rfl (by simp [hostType])]
    exact congrArg some (Registry.coerce_of_isAssignable rfl (hself _))
  | _ => cases hc

/-- The refusal of null at the type that a carrier declares. -/
def nullRefusal (c : Carrier) (types : Registry) : ConversionError :=
  .incompatible "null" (types.name c.hostType)

/-- The script form of a variable is converted to its host form, or refused if it is lost. -/
theorem convertTo?_scriptForm (hc : c.isPlain) {r : c.Rep} (hexact : c.isExact r) :
    s.convertTo? types (c.scriptForm r) c.hostType =
      some (if c.isLost r then .error (c.nullRefusal types) else .ok (c.wrap r)) := by
  obtain hbasic | rfl | ⟨inner, hinner, rfl⟩ := plain_cases hc
  · have hkept : c.isLost r = false := by
      cases c with
      | optional => cases hbasic
      | _ => rfl
    rw [convertTo?_of_isBasic hbasic hexact, hkept]
    rfl
  · rfl
  · cases r with
    | none =>
      have hscript : (Carrier.optional inner).hostType ≠ .scriptValue := by
        cases inner <;> simp_all [hostType, isBasic]
      rw [scriptForm, Store.convertTo?_of_scalar rfl hscript]
      -- of the basic types only that of texts is no value type
      cases inner with
      | host => cases hinner
      | script => cases hinner
      | optional => cases hinner
      | list => cases hinner
      | _ => rfl
    | some r =>
      have hkept : (Carrier.optional inner).isLost (some r) = false := by cases inner <;> rfl
      rw [hkept]
      exact convertTo?_of_isBasic hinner hexact

end Carrier

/-! ### Typed variables -/

/-- A host variable that a typed member reads and writes: a slot of an instance of some layout, or a
static variable. -/
inductive HostVariable where
  | slot (ref : HostRef) (layout name : String)
  | static (key : StaticKey)

namespace HostVariable

/-- The instance that a member of the variable is bound to. -/
def target : HostVariable → Option HostRef
  | .slot ref .. => some ref
  | .static _ => none

/-- The getter of the variable. -/
def getter (c : Carrier) : HostVariable → Getter
  | .slot _ layout name => Accessor.slotGetter layout c name
  | .static key => Accessor.staticGetter c key

/-- The setter of the variable. -/
def setter (c : Carrier) : HostVariable → Setter
  | .slot _ layout name => Accessor.slotSetter layout c name
  | .static key => Accessor.staticSetter c key

/-- What was last put into the variable, if anything was. -/
def content? (s : Store) : HostVariable → Option HostValue
  | .slot ref _ name => s.instances[ref.id]?.bind (·.storage.slots.find? name)
  | .static key => s.readStatic key

/-- What the variable holds: the default of the carrier if it was never set. -/
def value (var : HostVariable) (types : Registry) (c : Carrier) (s : Store) :
    Except ConversionError c.Rep :=
  match var.content? s with
  | some v => types.extract c v
  | none => .ok c.default

/-- A call may write the variable: no other call holds its instance, which has the right layout. -/
def IsFree (types : Registry) (s : Store) : HostVariable → Prop
  | .slot ref layout _ => ∃ i, s.borrow types ref layout .exclusive = .ok i
  | .static _ => True

end HostVariable

/-- The field reads and writes the variable. -/
structure Field.Accesses (member : Field) (c : Carrier) (var : HostVariable) : Prop where
  get : member.get = var.getter c
  set : member.set = some (var.setter c)
  type : member.type = c.hostType

namespace Store

variable {ref : HostRef} {layout : String} {i : Instance}

/-- An instance that one call may hold alone may be shared as well. -/
theorem borrow_shared (h : s.borrow types ref layout .exclusive = .ok i) :
    s.borrow types ref layout .shared = .ok i ∧ s.instances[ref.id]? = some i := by
  unfold borrow at h ⊢
  cases hi : s.instances[ref.id]? with
  | none => simp [hi] at h
  | some j =>
    simp only [hi] at h ⊢
    split at h
    · cases h
    · next hadmits =>
      split at h
      · cases h
      · next hlayout =>
        -- what may be held exclusively is not held at all
        have hshared : j.borrow.admits .shared = true := by
          simp_all [BorrowState.admits]
        simp_all

/-- A static that was written is read. -/
theorem readStatic_writeStatic (key : StaticKey) (v : HostValue) :
    (s.writeStatic key v).readStatic key = some v := by
  simp [readStatic, writeStatic]

end Store

namespace Realm

variable {R : Realm} {c : Carrier} {var : HostVariable} {r : c.Rep}

/-- What a variable holds is extracted and wrapped again; one without content has the default. -/
theorem run_rereadOr {content : Option HostValue}
    (h : (match content with
      | some v => R.types.extract c v
      | none => .ok c.default) = .ok r) :
    R.run (.rereadOr c content) s = (.ok (c.wrap r), s) := by
  cases content with
  | none =>
    cases h
    rfl
  | some v =>
    have hextract : R.types.extract c v = .ok r := h
    rw [Program.rereadOr, Program.reread, run_extract, hextract]
    rfl

/-- A getter gives the host form of its variable. -/
theorem run_getter (hfree : var.IsFree R.types s) (hvalue : var.value R.types c s = .ok r) :
    R.run (var.getter c var.target) s = (.ok (c.wrap r), s) := by
  -- a slot is read from its instance, which nobody else holds; a static from the store
  cases var with
  | slot ref layout name =>
    obtain ⟨i, hi⟩ := hfree
    obtain ⟨hshared, hinstance⟩ := Store.borrow_shared hi
    have hpeek : R.run (HostVariable.getter c (.slot ref layout name) (some ref)) s =
        R.run (.rereadOr c (i.storage.slots.find? name)) s := by
      simp only [HostVariable.getter, Accessor.slotGetter, Program.withInstance, run, answer, peek,
        Action.bind_apply, Action.capture_apply, Action.getStore, hshared, Action.ofExcept,
        Action.pure_apply]
    refine hpeek.trans (run_rereadOr ?_)
    simpa only [HostVariable.value, HostVariable.content?, hinstance, Option.bind_some] using hvalue
  | static key => exact run_rereadOr hvalue

/-- A setter puts the host form of a variable into it. -/
theorem run_setter (hc : c.isPlain) (hfree : var.IsFree R.types s) (r : c.Rep) :
    ∃ s', R.run (var.setter c var.target (c.wrap r)) s = (.ok (), s') ∧
      var.value R.types c s' = .ok r := by
  have hextract : R.types.extract c (c.wrap r) = .ok r := Carrier.extract_wrap hc r
  -- the slot replaces its content in the instance, the static in the store
  cases var with
  | slot ref layout name =>
    obtain ⟨i, hi⟩ := hfree
    obtain ⟨-, hinstance⟩ := Store.borrow_shared hi
    refine ⟨s.modifyInstance ref.id fun j => { j with
      storage := { i.storage with slots := i.storage.slots.insert name (c.wrap r) } }, ?_, ?_⟩
    · show R.run (Accessor.slotSetter layout c name (some ref) (c.wrap r)) s = _
      rw [Accessor.slotSetter, run_extract, hextract]
      simp only [Program.withInstance]
      rw [run_update rfl fun _ => rfl]
      simp only [update, Action.bind_apply, Action.getStore, hi, Action.ofExcept,
        Action.pure_apply, Action.modify]
    · simp only [HostVariable.value, HostVariable.content?, Store.modifyInstance,
        Array.getElem?_modify, if_true, hinstance, Option.map_some, Option.bind_some,
        TextMap.find?_insert_self, hextract]
  | static key =>
    refine ⟨s.writeStatic key (c.wrap r), ?_, ?_⟩
    · show R.run (Accessor.staticSetter c key none (c.wrap r)) s = _
      rw [Accessor.staticSetter, run_extract, hextract]
      rfl
    · simp only [HostVariable.value, HostVariable.content?, Store.readStatic_writeStatic, hextract]

/-- What is read from a typed field is the script form of the variable. -/
theorem read_field {member : Field} (hc : c.isPlain) (hmember : member.Accesses c var)
    (hfree : var.IsFree R.types s) (hvalue : var.value R.types c s = .ok r) :
    R.read (.field member var.target) s = (.ok (c.scriptForm r), s) := by
  have hget := run_getter hfree hvalue
  simp only [read, hmember.get, Action.bind_apply, guarded, Action.mapError, Action.contained, hget,
    fromHost, Action.state, Carrier.fromHost_wrap hc]

/-- The script form of a variable is written, or refused if it is lost. -/
theorem write_field {member : Field} (hc : c.isPlain) (hexact : c.isExact r)
    (hmember : member.Accesses c var) (hfree : var.IsFree R.types s) :
    if c.isLost r then
      R.write (.field member var.target) (c.scriptForm r) s =
        (.error (.conversion (c.nullRefusal R.types)), s)
    else
      ∃ s', R.write (.field member var.target) (c.scriptForm r) s =
          (.ok (.field member var.target), s') ∧ var.value R.types c s' = .ok r := by
  have hconvert : s.convertTo? R.types (c.scriptForm r) c.hostType =
      some (if c.isLost r then .error (c.nullRefusal R.types) else .ok (c.wrap r)) :=
    Carrier.convertTo?_scriptForm hc hexact
  split
  · next hlost =>
    -- refused before the setter is entered, so the store stays as it is
    rw [if_pos hlost] at hconvert
    simp only [write, hmember.set, hmember.type, convertTo, Action.bind_apply, Action.mapError,
      Action.getStore, hconvert, Action.ofOption, Action.ofExcept, Action.pure_apply, Action.throw]
  · next hkept =>
    rw [if_neg hkept] at hconvert
    obtain ⟨s', hset, hvalue⟩ := run_setter (R := R) hc hfree r
    refine ⟨s', ?_, hvalue⟩
    simp only [write, hmember.set, hmember.type, convertTo, Action.bind_apply, Action.mapError,
      Action.getStore, hconvert, Action.ofOption, Action.ofExcept, Action.pure_apply, guarded,
      Action.contained, hset]

/-- The script form of a variable is converted to a value of which the variable can be extracted
again, unless it is lost. So a script can write to a typed field what it has read from it, and the
variable stays as it is; only the null of a lost variable is refused. -/
theorem taken_back_unless_lost (R : Realm) (c : Carrier) (hc : c.isPlain) (r : c.Rep)
    (hexact : c.isExact r) (s : Store) :
    (∃ v, s.fromHost R.types (c.wrap r) = (v, s) ∧ ∀ t : Store,
      if c.isLost r then
        t.convertTo? R.types v c.hostType = some (.error (c.nullRefusal R.types))
      else
        ∃ w, t.convertTo? R.types v c.hostType = some (.ok w) ∧ R.types.extract c w = .ok r) ∧
    ∀ (member : Field) (var : HostVariable), member.Accesses c var → var.IsFree R.types s →
      var.value R.types c s = .ok r →
      ∃ v, R.read (.field member var.target) s = (.ok v, s) ∧
        if c.isLost r then
          R.write (.field member var.target) v s =
            (.error (.conversion (c.nullRefusal R.types)), s)
        else
          ∃ s', R.write (.field member var.target) v s = (.ok (.field member var.target), s') ∧
            var.value R.types c s' = .ok r := by
  refine ⟨⟨c.scriptForm r, Carrier.fromHost_wrap hc r s, fun t => ?_⟩,
    fun member var hmember hfree hvalue => ?_⟩
  · have hconvert : t.convertTo? R.types (c.scriptForm r) c.hostType =
        some (if c.isLost r then .error (c.nullRefusal R.types) else .ok (c.wrap r)) :=
      Carrier.convertTo?_scriptForm hc hexact
    -- an absent integer is refused when it is written, everything else comes back
    split
    · next hlost => rw [hconvert, if_pos hlost]
    · next hkept =>
      exact ⟨c.wrap r, by rw [hconvert, if_neg hkept], Carrier.extract_wrap hc r⟩
  · exact ⟨c.scriptForm r, read_field hc hmember hfree hvalue,
      write_field hc hexact hmember hfree⟩

/-- The greatest integer up to which every integer is a double is read and written back. -/
theorem taken_back_large_integer :
    let R : Realm := Engine.realm ⟨.empty, .default, .byCost⟩ 0
    let c : Carrier := .integer .int64
    let var : HostVariable := .static (.object, "Total")
    let r : Sized .int64 := ⟨9007199254740992, by decide⟩
    let s := Store.initial.writeStatic (.object, "Total") (.integer .int64 r)
    let member : Field := .make "Total" c.hostType (var.getter c) (some (var.setter c))
    c.isPlain ∧ c.isExact r ∧ member.Accesses c var ∧ var.IsFree R.types s ∧
      var.value R.types c s = .ok r ∧
      ∃ v s', R.read (.field member none) s = (.ok v, s) ∧
        R.write (.field member none) v s = (.ok (.field member none), s') ∧
        var.value R.types c s' = .ok r := by
  intro R c var r s member
  have hmember : member.Accesses c var := ⟨rfl, rfl, rfl⟩
  -- the integer is the largest one up to which doubles hold all
  obtain ⟨-, hfield⟩ := R.taken_back_unless_lost c rfl r rfl s
  obtain ⟨v, hread, s', hwrite⟩ := hfield member var hmember trivial rfl
  exact ⟨rfl, rfl, hmember, trivial, rfl, v, s', hread, hwrite⟩

/-- A field of optional integers that was never set reads as null and refuses it. -/
theorem absent_integer_refused :
    let R : Realm := Engine.realm ⟨.empty, .default, .byCost⟩ 0
    let c : Carrier := .optional (.integer .int32)
    let var : HostVariable := .static (.object, "Limit")
    let member : Field := .make "Limit" c.hostType (var.getter c) (some (var.setter c))
    let refusal : ConversionError := .incompatible "null" "int"
    Store.initial.fromHost R.types (c.wrap none) = (.null, .initial) ∧
      R.types.extract c .null = .ok none ∧
      R.convertTo .null c.hostType .initial = (.error refusal, .initial) ∧
      member.Accesses c var ∧ var.IsFree R.types .initial ∧
      var.value R.types c .initial = .ok none ∧
      R.read (.field member none) .initial = (.ok .null, .initial) ∧
      R.write (.field member none) .null .initial = (.error (.conversion refusal), .initial) :=
  ⟨rfl, rfl, rfl, ⟨rfl, rfl, rfl⟩, trivial, rfl, rfl, rfl⟩

end Realm

end Membrane
