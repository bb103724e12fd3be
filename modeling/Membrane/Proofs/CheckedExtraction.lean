import Membrane.Proofs.TwiceRounded

/-!
# Checks on the way to a variable

A number gets to a host variable by two ways: a coercion brings a value to the declared type, and the
extraction reads the variable out of it. What the extraction reads is what the coercion gives, and what
the coercion refuses because it is out of range is refused by the extraction as well: for all integer
variables and for 64-bit floating ones.

A 32-bit variable is read by way of a 64-bit number, and the second step is not checked. So a number
beyond the largest one of the 32-bit format is not refused but becomes that number or an infinity
(`HostValue.beyondSingle`), and an integer that slips across the middle between two neighbours goes to
the farther one (`HostValue.slipsToSingle`).

## Key results

- `Registry.convert_ofInt_single_iff`: when both ways round an integer alike
- `Registry.coerce_of_extract_iff`: what is read is what a coercion gives
- `Registry.extract_of_overflow_iff`: what is refused as out of range is not read
- `Registry.extraction_checked_unless_single`: both together
-/

namespace Membrane

open Conversion

/-- A carrier of integers or of floating numbers. -/
def Carrier.isNumber : Carrier → Bool
  | .integer _ | .float | .double => true
  | _ => false

namespace HostValue

/-- A 64-bit number beyond the largest finite 32-bit one. -/
def beyondSingle : HostValue → Bool
  | .double x => x.tooLargeFor .single
  | _ => false

/-- An integer that is rounded to 53 bits into the middle between two numbers of 24 bits, away from
the nearer of them. -/
def slipsToSingle : HostValue → Prop
  | .integer _ n => SlipsAcross FloatFormat.single.precision FloatFormat.double.precision n.val.natAbs
  | _ => False

/-- It can be told from the value alone. -/
instance (v : HostValue) : Decidable v.slipsToSingle := by
  cases v <;> unfold slipsToSingle <;> infer_instance

end HostValue

namespace Registry

variable {types : Registry} {v : HostValue} {c : Carrier} {k k' : IntegerKind}

/-! ### Integer variables -/

/-- What counts as a whole number is an integer of some kind. -/
theorem exists_of_plainInt? {n : ℤ} (h : plainInt? v = some n) :
    ∃ k, ∃ m : Sized k, v = .integer k m ∧ m.val = n := by
  cases v with
  | integer k m => exact ⟨k, m, rfl, Option.some.inj h⟩
  | _ => cases h

/-- An integer is brought to an integer kind if it is in its range. -/
theorem coerce_integer_integer (n : Sized k') :
    types.coerce (.integer k' n) (.integer k) = narrow k n.val := by
  by_cases hk : k = k'
  · subst hk
    rw [coerce_of_isAssignable rfl (types.isAssignable_self _), narrow_val]
  · have hkind : PrimitiveKind.integer k ≠ .integer k' := by simpa using hk
    rw [coerce_number rfl hkind rfl, ofNumeric]

/-- What an integer carrier takes, coercion narrows to the same number. -/
theorem coerce_of_extract_integer {m : Sized k} (h : types.extract (.integer k) v = .ok m) :
    types.coerce v (.integer k) = .ok (.integer k m) := by
  unfold extract at h
  split at h
  · next n hn =>
    -- a value of another kind is taken where its number fits, and narrowing is then the identity
    obtain ⟨k', n', rfl, rfl⟩ := exists_of_plainInt? hn
    split at h
    · next m' hm =>
      cases h
      rw [coerce_integer_integer, ← Sized.ofInt?_eq_some_iff.1 hm, narrow_val]
    · cases h
  · cases h

/-! ### Floating variables -/

/-- What counts as a double is one, or a number of another kind that is made one. -/
theorem cases_of_plainDouble? {x : Double} (h : plainDouble? v = some x) :
    v = .double x ∨ (∃ y, v = .float y ∧ y.convert .double = x) ∨
      ∃ k, ∃ m : Sized k, v = .integer k m ∧ .ofInt m.val = x := by
  cases v with
  | double y => exact .inl (by rw [Option.some.inj h])
  | float y => exact .inr (.inl ⟨y, rfl, Option.some.inj h⟩)
  | integer k m => exact .inr (.inr ⟨k, m, rfl, Option.some.inj h⟩)
  | _ => cases h

/-- An integer is rounded to a single at once, however large it is. -/
theorem coerce_integer_float (n : Sized k) :
    types.coerce (.integer k n) (.primitive .float) = .ok (.float (.ofInt n.val)) := by
  rw [coerce_number rfl (by simp) rfl, ofNumeric]

/-- A double is rounded to a single unless it is too large for one. -/
theorem coerce_double_float (x : Double) :
    types.coerce (.double x) (.primitive .float) =
      if x.tooLargeFor .single then .error (.overflow (x.text .plain) PrimitiveKind.float.name)
      else .ok (.float (x.convert .single)) := by
  rw [coerce_number rfl (by simp) rfl, ofNumeric]

/-- What the double carrier takes, coercion turns into the same double. -/
theorem coerce_of_extract_double {x : Double} (h : types.extract .double v = .ok x) :
    types.coerce v (.primitive .double) = .ok (.double x) := by
  unfold extract at h
  split at h
  · next y hy =>
    cases h
    obtain rfl | ⟨y, rfl, rfl⟩ | ⟨k, m, rfl, rfl⟩ := cases_of_plainDouble? hy
    · exact coerce_of_isAssignable rfl (types.isAssignable_self _)
    · rw [coerce_number rfl (by simp) rfl, ofNumeric]
    · rw [coerce_number rfl (by simp) rfl, ofNumeric]
  · cases h

/-- An integer is rounded on both ways to one 32-bit number unless it slips. -/
theorem convert_ofInt_single_iff (n : Sized k) :
    (Binary.ofInt n.val : Double).convert .single = .ofInt n.val ↔
      ¬ (HostValue.integer k n).slipsToSingle := by
  have hn : n.val.natAbs ≤ 2 ^ 64 := by
    obtain ⟨i, hlow, hhigh⟩ := n
    cases k <;> simp only [IntegerKind.lowest, IntegerKind.highest] at hlow hhigh ⊢ <;> omega
  exact Binary.convert_ofInt_eq_iff (by decide) (by decide) (by decide) (by decide) hn (by decide)
    (by decide)

/-- A 64-bit number is rounded to a 32-bit variable, however large it is. -/
theorem extract_float_double (x : Double) :
    types.extract .float (.double x) = .ok (x.convert .single) := rfl

/-- An integer is read as a 32-bit variable by way of a 64-bit number. -/
theorem extract_float_integer (n : Sized k) :
    types.extract .float (.integer k n) = .ok ((Binary.ofInt n.val : Double).convert .single) := rfl

/-- What is read as a 32-bit variable is what a coercion gives, unless the number is too large or
slips. -/
theorem coerce_of_extract_float_iff :
    (∀ x, types.extract .float v = .ok x → types.coerce v (.primitive .float) = .ok (.float x)) ↔
      ¬ (v.beyondSingle ∨ v.slipsToSingle) := by
  cases v with
  | float y =>
    refine iff_of_true (fun x hx => ?_) (by simp [HostValue.beyondSingle, HostValue.slipsToSingle])
    cases hx
    exact coerce_of_isAssignable rfl (types.isAssignable_self _)
  | double y =>
    rw [coerce_double_float, extract_float_double]
    cases hlarge : y.tooLargeFor .single <;>
      simp [HostValue.beyondSingle, HostValue.slipsToSingle, hlarge]
  | integer k n =>
    rw [coerce_integer_float, extract_float_integer]
    have hsingle := convert_ofInt_single_iff n
    simp only [HostValue.beyondSingle, Bool.false_eq_true, false_or, ← hsingle]
    constructor
    · intro h
      have hsame := h _ rfl
      injection hsame with hsame
      injection hsame with hsame
      exact hsame.symm
    · rintro h x hx
      cases hx
      rw [h]
  | _ =>
    -- nothing else is read as a 32-bit variable
    refine iff_of_true (fun x hx => ?_) (by simp [HostValue.beyondSingle, HostValue.slipsToSingle])
    cases hx

/-- What a coercion to the 32-bit type refuses as out of range is no variable, unless it is a 64-bit
number. -/
theorem extract_float_of_overflow_iff :
    (∀ text target, types.coerce v (.primitive .float) = .error (.overflow text target) →
        ∃ e, types.extract .float v = .error e) ↔ ¬ v.beyondSingle := by
  cases v with
  -- a single is kept, a double can overflow, an integer never does, and the rest has no number
  | float y =>
    have hkept : types.coerce (.float y) (.primitive .float) = .ok (.float y) :=
      coerce_of_isAssignable rfl (types.isAssignable_self _)
    simp [hkept, HostValue.beyondSingle]
  | double y =>
    rw [coerce_double_float, extract_float_double]
    cases hlarge : y.tooLargeFor .single <;> simp [HostValue.beyondSingle, hlarge]
  | integer k n =>
    rw [coerce_integer_float]
    simp [HostValue.beyondSingle]
  | _ =>
    refine iff_of_true (fun text target _ => ?_) (by simp [HostValue.beyondSingle])
    exact ⟨_, rfl⟩

/-- A value that is read as what a coercion gives is not refused by the coercion. -/
theorem extract_of_overflow
    (h : ∀ r, types.extract c v = .ok r → types.coerce v c.hostType = .ok (c.wrap r))
    {text target : String} (hrefused : types.coerce v c.hostType = .error (.overflow text target)) :
    ∃ e, types.extract c v = .error e := by
  cases hextract : types.extract c v with
  | error e => exact ⟨e, rfl⟩
  | ok r =>
    rw [h r hextract] at hrefused
    cases hrefused

/-- What is read as a number is what a coercion gives, but for 32-bit variables. -/
theorem coerce_of_extract_iff (hc : c.isNumber) :
    (∀ r, types.extract c v = .ok r → types.coerce v c.hostType = .ok (c.wrap r)) ↔
      ¬ (c = .float ∧ (v.beyondSingle ∨ v.slipsToSingle)) := by
  cases c with
  | integer k => exact iff_of_true (fun _ => coerce_of_extract_integer) (by simp)
  | double => exact iff_of_true (fun _ => coerce_of_extract_double) (by simp)
  | float =>
    simp only [true_and]
    exact coerce_of_extract_float_iff
  | _ => cases hc

/-- What a coercion refuses as out of range is not read as a number, but for 32-bit variables. -/
theorem extract_of_overflow_iff (hc : c.isNumber) :
    (∀ text target, types.coerce v c.hostType = .error (.overflow text target) →
        ∃ e, types.extract c v = .error e) ↔ ¬ (c = .float ∧ v.beyondSingle) := by
  cases c with
  | integer k =>
    exact iff_of_true (fun _ _ => extract_of_overflow fun _ => coerce_of_extract_integer) (by simp)
  | double =>
    exact iff_of_true (fun _ _ => extract_of_overflow fun _ => coerce_of_extract_double) (by simp)
  | float =>
    -- only the single carrier reads without the check
    simp only [true_and]
    exact extract_float_of_overflow_iff
  | _ => cases hc

/-- The extraction of a number is checked like its coercion, except at 32-bit variables: these alone
take a 64-bit number that is out of range, and an integer that is rounded twice. -/
theorem extraction_checked_unless_single (types : Registry) {c : Carrier} (hc : c.isNumber)
    (v : HostValue) :
    ((∀ r, types.extract c v = .ok r → types.coerce v c.hostType = .ok (c.wrap r)) ↔
        ¬ (c = .float ∧ (v.beyondSingle ∨ v.slipsToSingle))) ∧
      ((∀ text target, types.coerce v c.hostType = .error (.overflow text target) →
          ∃ e, types.extract c v = .error e) ↔
        ¬ (c = .float ∧ v.beyondSingle)) :=
  ⟨coerce_of_extract_iff hc, extract_of_overflow_iff hc⟩

/-- The successor of `2 ^ 60 + 2 ^ 35` is rounded twice and does not slip: both ways lead to
`2 ^ 60`. -/
theorem twice_rounded_integer_agrees :
    let n : Sized .int64 := ⟨1152921538966585345, by decide⟩
    let y : Single := .finite false 186 (2 ^ 23) (by decide)
    Carrier.float.isNumber ∧ ¬ (HostValue.integer .int64 n).slipsToSingle ∧
      empty.extract .float (.integer .int64 n) = .ok y ∧
      empty.coerce (.integer .int64 n) (.primitive .float) = .ok (.float y) := by
  intro n y
  have hextract : empty.extract .float (.integer .int64 n) = .ok y := by decide +kernel
  -- just above the middle of two singles, yet an exact double: one rounding and two agree
  have hslips : ¬ (HostValue.integer .int64 n).slipsToSingle := by decide
  refine ⟨rfl, hslips, hextract, ?_⟩
  exact (extraction_checked_unless_single empty (c := .float) rfl (.integer .int64 n)).1.2
    (by simp [HostValue.beyondSingle, hslips]) y hextract

/-- A number that a coercion refuses as out of range is read as infinite, and an integer just above
the middle between two numbers is read as the lower of them. -/
theorem single_read_unchecked :
    let x : Double := .finite false 1150 (2 ^ 52) (by decide)
    let n : Sized .int64 := ⟨1152921573326323713, by decide⟩
    (∃ text, empty.coerce (.double x) Carrier.float.hostType = .error (.overflow text "float")) ∧
      empty.extract .float (.double x) = .ok (.infinite false) ∧
      ∃ y, empty.extract .float (.integer .int64 n) = .ok y ∧
        empty.coerce (.integer .int64 n) Carrier.float.hostType ≠ .ok (Carrier.float.wrap y) := by
  intro x n
  -- two roundings of this integer go down where one goes up
  have hrounded : (Binary.ofInt n.val : Single) ≠ (Binary.ofInt n.val : Double).convert .single := by
    decide +kernel
  refine ⟨⟨x.text .plain, ?_⟩, by decide +kernel, _, rfl, ?_⟩
  · exact (coerce_double_float x).trans (if_pos (by decide +kernel))
  · rw [show Carrier.float.hostType = .primitive .float from rfl, coerce_integer_float]
    intro hsame
    injection hsame with hsame
    injection hsame with hsame
    exact hrounded hsame

end Registry

end Membrane
