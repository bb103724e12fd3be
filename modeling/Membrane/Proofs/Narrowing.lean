import Mathlib.Algebra.Order.Field.Basic
import Mathlib.Algebra.Order.Field.Rat
import Mathlib.Algebra.Order.Group.Unbundled.Int
import Mathlib.Data.Rat.Cast.Order
import Mathlib.Tactic.FieldSimp
import Mathlib.Tactic.Linarith
import Mathlib.Tactic.Push
import Membrane.Proofs.HostRoundTrip

/-!
# Integers never wrap

A number is brought to an integer kind by way of the integer nearest to it. Read as a rational
number (`Binary.value?`, `HostValue.rational?`), every finite value has exactly one such integer when
a half goes to the even neighbour (`IsNearestEven`). If the kind has that integer, the coercion gives
it, and otherwise fails: nothing is cut off, wrapped around or brought to the end of the range. The
range of intermediate results shows only in the text of the refusal, because no kind reaches beyond
it. Enumerations take whole numbers alone.

A constant of an enumeration that derives from the target stands there as it is, whatever its value.

## Key results

- `isNearestEven_roundHalfEven`: `roundHalfEven` rounds a quotient to the nearest integer
- `Binary.isNearestEven_of_nearestInt?`, `Binary.whole?_eq_some_iff`: the integers that a number is
  rounded to and that it is
- `Registry.narrowing_exact`: what integer kinds and enumerations make of every number
-/

namespace Membrane

open Conversion

/-! ### Nearest integers -/

/-- The integer that a rational number is rounded to: none is nearer, and it is even if another one
is as near. -/
structure IsNearestEven (q : ℚ) (n : ℤ) : Prop where
  nearest : ∀ m : ℤ, |q - n| ≤ |q - m|
  even : ∀ m : ℤ, m ≠ n → |q - m| = |q - n| → Even n

section Nearest

variable {q : ℚ} {m n : ℤ}

/-- Two integers are at least one apart, so one of them is at least a half away from any number. -/
private theorem one_le_add_abs (hne : m ≠ n) : 1 ≤ |q - m| + |q - n| := by
  have hapart : (1 : ℚ) ≤ |(m : ℚ) - n| := by
    exact_mod_cast Int.one_le_abs (sub_ne_zero.2 hne)
  calc (1 : ℚ) ≤ |(m : ℚ) - n| := hapart
    _ = |(m - q) + (q - n)| := by rw [sub_add_sub_cancel]
    _ ≤ |m - q| + |q - n| := abs_add_le _ _
    _ = |q - m| + |q - n| := by rw [abs_sub_comm]

/-- No integer is nearer than one within a half, and at a half the even one is taken. -/
theorem isNearestEven_iff : IsNearestEven q n ↔ |q - n| ≤ 1 / 2 ∧ (|q - n| = 1 / 2 → Even n) := by
  constructor
  · intro h
    -- the neighbours of `n` on both sides are no nearer
    have habove := h.nearest (n + 1)
    have hbelow := h.nearest (n - 1)
    push_cast at habove hbelow
    refine ⟨?_, fun htie => ?_⟩
    · rcases abs_cases (q - n) with ⟨hn, _⟩ | ⟨hn, _⟩ <;>
        rcases abs_cases (q - (n + 1 : ℚ)) with ⟨ha, _⟩ | ⟨ha, _⟩ <;>
        rcases abs_cases (q - (n - 1 : ℚ)) with ⟨hb, _⟩ | ⟨hb, _⟩ <;> linarith
    · obtain hhalf | hhalf := (abs_eq (by norm_num)).1 htie
      · refine h.even (n + 1) (by omega) ?_
        rw [htie, Int.cast_add, Int.cast_one, show q - (n + 1 : ℚ) = -(1 / 2) by linarith, abs_neg,
          abs_of_pos (by norm_num)]
      · refine h.even (n - 1) (by omega) ?_
        rw [htie, Int.cast_sub, Int.cast_one, show q - (n - 1 : ℚ) = 1 / 2 by linarith,
          abs_of_pos (by norm_num)]
  · -- any other integer is at least one away from `n`
    rintro ⟨hhalf, heven⟩
    constructor
    · intro m
      by_cases hne : m = n
      · rw [hne]
      · have := one_le_add_abs (q := q) hne
        linarith
    · intro m hne htie
      have := one_le_add_abs (q := q) hne
      exact heven (by linarith)

/-- There is one such integer. -/
theorem IsNearestEven.unique (hm : IsNearestEven q m) (hn : IsNearestEven q n) : m = n := by
  obtain ⟨hm, hmeven⟩ := isNearestEven_iff.1 hm
  obtain ⟨hn, hneven⟩ := isNearestEven_iff.1 hn
  by_contra hne
  -- both are a half away, so both are even, and the distance between them is one
  have hapart := one_le_add_abs (q := q) hne
  have hdist : |(m : ℚ) - n| ≤ 1 := by
    calc |(m : ℚ) - n| = |(m - q) + (q - n)| := by rw [sub_add_sub_cancel]
      _ ≤ |m - q| + |q - n| := abs_add_le _ _
      _ = |q - m| + |q - n| := by rw [abs_sub_comm]
      _ ≤ 1 := by linarith
  have hdist : |m - n| ≤ 1 := by exact_mod_cast hdist
  obtain ⟨i, rfl⟩ := hmeven (by linarith)
  obtain ⟨j, rfl⟩ := hneven (by linarith)
  rw [abs_le] at hdist
  omega

/-- An integer is its own. -/
theorem isNearestEven_intCast (n : ℤ) : IsNearestEven n n := by
  rw [isNearestEven_iff, sub_self, abs_zero]
  constructor <;> norm_num

/-- The sign makes no difference. -/
theorem IsNearestEven.neg (h : IsNearestEven q n) : IsNearestEven (-q) (-n) := by
  obtain ⟨hhalf, heven⟩ := isNearestEven_iff.1 h
  have habs : |-q - ((-n : ℤ) : ℚ)| = |q - n| := by
    rw [Int.cast_neg, ← neg_sub', abs_neg]
  rw [isNearestEven_iff, habs]
  exact ⟨hhalf, fun htie => (heven htie).neg⟩

/-- The distance to a quotient, counted in parts of the divisor. -/
theorem isNearestEven_div_iff {num : ℤ} {den : ℕ} (hden : 0 < den) :
    IsNearestEven (num / den) n ↔
      2 * |num - n * den| ≤ den ∧ (2 * |num - n * den| = den → Even n) := by
  have hpos : (0 : ℚ) < den := by exact_mod_cast hden
  -- the distance as a fraction of the same denominator
  have hdist : |(num / den : ℚ) - n| = (|num - n * den| : ℤ) / den := by
    rw [Int.cast_abs, ← abs_of_pos hpos, ← abs_div, abs_of_pos hpos]
    push_cast
    rw [sub_div, mul_div_cancel_right₀ _ hpos.ne']
  have hle : |(num / den : ℚ) - n| ≤ 1 / 2 ↔ 2 * |num - n * den| ≤ den := by
    rw [hdist, div_le_div_iff₀ hpos two_pos, one_mul, mul_comm]
    exact_mod_cast Iff.rfl
  have heq : |(num / den : ℚ) - n| = 1 / 2 ↔ 2 * |num - n * den| = den := by
    rw [hdist, div_eq_div_iff hpos.ne' two_ne_zero, one_mul, mul_comm]
    exact_mod_cast Iff.rfl
  rw [isNearestEven_iff, hle, heq]

/-- Rounding a quotient gives the integer nearest to it. -/
theorem isNearestEven_roundHalfEven (num : ℕ) {den : ℕ} (hden : 0 < den) :
    IsNearestEven (num / den) (roundHalfEven num den) := by
  have hlt : num % den < den := Nat.mod_lt _ hden
  have hdivision : (num : ℤ) = (num / den : ℕ) * den + (num % den : ℕ) := by
    exact_mod_cast (Nat.div_add_mod' num den).symm
  -- the quotient is too small by the remainder, and its successor too large by the rest
  have hdown : (num : ℤ) - (num / den : ℕ) * den = (num % den : ℕ) := by omega
  have hup : (num : ℤ) - ((num / den + 1 : ℕ) : ℤ) * den = (num % den : ℕ) - den := by
    push_cast
    rw [add_mul]
    push_cast at hdivision
    omega
  have hcast : ((num : ℤ) : ℚ) = num := Int.cast_natCast num
  rw [← hcast, isNearestEven_div_iff hden]
  unfold roundHalfEven
  generalize num % den = remainder at *
  generalize num / den = quotient at *
  dsimp only
  split_ifs with hbelow habove heven
  · rw [hdown, abs_of_nonneg (by omega)]
    constructor <;> omega
  · rw [hup, abs_of_nonpos (by omega)]
    constructor <;> omega
  · rw [hdown, abs_of_nonneg (by omega)]
    exact ⟨by omega, fun _ => by exact_mod_cast Nat.even_iff.2 heven⟩
  · rw [hup, abs_of_nonpos (by omega)]
    exact ⟨by omega, fun _ => by exact_mod_cast Nat.even_iff.2 (by omega : (quotient + 1) % 2 = 0)⟩

end Nearest

/-! ### The integers of a number -/

namespace Binary

variable {F G : FloatFormat}

/-- The rational number that a finite number is. -/
def value? (x : Binary F) : Option ℚ :=
  if x.isFinite then some ((signed x.isNegative x.magnitude : ℚ) / (2 ^ F.offset : ℕ)) else none

/-- A sign may be put in front. -/
theorem isNearestEven_signed {num den n : ℕ} (negative : Bool) (h : IsNearestEven (num / den) n) :
    IsNearestEven ((signed negative num : ℚ) / den) (signed negative n) := by
  cases negative with
  | false => simpa [signed] using h
  | true => simpa [signed, neg_div] using h.neg

/-- A finite number is rounded to the integer nearest to it, and no other number is rounded. -/
theorem isNearestEven_of_nearestInt? (x : Binary F) :
    match x.value? with
    | some q => ∃ n, x.nearestInt? = some n ∧ IsNearestEven q n
    | none => x.nearestInt? = none := by
  unfold value? nearestInt?
  split_ifs
  · have hround := isNearestEven_roundHalfEven x.magnitude (Nat.two_pow_pos F.offset)
    exact ⟨_, rfl, isNearestEven_signed x.isNegative hround⟩
  · rfl

/-- A sign may be put before or after the multiplication. -/
theorem signed_mul (negative : Bool) (m den : ℕ) :
    signed negative (m * den) = signed negative m * den := by
  cases negative <;> simp [signed]

/-- A multiple is divided without remainder. -/
theorem signed_eq_mul_iff {negative : Bool} {m den : ℕ} {n : ℤ} (hden : 0 < den) :
    signed negative m = n * den ↔ m % den = 0 ∧ signed negative (m / den) = n := by
  have hne : (den : ℤ) ≠ 0 := by exact_mod_cast hden.ne'
  constructor
  · intro h
    have hm : m = n.natAbs * den := by
      rw [← natAbs_signed negative m, h, Int.natAbs_mul, Int.natAbs_natCast]
    have hdiv : m / den = n.natAbs := by rw [hm, Nat.mul_div_cancel _ hden]
    refine ⟨by rw [hm, Nat.mul_mod_left], Int.eq_of_mul_eq_mul_right hne ?_⟩
    rw [← signed_mul, hdiv, ← hm, h]
  · rintro ⟨hmod, rfl⟩
    rw [← signed_mul, Nat.div_mul_cancel (Nat.dvd_of_mod_eq_zero hmod)]

/-- A number is the integer that is its value. -/
theorem whole?_eq_some_iff {x : Binary F} {n : ℤ} :
    x.whole? = some n ↔ x.value? = some (n : ℚ) := by
  have hden : 0 < 2 ^ F.offset := Nat.two_pow_pos _
  have hne : ((2 ^ F.offset : ℕ) : ℚ) ≠ 0 := by exact_mod_cast hden.ne'
  unfold whole? value?
  cases hfinite : x.isFinite with
  | false => simp
  | true =>
    have hvalue : (signed x.isNegative x.magnitude : ℚ) / (2 ^ F.offset : ℕ) = n ↔
        signed x.isNegative x.magnitude = n * (2 ^ F.offset : ℕ) := by
      rw [div_eq_iff hne]
      exact_mod_cast Iff.rfl
    rw [if_pos rfl, Option.some.injEq, hvalue, signed_eq_mul_iff hden]
    -- the magnitude counts the smallest parts, so the value is whole if they fill it up
    by_cases hmod : x.magnitude % 2 ^ F.offset = 0 <;> simp [hmod]

/-- The value of a number does not change on its way to a wider format. -/
theorem value?_convert {gap : ℕ} (h : F.Widens G gap) (x : Binary F) :
    (x.convert G).value? = x.value? := by
  obtain ⟨hmagnitude, hfinite, hnegative⟩ := magnitude_convert h x
  have hgap : ((2 ^ gap : ℕ) : ℚ) ≠ 0 := by exact_mod_cast (Nat.two_pow_pos gap).ne'
  have hoffset : 2 ^ G.offset = 2 ^ F.offset * 2 ^ gap := by rw [h.offset, Nat.pow_add]
  simp only [value?, hmagnitude, hfinite, hnegative, hoffset, signed_mul]
  push_cast at hgap ⊢
  rw [mul_div_mul_right _ _ hgap]

end Binary

/-! ### The numbers of host values -/

namespace HostValue

/-- A bool, a number or a constant. -/
def isNumeric : HostValue → Bool
  | .bool _ | .integer .. | .constant .. | .float _ | .double _ => true
  | _ => false

/-- The rational number that a value stands for. True is one, and infinities and not-a-number are
none. -/
def rational? : HostValue → Option ℚ
  | .bool b => some (if b then 1 else 0)
  | .integer _ n => some n.val
  | .constant _ n => some n.val
  | .float x => x.value?
  | .double x => x.value?
  | _ => none

/-- A constant that stands at the type as it is. -/
def isConstantAt (types : Registry) (t : TypeId) : HostValue → Bool
  | .constant T _ => types.isAssignable T t
  | _ => false

end HostValue

/-! ### Narrowing -/

section Narrowing

variable {types : Registry} {v : HostValue} {t : TypeId} {k : IntegerKind} {n : ℤ}

/-- What is in range of a kind is not clamped. -/
theorem clamp_of_inRange (h : k.InRange n) : clamp n = n := clamp_val ⟨n, h⟩

/-- No kind reaches as far as intermediate results. -/
theorem inRange_clamp_iff : k.InRange (clamp n) ↔ k.InRange n := by
  obtain ⟨hlow, hhigh⟩ := range_widest k
  simp only [IntegerKind.InRange, clamp]
  omega

/-- An integer is narrowed if it is in range. -/
theorem narrow_eq (k : IntegerKind) (n : ℤ) :
    narrow k n = if h : k.InRange n then .ok (.integer k ⟨n, h⟩)
      else .error (.overflow (toString n) k.name) := by
  unfold narrow Sized.ofInt?
  split_ifs <;> rfl

/-- An integer on its way to a kind is given as it is, or refused. -/
theorem narrow_clamp (k : IntegerKind) (n : ℤ) :
    narrow k (clamp n) = if h : k.InRange n then .ok (.integer k ⟨n, h⟩)
      else .error (.overflow (toString (clamp n)) k.name) := by
  rw [narrow_eq]
  by_cases h : k.InRange n
  · simp only [h, clamp_of_inRange h, dif_pos]
  · rw [dif_neg h, dif_neg (mt inRange_clamp_iff.1 h)]

/-- A floating number goes to an integer kind by way of the integer nearest to it. -/
theorem ofNumeric_real (k : IntegerKind) (x : Double) :
    match x.value? with
    | some q => ∃ n, IsNearestEven q n ∧ ofNumeric (.integer k) (.real x) = narrow k (clamp n)
    -- an infinity and a value that is no number have no integer near them
    | none => ∃ text, ofNumeric (.integer k) (.real x) = .error (.overflow text k.name) := by
  have hround := x.isNearestEven_of_nearestInt?
  cases hvalue : x.value? with
  | some q =>
    rw [hvalue] at hround
    obtain ⟨n, hn, hnearest⟩ := hround
    exact ⟨n, hnearest, ofNumeric_of_nearestInt? hn⟩
  | none =>
    rw [hvalue] at hround
    exact ⟨x.text .plain, by simp only [ofNumeric, hround]; rfl⟩

/-- Every bool and number, and every constant that does not stand there as it is, goes to an integer
kind by way of the integer nearest to it. -/
theorem coerce_integer (hv : v.isNumeric) (hkept : v.isConstantAt types (.integer k) = false) :
    match v.rational? with
    | some q => ∃ n, IsNearestEven q n ∧ types.coerce v (.integer k) = narrow k (clamp n)
    | none => ∃ text, types.coerce v (.integer k) = .error (.overflow text k.name) := by
  cases v with
  | bool b =>
    refine ⟨if b then 1 else 0, ?_, ?_⟩
    · exact_mod_cast isNearestEven_intCast (if b then 1 else 0)
    · have hrange : k.InRange (if b then 1 else 0) := by cases b <;> cases k <;> decide
      rw [coerce_number rfl (by simp) rfl, clamp_of_inRange hrange]
      rfl
  | integer l m =>
    refine ⟨m.val, isNearestEven_intCast _, ?_⟩
    rw [clamp_val]
    by_cases hkind : k = l
    · subst hkind
      rw [Registry.coerce_of_isAssignable rfl (types.isAssignable_self _), narrow_val]
    · rw [coerce_number rfl (by simpa using hkind) rfl]
      rfl
  -- a constant that is not kept is read as its value
  | constant T m =>
    refine ⟨m.val, isNearestEven_intCast _, ?_⟩
    rw [clamp_val, coerce_numeric (v := .constant T m) hkept rfl]
    rfl
  | float x =>
    rw [coerce_number rfl (by simp) rfl]
    have hround := ofNumeric_real k (x.convert .double)
    rwa [Binary.value?_convert FloatFormat.single_widens_double] at hround
  | double x =>
    rw [coerce_number rfl (by simp) rfl]
    exact ofNumeric_real k x
  | _ => cases hv

/-- A value that is whole is the integer that an enumeration makes its constant of. -/
theorem integral?_eq (hv : v.isNumeric) (hbool : ∀ b, v ≠ .bool b) :
    ∃ whole : Option ℤ, integral? v = whole.map clamp ∧
      ∀ n : ℤ, whole = some n ↔ v.rational? = some (n : ℚ) := by
  cases v with
  | bool b => exact absurd rfl (hbool b)
  | integer l m =>
    refine ⟨some m.val, ?_, fun n => ?_⟩
    · rw [Option.map_some, clamp_val]
      rfl
    · simp [HostValue.rational?]
  | constant T m =>
    refine ⟨some m.val, ?_, fun n => ?_⟩
    · rw [Option.map_some, clamp_val]
      rfl
    · simp [HostValue.rational?]
  -- a single is widened, which keeps its value
  | float x =>
    refine ⟨(x.convert .double).whole?, rfl, fun n => ?_⟩
    rw [Binary.whole?_convert FloatFormat.single_widens_double]
    exact Binary.whole?_eq_some_iff
  | double x => exact ⟨x.whole?, rfl, fun n => Binary.whole?_eq_some_iff⟩
  | _ => cases hv

/-- What an enumeration does not take as it is. -/
theorem not_kept_of_isNumeric (hv : v.isNumeric) (ht : types.isEnumeration t)
    (hkept : v.isConstantAt types t = false) :
    v.runtimeType?.any (types.isAssignable · t) = false := by
  cases v with
  | constant T n => exact hkept
  | bool b => exact not_kept_at_enumeration rfl ht
  | integer l m => exact not_kept_at_enumeration rfl ht
  | float x => exact not_kept_at_enumeration rfl ht
  | double x => exact not_kept_at_enumeration rfl ht
  | _ => cases hv

/-- An enumeration refuses what is no integer of 64 bits. -/
theorem coerce_enumeration_error (hv : v.isNumeric) (ht : types.isEnumeration t)
    (hkept : v.isConstantAt types t = false) (hm : ∀ m : Sized .int64, integral? v ≠ some m.val) :
    ∃ e, types.coerce v t = .error e := by
  obtain ⟨hdeclared, hscript⟩ := kind_of_isEnumeration ht
  have hassignable := not_kept_of_isNumeric hv ht hkept
  cases hinteger : integral? v with
  | none =>
    cases v with
    | undefined => cases hv
    | null => cases hv
    | _ => exact ⟨_, by simp [Registry.coerce, hassignable, hscript, hdeclared, hinteger]; rfl⟩
  -- an integral value is out of the range of constants
  | some n =>
    have hrange : (Sized.ofInt? n : Option (Sized .int64)) = none := by
      refine Option.eq_none_iff_forall_ne_some.2 fun m h => hm m ?_
      rw [hinteger, Sized.ofInt?_eq_some_iff.1 h]
    cases v with
    | undefined => cases hv
    | null => cases hv
    | _ => exact ⟨_, by simp [Registry.coerce, hassignable, hscript, hdeclared, hinteger, hrange]; rfl⟩

end Narrowing

namespace Registry

/-- Every bool, number and constant is coerced to an integer kind by way of the integer nearest to it,
which the kind has, or the coercion fails; infinities and not-a-number fail as well. An enumeration
makes its constant of a number of exactly that value, and refuses all others. Constants that stand at
the target stay as they are. -/
theorem narrowing_exact (types : Registry) {v : HostValue} (hv : v.isNumeric) :
    (∀ k : IntegerKind,
      if v.isConstantAt types (.integer k) then types.coerce v (.integer k) = .ok v
      else match v.rational? with
        | some q => ∃ n, (∀ m, IsNearestEven q m ↔ m = n) ∧
            types.coerce v (.integer k) = if h : k.InRange n then .ok (.integer k ⟨n, h⟩)
              else .error (.overflow (toString (clamp n)) k.name)
        | none => ∃ text, types.coerce v (.integer k) = .error (.overflow text k.name)) ∧
    ∀ t, types.isEnumeration t → (∀ b, v ≠ .bool b) →
      if v.isConstantAt types t then types.coerce v t = .ok v
      else (∀ n : Sized .int64, v.rational? = some (n.val : ℚ) →
          types.coerce v t = .ok (.constant t n)) ∧
        ((∀ n : Sized .int64, v.rational? ≠ some (n.val : ℚ)) → ∃ e, types.coerce v t = .error e) := by
  -- only a constant is assignable to a type of this sort without being changed
  have hassignable {t : TypeId} (h : v.isConstantAt types t) : types.coerce v t = .ok v := by
    cases v with
    | constant T n => exact coerce_of_isAssignable rfl h
    | _ => cases h
  refine ⟨fun k => ?_, fun t ht hbool => ?_⟩
  · split_ifs with hkept
    · exact hassignable hkept
    · have hcoerce := coerce_integer hv (eq_false_of_ne_true hkept)
      cases hvalue : v.rational? with
      | none => rwa [hvalue] at hcoerce
      | some q =>
        rw [hvalue] at hcoerce
        obtain ⟨n, hnearest, hnarrow⟩ := hcoerce
        refine ⟨n, fun m => ⟨fun hm => hm.unique hnearest, fun hm => hm ▸ hnearest⟩, ?_⟩
        rw [hnarrow, narrow_clamp]
  · split_ifs with hkept
    · exact hassignable hkept
    · have hkept := eq_false_of_ne_true hkept
      obtain ⟨whole, hinteger, hwhole⟩ := integral?_eq hv hbool
      constructor
      · -- an enumeration takes whole numbers of 64 bits and nothing else
        intro n hn
        rw [← hwhole] at hn
        rw [hn, Option.map_some, clamp_val] at hinteger
        exact coerce_integral ht (not_kept_of_isNumeric hv ht hkept) hinteger
      · intro hrange
        refine coerce_enumeration_error hv ht hkept fun m hm => ?_
        rw [hinteger] at hm
        obtain ⟨n, rfl, hclamp⟩ := Option.map_eq_some_iff.1 hm
        -- an integer beyond intermediate results is none of 64 bits either
        have hn : IntegerKind.int64.InRange n := inRange_clamp_iff.1 (hclamp ▸ m.inRange)
        exact hrange ⟨n, hn⟩ ((hwhole n).1 rfl)

/-- The number half-way between the last integer of `int8` and its successor goes to the successor,
which is even, and is refused. -/
theorem half_beyond_int8_refused :
    let x : Single := .finite false 132 (255 * 2 ^ 16) (by decide)
    (HostValue.float x).isNumeric ∧ (HostValue.float x).rational? = some (255 / 2) ∧
      empty.coerce (.float x) (.integer .int8) = .error (.overflow (toString (clamp 128)) "int8") ∧
      empty.coerce (.float x) (.integer .uint8) = .ok (.integer .uint8 ⟨128, by decide⟩) := by
  intro x
  have hvalue : (HostValue.float x).rational? = some (255 / 2) := by
    simp only [HostValue.rational?, Binary.value?, Binary.isFinite, Binary.isNegative, x,
      Binary.magnitude, signed]
    norm_num
  -- a tie, and 128 is the even one of both
  have hnearest : IsNearestEven (255 / 2) 128 := by
    have hdistance : IsNearestEven ((255 : ℤ) / (2 : ℕ)) 128 :=
      (isNearestEven_div_iff two_pos).2 (by decide)
    simpa using hdistance
  obtain ⟨hinteger, -⟩ := narrowing_exact empty (v := .float x) rfl
  have hint8 := hinteger .int8
  have huint8 := hinteger .uint8
  simp only [HostValue.isConstantAt, Bool.false_eq_true, if_false, hvalue] at hint8 huint8
  obtain ⟨n, hn, hint8⟩ := hint8
  obtain ⟨n', hn', huint8⟩ := huint8
  obtain rfl := (hn 128).1 hnearest
  obtain rfl := (hn' 128).1 hnearest
  exact ⟨rfl, hvalue, hint8, huint8⟩

/-- A constant beyond the range of the kind that its enumeration derives from is kept. -/
theorem constant_kept_beyond_range :
    let types : Registry := ⟨#[(TypeEntry.make "E" .enumeration).withBase (.integer .int8)]⟩
    let v : HostValue := .constant (.declared 0) ⟨300, by decide⟩
    v.isNumeric ∧ v.rational? = some 300 ∧ IsNearestEven 300 300 ∧ ¬ IntegerKind.int8.InRange 300 ∧
      types.coerce v (.integer .int8) = .ok v ∧
      ∀ text, types.coerce v (.integer .int8) ≠ .error (.overflow text IntegerKind.int8.name) := by
  intro types v
  -- the enumeration has the kind for its base, so the constant is assignable as it is
  have hkept : types.coerce v (.integer .int8) = .ok v := coerce_of_isAssignable rfl (by decide)
  refine ⟨rfl, rfl, ?_, by decide, hkept, ?_⟩
  · exact_mod_cast isNearestEven_intCast 300
  · intro text
    simp [hkept]

end Registry

end Membrane
