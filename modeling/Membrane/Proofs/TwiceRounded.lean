import Mathlib.Tactic.Ring
import Membrane.Proofs.Narrowing

/-!
# Rounding twice

An integer goes to a floating format by way of its leading bits (`roundBits`). To go to a wide format
first and from there to a narrow one is the same as to go to the narrow one at once, except when the
first rounding comes to lie in the middle between two neighbours in the narrow format: the second then
goes to the even one of them, even if the integer lies nearer to the other (`SlipsAcross`).

## Key results

- `Binary.ofQuotient_roundBits`: the leading bits are those of the nearest number of a format
- `roundBits_roundBits_eq_iff`: when two roundings are one
- `Binary.convert_ofInt_eq_iff`: so for the two formats
-/

namespace Membrane

/-- The nearest natural number whose leading `p` bits are followed by zeros alone; a tie goes to the
even neighbour. -/
def roundBits (p a : ℕ) : ℕ :=
  roundHalfEven a (2 ^ (a.log2 + 1 - p)) * 2 ^ (a.log2 + 1 - p)

/-- The number lies off the middle between two neighbours with `p` bits, and so close to it that its
`P` leading bits are the middle, and the even neighbour is on the other side. -/
def SlipsAcross (p P a : ℕ) : Prop :=
  let step := 2 ^ (a.log2 + 1 - p)
  let unit := 2 ^ (a.log2 + 1 - P)
  P ≤ a.log2 ∧
    if a / step % 2 = 0 then step < 2 * (a % step) ∧ 2 * (a % step) ≤ step + unit
    else 2 * (a % step) < step ∧ step ≤ 2 * (a % step) + unit

instance (p P a : ℕ) : Decidable (SlipsAcross p P a) := by
  unfold SlipsAcross
  infer_instance

/-! ### Quotients -/

section Quotients

variable {num den q r n : ℕ}

/-- The rounded quotient is the one integer that is nearest, the even one between two. -/
theorem roundHalfEven_eq_iff (hden : 0 < den) :
    roundHalfEven num den = n ↔ IsNearestEven (num / den) n := by
  have hround := isNearestEven_roundHalfEven num hden
  refine ⟨fun h => h ▸ hround, fun h => ?_⟩
  exact_mod_cast hround.unique h

/-- A common factor does not change a quotient. -/
theorem roundHalfEven_mul_mul (num : ℕ) {den c : ℕ} (hden : 0 < den) (hc : 0 < c) :
    roundHalfEven (num * c) (den * c) = roundHalfEven num den := by
  have hcast : (c : ℚ) ≠ 0 := by exact_mod_cast hc.ne'
  rw [roundHalfEven_eq_iff (Nat.mul_pos hden hc)]
  push_cast
  rw [mul_div_mul_right _ _ hcast]
  exact isNearestEven_roundHalfEven num hden

/-- Between two multiples of the divisor the nearer one counts, and in the middle the even one. -/
theorem roundHalfEven_add (hr : r ≤ den) (hden : 0 < den) :
    roundHalfEven (q * den + r) den =
      if den < 2 * r ∨ 2 * r = den ∧ q % 2 = 1 then q + 1 else q := by
  have hcast : ((q * den + r : ℕ) : ℚ) = ((q * den + r : ℕ) : ℤ) := by norm_cast
  rw [roundHalfEven_eq_iff hden, hcast, isNearestEven_div_iff hden]
  -- up when the rest is past the half, or at it and the quotient is odd
  split_ifs with hup
  · have hdist : ((q * den + r : ℕ) : ℤ) - ((q + 1 : ℕ) : ℤ) * den = r - den := by
      push_cast
      ring
    rw [hdist, abs_of_nonpos (by omega)]
    refine ⟨by omega, fun h => ?_⟩
    have hodd : (q + 1) % 2 = 0 := by omega
    exact_mod_cast Nat.even_iff.2 hodd
  · have hdist : ((q * den + r : ℕ) : ℤ) - ((q : ℕ) : ℤ) * den = r := by
      push_cast
      ring
    rw [hdist, abs_of_nonneg (by omega)]
    refine ⟨by omega, fun h => ?_⟩
    have heven : q % 2 = 0 := by omega
    exact_mod_cast Nat.even_iff.2 heven

/-- A rounded quotient is at most a half off, and even if it is a half off. -/
theorem roundHalfEven_bounds (num : ℕ) (hden : 0 < den) (hn : roundHalfEven num den = n) :
    2 * num ≤ 2 * (n * den) + den ∧ 2 * (n * den) ≤ 2 * num + den ∧
      (2 * num = 2 * (n * den) + den ∨ 2 * (n * den) = 2 * num + den → n % 2 = 0) := by
  have hcast : ((num : ℕ) : ℚ) = ((num : ℕ) : ℤ) := by norm_cast
  have hround := (roundHalfEven_eq_iff hden).1 hn
  rw [hcast, isNearestEven_div_iff hden] at hround
  obtain ⟨hhalf, heven⟩ := hround
  have hproduct : ((n : ℤ) * den) = ((n * den : ℕ) : ℤ) := by norm_cast
  rw [hproduct] at hhalf heven
  have hparity : Even (n : ℤ) ↔ n % 2 = 0 := by rw [Int.even_coe_nat, Nat.even_iff]
  rw [hparity] at heven
  -- the product is opaque to the arithmetic, which is linear without it
  generalize n * den = product at *
  rcases abs_cases ((num : ℤ) - product) with ⟨habs, _⟩ | ⟨habs, _⟩ <;> rw [habs] at hhalf heven <;>
    exact ⟨by omega, by omega, fun htie => heven (by omega)⟩

/-- Rounding does not go beyond a multiple of the divisor. -/
theorem roundHalfEven_le_of_le (hden : 0 < den) (h : num ≤ n * den) :
    roundHalfEven num den ≤ n := by
  obtain ⟨-, hlower, -⟩ := roundHalfEven_bounds num hden rfl
  -- one more step would be more than a half too far
  by_contra hgt
  have hbeyond : (n + 1) * den ≤ roundHalfEven num den * den := Nat.mul_le_mul_right _ (by omega)
  rw [Nat.succ_mul] at hbeyond
  omega

/-- Rounding does not go below an integer that the quotient has reached. -/
theorem le_roundHalfEven_of_le (hden : 0 < den) (h : n * den ≤ num) :
    n ≤ roundHalfEven num den := by
  obtain ⟨hupper, -, -⟩ := roundHalfEven_bounds num hden rfl
  by_contra hlt
  have hbelow : (roundHalfEven num den + 1) * den ≤ n * den := Nat.mul_le_mul_right _ (by omega)
  rw [Nat.succ_mul] at hbelow
  omega

/-- An even multiple of the divisor is set apart from a quotient. -/
theorem roundHalfEven_mul_add (k r : ℕ) (hden : 0 < den) :
    roundHalfEven (2 * k * den + r) den = 2 * k + roundHalfEven r den := by
  generalize hn : roundHalfEven r den = n
  have hcast : ((2 * k * den + r : ℕ) : ℚ) = ((2 * k * den + r : ℕ) : ℤ) := by norm_cast
  have hcast' : ((r : ℕ) : ℚ) = ((r : ℕ) : ℤ) := by norm_cast
  rw [roundHalfEven_eq_iff hden, hcast', isNearestEven_div_iff hden] at hn
  have hdist : ((2 * k * den + r : ℕ) : ℤ) - ((2 * k + n : ℕ) : ℤ) * den = r - n * den := by
    push_cast
    ring
  -- an even multiple does not change which neighbour is the even one
  have hparity : Even ((2 * k + n : ℕ) : ℤ) ↔ Even (n : ℤ) := by
    rw [Int.even_coe_nat, Int.even_coe_nat, Nat.even_add]
    simp
  rw [roundHalfEven_eq_iff hden, hcast, isNearestEven_div_iff hden, hdist, hparity]
  exact hn

end Quotients

/-! ### Leading bits -/

section Bits

variable {p P a m e : ℕ}

/-- A factor of two adds one bit. -/
theorem log2_mul_two_pow (hm : m ≠ 0) : (m * 2 ^ e).log2 = m.log2 + e := by
  rw [Nat.log2_eq_iff (Nat.mul_ne_zero hm (Nat.two_pow_pos e).ne'), Nat.pow_add,
    show m.log2 + e + 1 = m.log2 + 1 + e by omega, Nat.pow_add]
  exact ⟨Nat.mul_le_mul_right _ (Nat.log2_self_le hm),
    Nat.mul_lt_mul_of_pos_right Nat.lt_log2_self (Nat.two_pow_pos e)⟩

/-- What is long is not zero. -/
theorem ne_zero_of_le_log2 (hp : 0 < p) (hlong : p ≤ a.log2) : a ≠ 0 := by
  rintro rfl
  rw [Nat.log2_zero] at hlong
  omega

/-- The leading bit, in units of the last place that is kept. -/
theorem two_pow_log2 (hp : 0 < p) (hlong : p ≤ a.log2) :
    2 ^ a.log2 = 2 ^ (p - 1) * 2 ^ (a.log2 + 1 - p) := by
  rw [← Nat.pow_add]
  congr 1
  omega

/-- The bit beyond the leading one, in units of the last place that is kept. -/
theorem two_pow_log2_succ (hlong : p ≤ a.log2) :
    2 ^ (a.log2 + 1) = 2 ^ p * 2 ^ (a.log2 + 1 - p) := by
  rw [← Nat.pow_add]
  congr 1
  omega

/-- Nothing is rounded away from a multiple of the unit. -/
theorem roundBits_of_dvd (h : 2 ^ (a.log2 + 1 - p) ∣ a) : roundBits p a = a := by
  obtain ⟨m, hm⟩ := h
  have hround := roundHalfEven_mul m (Nat.two_pow_pos (a.log2 + 1 - p))
  rw [Nat.mul_comm, ← hm] at hround
  rw [roundBits, hround, Nat.mul_comm, ← hm]

/-- A number with `p` bits followed by zeros is not rounded. -/
theorem roundBits_mul (hp : 0 < p) (hm : m ≤ 2 ^ p) : roundBits p (m * 2 ^ e) = m * 2 ^ e := by
  by_cases hzero : m = 0
  · subst hzero
    rw [Nat.zero_mul]
    exact roundBits_of_dvd (Nat.dvd_zero _)
  refine roundBits_of_dvd ?_
  rw [log2_mul_two_pow hzero]
  -- a full significand is a power of two; a shorter one has no bits to lose
  obtain rfl | hlt := Nat.eq_or_lt_of_le hm
  · rw [Nat.log2_two_pow, ← Nat.pow_add]
    exact Nat.pow_dvd_pow 2 (by omega)
  · have hfits : m.log2 < p := (Nat.log2_lt hzero).2 hlt
    exact Nat.dvd_mul_left_of_dvd (Nat.pow_dvd_pow 2 (by omega)) m

/-- The two neighbours of a number, and which of them it goes to. -/
theorem roundBits_of_lt {q r : ℕ} (hr : r ≤ 2 ^ e) (he : (q * 2 ^ e + r).log2 + 1 - p = e) :
    roundBits p (q * 2 ^ e + r) =
      (if 2 ^ e < 2 * r ∨ 2 * r = 2 ^ e ∧ q % 2 = 1 then q + 1 else q) * 2 ^ e := by
  rw [roundBits, he, roundHalfEven_add hr (Nat.two_pow_pos e)]

/-- Numbers between the same two neighbours have as many bits. -/
theorem log2_of_between {q r b : ℕ} (hlow : 2 ^ b ≤ q * 2 ^ e) (hhigh : (q + 1) * 2 ^ e ≤ 2 ^ (b + 1))
    (hr : r < 2 ^ e) : (q * 2 ^ e + r).log2 = b := by
  have hpos : 0 < 2 ^ b := Nat.two_pow_pos b
  rw [Nat.log2_eq_iff (by omega)]
  rw [Nat.add_mul] at hhigh
  exact ⟨by omega, by omega⟩

/-- With a step of an even number of units to the middle, a remainder and the multiple of the unit next
to it lie on different sides of the middle only if the multiple is the middle itself. -/
theorem same_side_iff {step unit g q r n : ℕ} (hunit : 0 < unit) (hstep : step = 2 * (2 * g * unit))
    (hn : roundHalfEven r unit = n) :
    ((step < 2 * (n * unit) ∨ 2 * (n * unit) = step ∧ q % 2 = 1) ↔
        (step < 2 * r ∨ 2 * r = step ∧ q % 2 = 1)) ↔
      ¬ if q % 2 = 0 then step < 2 * r ∧ 2 * r ≤ step + unit
        else 2 * r < step ∧ step ≤ 2 * r + unit := by
  obtain ⟨hupper, hlower, hparity⟩ := roundHalfEven_bounds r hunit hn
  -- The middle is an even multiple. A remainder that goes to another one is more than half a unit away
  -- from the middle, because half-way it would have gone there.
  rcases Nat.lt_trichotomy n (2 * g) with hlt | rfl | hgt
  · obtain hnext | hnext : n + 1 = 2 * g ∨ n + 2 ≤ 2 * g := by omega
    · have hproduct : n * unit + unit = 2 * g * unit := by rw [← hnext, Nat.add_mul, Nat.one_mul]
      split_ifs <;> omega
    · have hproduct : n * unit + 2 * unit ≤ 2 * g * unit := by
        rw [← Nat.add_mul]
        exact Nat.mul_le_mul_right _ hnext
      split_ifs <;> omega
  · split_ifs <;> omega
  · obtain hnext | hnext : n = 2 * g + 1 ∨ 2 * g + 2 ≤ n := by omega
    · have hproduct : n * unit = 2 * g * unit + unit := by rw [hnext, Nat.add_mul, Nat.one_mul]
      split_ifs <;> omega
    · have hproduct : 2 * g * unit + 2 * unit ≤ n * unit := by
        rw [← Nat.add_mul]
        exact Nat.mul_le_mul_right _ hnext
      split_ifs <;> omega

/-- A number of more than `p` bits lies between two neighbours that have `p` bits followed by
zeros. -/
theorem exists_neighbours (hp : 0 < p) (hlong : p ≤ a.log2) :
    2 ^ a.log2 ≤ a / 2 ^ (a.log2 + 1 - p) * 2 ^ (a.log2 + 1 - p) ∧
      a / 2 ^ (a.log2 + 1 - p) + 1 ≤ 2 ^ p := by
  have hpos : 0 < 2 ^ (a.log2 + 1 - p) := Nat.two_pow_pos _
  -- the lower neighbour is not below the leading bit, and the upper one fits into the bits
  constructor
  · rw [two_pow_log2 hp hlong]
    refine Nat.mul_le_mul_right _ ((Nat.le_div_iff_mul_le hpos).2 ?_)
    rw [← two_pow_log2 hp hlong]
    exact Nat.log2_self_le (ne_zero_of_le_log2 hp hlong)
  · refine (Nat.div_lt_iff_lt_mul hpos).2 ?_
    rw [← two_pow_log2_succ hlong]
    exact Nat.lt_log2_self

/-- Two choices between the same neighbours agree when their conditions do. -/
private theorem ite_succ_eq_iff {c d : Prop} [Decidable c] [Decidable d] {q : ℕ} :
    (if c then q + 1 else q) = (if d then q + 1 else q) ↔ (c ↔ d) := by
  split_ifs with hc hd hd <;> simp [hc, hd]

/-- The two roundings of a number between two neighbours `q` and `q + 1`, counted in steps of
`2 ^ (u + gap + 2)`, when the first rounding goes to multiples of `2 ^ u`. -/
theorem roundBits_roundBits_between {q r b u gap : ℕ} (hp : 0 < p) (hb : b + 1 = p + 2 + gap + u)
    (hlow : 2 ^ b ≤ q * 2 ^ (u + gap + 2)) (hfits : q + 1 ≤ 2 ^ p) (hr : r < 2 ^ (u + gap + 2)) :
    roundBits p (roundBits (p + 2 + gap) (q * 2 ^ (u + gap + 2) + r)) =
        roundBits p (q * 2 ^ (u + gap + 2) + r) ↔
      ¬ if q % 2 = 0 then 2 ^ (u + gap + 2) < 2 * r ∧ 2 * r ≤ 2 ^ (u + gap + 2) + 2 ^ u
        else 2 * r < 2 ^ (u + gap + 2) ∧ 2 ^ (u + gap + 2) ≤ 2 * r + 2 ^ u := by
  have hunit : 0 < 2 ^ u := Nat.two_pow_pos u
  have hstep : 2 ^ (u + gap + 2) = 2 * (2 * 2 ^ gap * 2 ^ u) := by
    rw [Nat.pow_add, Nat.pow_add]
    ring
  have hhigh : (q + 1) * 2 ^ (u + gap + 2) ≤ 2 ^ (b + 1) := by
    rw [show b + 1 = p + (u + gap + 2) by omega, Nat.pow_add 2 p (u + gap + 2)]
    exact Nat.mul_le_mul_right _ hfits
  -- up to the upper neighbour all numbers have `b + 1` bits
  have hlog {x : ℕ} (hx : x < 2 ^ (u + gap + 2)) : (q * 2 ^ (u + gap + 2) + x).log2 = b :=
    log2_of_between hlow hhigh hx
  have hround {x : ℕ} (hx : x < 2 ^ (u + gap + 2)) := roundBits_of_lt (p := p) (q := q)
    (Nat.le_of_lt hx) (by rw [hlog hx]; omega)
  generalize hn : roundHalfEven r (2 ^ u) = n
  have hfirst : roundBits (p + 2 + gap) (q * 2 ^ (u + gap + 2) + r) =
      q * 2 ^ (u + gap + 2) + n * 2 ^ u := by
    have hunits : q * 2 ^ (u + gap + 2) = 2 * (2 * 2 ^ gap * q) * 2 ^ u := by
      rw [hstep]
      ring
    rw [roundBits, hlog hr, show b + 1 - (p + 2 + gap) = u by omega, hunits,
      roundHalfEven_mul_add _ r hunit, hn]
    ring
  rw [hfirst, hround hr, ← same_side_iff hunit hstep hn]
  have hn' : n * 2 ^ u ≤ 2 ^ (u + gap + 2) := by
    have hsame : 2 ^ (u + gap + 2) = 2 * (2 * 2 ^ gap) * 2 ^ u := by
      rw [hstep]
      ring
    rw [hsame] at hr ⊢
    exact Nat.mul_le_mul_right _ (hn ▸ roundHalfEven_le_of_le hunit (Nat.le_of_lt hr))
  have hsecond : roundBits p (q * 2 ^ (u + gap + 2) + n * 2 ^ u) =
      (if 2 ^ (u + gap + 2) < 2 * (n * 2 ^ u) ∨ 2 * (n * 2 ^ u) = 2 ^ (u + gap + 2) ∧ q % 2 = 1
        then q + 1 else q) * 2 ^ (u + gap + 2) := by
    obtain hlt | heq := Nat.lt_or_eq_of_le hn'
    · exact hround hlt
    · -- the upper neighbour itself
      have hpos : 0 < 2 ^ (u + gap + 2) := Nat.two_pow_pos _
      rw [heq, if_pos (.inl (by omega)), ← Nat.succ_mul]
      exact roundBits_mul hp hfits
  rw [hsecond, Nat.mul_left_inj (Nat.two_pow_pos _).ne']
  exact ite_succ_eq_iff

/-- To round to `P` bits and then to `p` is to round to `p` bits, unless the number slips across the
middle between two neighbours. -/
theorem roundBits_roundBits_eq_iff (hp : 0 < p) (hP : p + 2 ≤ P) (a : ℕ) :
    roundBits p (roundBits P a) = roundBits p a ↔ ¬ SlipsAcross p P a := by
  by_cases hshort : a.log2 < P
  · -- all bits are kept in the first step
    have hexponent : a.log2 + 1 - P = 0 := by omega
    have hfirst : roundBits P a = a := roundBits_of_dvd (by rw [hexponent]; exact Nat.one_dvd a)
    rw [hfirst]
    exact iff_of_true rfl fun h => absurd h.1 (by omega)
  · obtain ⟨gap, rfl⟩ : ∃ gap, P = p + 2 + gap := Nat.exists_eq_add_of_le hP
    obtain ⟨u, hu⟩ : ∃ u, a.log2 + 1 = p + 2 + gap + u := Nat.exists_eq_add_of_le (by omega)
    have hstep : a.log2 + 1 - p = u + gap + 2 := by omega
    have hunit : a.log2 + 1 - (p + 2 + gap) = u := by omega
    have hlong : p + 2 + gap ≤ a.log2 := by omega
    obtain ⟨hlow, hfits⟩ := exists_neighbours (a := a) hp (by omega)
    rw [hstep] at hlow hfits
    have hbetween := roundBits_roundBits_between hp hu hlow hfits
      (Nat.mod_lt a (Nat.two_pow_pos (u + gap + 2)))
    rw [Nat.div_add_mod'] at hbetween
    rw [hbetween]
    simp only [SlipsAcross, hlong, true_and, hstep, hunit]

/-- With 53 bits the number is the middle between two numbers of 24 bits. -/
example : SlipsAcross 24 53 (2 ^ 60 + 2 ^ 36 + 1) := by decide

/-- Rounding does not cross a power of two. -/
theorem roundBits_le {b : ℕ} (hp : 0 < p) (ha : a ≤ 2 ^ b) : roundBits p a ≤ 2 ^ b := by
  -- the bound is a multiple of the unit, so rounding does not pass it
  obtain ⟨c, hc⟩ : ∃ c, b = c + (a.log2 + 1 - p) := by
    refine Nat.exists_eq_add_of_le' ?_
    by_cases hzero : a = 0
    · subst hzero
      rw [Nat.log2_zero]
      omega
    · have hlog : a.log2 < b + 1 :=
        (Nat.log2_lt hzero).2 (Nat.lt_of_le_of_lt ha (Nat.pow_lt_pow_right (by omega) (by omega)))
      omega
  rw [hc, Nat.pow_add] at ha ⊢
  rw [roundBits]
  exact Nat.mul_le_mul_right _ (roundHalfEven_le_of_le (Nat.two_pow_pos _) ha)

/-- There are at least `p` bits before the zeros if the number has more. -/
theorem le_roundHalfEven (hp : 0 < p) (hlong : p ≤ a.log2) :
    2 ^ (p - 1) ≤ roundHalfEven a (2 ^ (a.log2 + 1 - p)) := by
  refine le_roundHalfEven_of_le (Nat.two_pow_pos _) ?_
  rw [← two_pow_log2 hp hlong]
  exact Nat.log2_self_le (ne_zero_of_le_log2 hp hlong)

/-- The power of two behind `p` bits is reached, but not passed. -/
theorem roundHalfEven_le (hlong : p ≤ a.log2) :
    roundHalfEven a (2 ^ (a.log2 + 1 - p)) ≤ 2 ^ p := by
  refine roundHalfEven_le_of_le (Nat.two_pow_pos _) ?_
  rw [← two_pow_log2_succ hlong]
  exact Nat.le_of_lt Nat.lt_log2_self

end Bits

/-! ### Integers in a format -/

namespace Binary

variable {F G : FloatFormat} {negative : Bool} {a b : ℕ}

/-- A common factor does not change a quotient. -/
theorem ofQuotient_mul_mul (negative : Bool) (num : ℕ) {den c : ℕ} (hden : 0 < den) (hc : 0 < c) :
    (ofQuotient negative (num * c) (den * c) : Binary F) = ofQuotient negative num den := by
  have hscaled : num * c * 2 ^ F.offset = num * 2 ^ F.offset * c := Nat.mul_right_comm _ _ _
  have hdivisor (e : ℕ) : den * c * 2 ^ e = den * 2 ^ e * c := Nat.mul_right_comm _ _ _
  simp only [ofQuotient, hscaled, hdivisor, Nat.mul_div_mul_right _ _ hc,
    roundHalfEven_mul_mul _ (Nat.mul_pos hden (Nat.two_pow_pos _)) hc]

/-- The leading bits of an integer are those of the number nearest to it. -/
theorem ofQuotient_roundBits (negative : Bool) (hp : 0 < F.precision)
    (hlow : F.precision ≤ F.offset + 1) (ha : a ≤ 2 ^ b) (hhigh : F.offset + b + 1 ≤ F.top) :
    ∃ exponent significand h, (ofQuotient negative a 1 : Binary F) =
        .finite negative exponent significand h ∧
      significand * 2 ^ exponent = roundBits F.precision a * 2 ^ F.offset := by
  by_cases hshort : a.log2 < F.precision
  · -- nothing is rounded away
    have hexponent : a.log2 + 1 - F.precision = 0 := by omega
    have hbits : roundBits F.precision a = a :=
      roundBits_of_dvd (by rw [hexponent]; exact Nat.one_dvd a)
    have hfits : a ≤ 2 ^ F.precision := Nat.le_of_lt
      (Nat.lt_of_lt_of_le Nat.lt_log2_self (Nat.pow_le_pow_right (by omega) hshort))
    obtain ⟨exponent, significand, h, heq⟩ :=
      FloatFormat.exists_canonical (F := F) (k := F.offset) hp hfits hlow (by omega)
    exact ⟨exponent, significand, h,
      ofQuotient_of_eq negative hp h Nat.one_pos (by rw [heq, Nat.mul_one]), by rw [heq, hbits]⟩
  · have hlong : F.precision ≤ a.log2 := by omega
    have hne := ne_zero_of_le_log2 hp hlong
    have hrange : a.log2 < b + 1 :=
      (Nat.log2_lt hne).2 (Nat.lt_of_le_of_lt ha (Nat.pow_lt_pow_right (by omega) (by omega)))
    obtain ⟨e, he⟩ : ∃ e, a.log2 + 1 = F.precision + e := Nat.exists_eq_add_of_le (by omega)
    have hstep : a.log2 + 1 - F.precision = e := by omega
    have hleading := le_roundHalfEven hp hlong
    have hfits := roundHalfEven_le hlong
    have hquotient : (ofQuotient negative a 1 : Binary F) =
        pack negative (e + F.offset) (roundHalfEven a (2 ^ e)) := by
      have hexponent : a.log2 + F.offset + 1 - F.precision = e + F.offset := by omega
      simp only [ofQuotient, Nat.div_one, Nat.one_mul, log2_mul_two_pow hne, hexponent, Nat.pow_add,
        roundHalfEven_mul_mul a (Nat.two_pow_pos e) (Nat.two_pow_pos F.offset)]
    rw [hquotient, roundBits, hstep]
    rw [hstep] at hleading hfits
    generalize roundHalfEven a (2 ^ e) = m at hleading hfits
    obtain rfl | hlt := Nat.eq_or_lt_of_le hfits
    · -- a full significand carries
      have hnext : F.Canonical (e + F.offset + 1) (2 ^ (F.precision - 1)) :=
        ⟨by omega, Nat.pow_lt_pow_right (by omega) (by omega), .inr (Nat.le_refl _)⟩
      refine ⟨_, _, hnext, ?_, ?_⟩
      · rw [pack, dif_neg fun h => Nat.lt_irrefl _ h.2.1, dif_pos hnext]
      · rw [← Nat.pow_add, ← Nat.pow_add, ← Nat.pow_add]
        congr 1
        omega
    · have hcanonical : F.Canonical (e + F.offset) m := ⟨by omega, hlt, .inr hleading⟩
      exact ⟨_, _, hcanonical, pack_of_canonical negative hcanonical,
        by rw [Nat.pow_add, Nat.mul_assoc]⟩

/-- A finite number is known by its sign and its magnitude. -/
theorem finite_ext {e m e' m' : ℕ} {h : F.Canonical e m} {h' : F.Canonical e' m'}
    (hp : 0 < F.precision) (heq : m * 2 ^ e = m' * 2 ^ e') :
    (finite negative e m h : Binary F) = finite negative e' m' h' := by
  have hexponent : e = e' := by
    rw [← h.exponent_eq hp, heq, h'.exponent_eq hp]
  subst hexponent
  obtain rfl := Nat.eq_of_mul_eq_mul_right (Nat.two_pow_pos e) heq
  rfl

/-- Two integers have one nearest number exactly when they have the same leading bits. -/
theorem ofQuotient_eq_iff (hp : 0 < F.precision) (hlow : F.precision ≤ F.offset + 1)
    {a a' : ℕ} (ha : a ≤ 2 ^ b) (ha' : a' ≤ 2 ^ b) (hhigh : F.offset + b + 1 ≤ F.top) :
    (ofQuotient negative a 1 : Binary F) = ofQuotient negative a' 1 ↔
      roundBits F.precision a = roundBits F.precision a' := by
  obtain ⟨e, m, h, heq, hm⟩ := ofQuotient_roundBits negative hp hlow ha hhigh
  obtain ⟨e', m', h', heq', hm'⟩ := ofQuotient_roundBits negative hp hlow ha' hhigh
  rw [heq, heq']
  -- equal results have the same bits, and finite values are determined by these
  constructor
  · intro hsame
    injection hsame with _ he hm''
    subst he hm''
    exact Nat.eq_of_mul_eq_mul_right (Nat.two_pow_pos F.offset) (by rw [← hm, hm'])
  · intro hbits
    exact finite_ext hp (by rw [hm, hm', hbits])

/-- An integer goes by way of a wide format to the nearest number of a narrow one, unless it slips
across the middle between two of them. -/
theorem convert_ofInt_eq_iff {n : ℤ} (hp : 0 < G.precision) (hbits : G.precision + 2 ≤ F.precision)
    (hF : F.precision ≤ F.offset + 1) (hG : G.precision ≤ G.offset + 1) (hn : n.natAbs ≤ 2 ^ b)
    (hF' : F.offset + b + 1 ≤ F.top) (hG' : G.offset + b + 1 ≤ G.top) :
    (ofInt n : Binary F).convert G = ofInt n ↔ ¬ SlipsAcross G.precision F.precision n.natAbs := by
  obtain ⟨e, m, h, heq, hm⟩ := ofQuotient_roundBits (decide (n < 0)) (by omega) hF hn hF'
  -- the double is exact, so narrowing it rounds the bits that the first step kept
  have hfirst : (ofInt n : Binary F).convert G =
      ofQuotient (decide (n < 0)) (roundBits F.precision n.natAbs) 1 := by
    rw [ofInt, heq, convert, magnitude, hm,
      ← ofQuotient_mul_mul _ _ Nat.one_pos (Nat.two_pow_pos F.offset), Nat.one_mul]
  rw [hfirst, ofInt, ofQuotient_eq_iff hp hG (roundBits_le (by omega) hn) hn hG',
    roundBits_roundBits_eq_iff hp hbits]

end Binary

end Membrane
