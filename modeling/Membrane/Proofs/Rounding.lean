import Membrane.Number.Binary

/-!
# Numbers that need no rounding

A number of a format is the only one of its magnitude and sign, so `ofQuotient` finds it again from
any quotient that denotes it exactly. Integers that fit the precision are numbers of the format, and
so are, in a wider format, all numbers of a narrower one.

## Key results

- `ofQuotient_of_eq`: an exact quotient gives the number it denotes
- `ofInt_of_whole?`: a whole number, apart from negative zero, is found again from its integer
- `whole?_ofInt`: an integer that fits the precision is found again from its number
- `convert_convert`: a number comes back from a wider format
-/

namespace Membrane

/-- An exact quotient is not rounded. -/
theorem roundHalfEven_mul (n : Nat) {den : Nat} (hden : 0 < den) :
    roundHalfEven (n * den) den = n := by
  have hquotient : n * den / den = n := Nat.mul_div_cancel n hden
  have hremainder : n * den % den = 0 := Nat.mul_mod_left n den
  simp only [roundHalfEven, hquotient, hremainder]
  rw [if_pos (by omega)]

namespace FloatFormat

variable {F : FloatFormat} {exponent significand : Nat}

/-- The exponent of a canonical number is read off its magnitude. -/
theorem Canonical.exponent_eq (h : F.Canonical exponent significand)
    (hprecision : 0 < F.precision) :
    Nat.log2 (significand * 2 ^ exponent) + 1 - F.precision = exponent := by
  obtain ⟨-, hlt, hleast | hleading⟩ := h
  · subst hleast
    rw [Nat.pow_zero, Nat.mul_one]
    by_cases hzero : significand = 0
    · subst hzero
      rw [Nat.log2_zero]
      omega
    · have hlog := (Nat.log2_lt hzero).2 hlt
      omega
  · -- the leading bit stands at `precision - 1`, and the exponent moves it up
    have hpos : 0 < 2 ^ (F.precision - 1) := Nat.two_pow_pos _
    have hexponent : 0 < 2 ^ exponent := Nat.two_pow_pos _
    have hne : significand * 2 ^ exponent ≠ 0 :=
      Nat.ne_of_gt (Nat.mul_pos (Nat.lt_of_lt_of_le hpos hleading) hexponent)
    have hlow : 2 ^ (F.precision - 1 + exponent) ≤ significand * 2 ^ exponent := by
      rw [Nat.pow_add]
      exact Nat.mul_le_mul_right _ hleading
    have hhigh : significand * 2 ^ exponent < 2 ^ (F.precision - 1 + exponent + 1) := by
      rw [show F.precision - 1 + exponent + 1 = F.precision + exponent by omega, Nat.pow_add]
      exact Nat.mul_lt_mul_of_pos_right hlt hexponent
    rw [(Nat.log2_eq_iff hne).2 ⟨hlow, hhigh⟩]
    omega

end FloatFormat

namespace Binary

variable {F : FloatFormat}

/-- A quotient that denotes a number of the format is not rounded. -/
theorem ofQuotient_of_eq (negative : Bool) {num den exponent significand : Nat}
    (hprecision : 0 < F.precision) (h : F.Canonical exponent significand) (hden : 0 < den)
    (heq : num * 2 ^ F.offset = significand * 2 ^ exponent * den) :
    ofQuotient negative num den = .finite negative exponent significand h := by
  have hwhole : significand * 2 ^ exponent * den / den = significand * 2 ^ exponent :=
    Nat.mul_div_cancel _ hden
  have hscaled : significand * 2 ^ exponent * den = significand * (den * 2 ^ exponent) := by
    rw [Nat.mul_assoc, Nat.mul_comm (2 ^ exponent) den]
  have hround : roundHalfEven (significand * (den * 2 ^ exponent)) (den * 2 ^ exponent) =
      significand := roundHalfEven_mul _ (Nat.mul_pos hden (Nat.two_pow_pos _))
  -- the exponent is that of the number, and nothing is left to round at it
  simp only [ofQuotient, heq, hwhole, h.exponent_eq hprecision]
  rw [hscaled, hround, pack_of_canonical negative h]

/-- The sign does not change the magnitude. -/
theorem natAbs_signed (negative : Bool) (n : Nat) : (signed negative n).natAbs = n := by
  cases negative <;> simp [signed]

/-- A sign is read off every integer but zero. -/
theorem signed_lt_zero (negative : Bool) {n : Nat} (hn : n = 0 → negative = false) :
    decide (signed negative n < 0) = negative := by
  cases negative with
  | false => simp [signed]
  | true =>
    have hpos : n ≠ 0 := fun h => absurd (hn h) (by simp)
    simp only [signed, if_true, decide_eq_true_eq]
    omega

/-- A whole number is found again from its integer, unless it is negative zero. -/
theorem ofInt_of_whole? (hprecision : 0 < F.precision) {x : Binary F} {n : Int}
    (hwhole : x.whole? = some n) (hzero : x.isNegativeZero = false) : ofInt n = x := by
  unfold whole? at hwhole
  split at hwhole
  · next hexact =>
    cases x with
    | nan => simp [isFinite] at hexact
    | infinite negative => simp [isFinite] at hexact
    | finite negative exponent significand h =>
      obtain rfl := Option.some.inj hwhole
      simp only [isFinite, magnitude, Bool.true_and, beq_iff_eq] at hexact
      have hmul : significand * 2 ^ exponent / 2 ^ F.offset * 2 ^ F.offset =
          significand * 2 ^ exponent := Nat.div_mul_cancel (Nat.dvd_of_mod_eq_zero hexact)
      -- only zero loses its sign in an integer
      have hsign : significand * 2 ^ exponent / 2 ^ F.offset = 0 → negative = false := by
        intro hdiv
        rw [hdiv, Nat.zero_mul] at hmul
        simpa [isNegativeZero, isZero, isFinite, isNegative, magnitude, ← hmul] using hzero
      have hnegative := signed_lt_zero negative hsign
      show ofInt (signed negative (significand * 2 ^ exponent / 2 ^ F.offset)) = _
      rw [ofInt, hnegative, natAbs_signed]
      exact ofQuotient_of_eq negative hprecision h Nat.one_pos (by rw [hmul, Nat.mul_one])
  · cases hwhole

end Binary

/-! ### Exact integers and wider formats -/

namespace FloatFormat

variable {F : FloatFormat}

/-- The integer needs no more bits than the format has, or is the power of two behind those. -/
def Holds (F : FloatFormat) (n : Int) : Prop := n.natAbs ≤ 2 ^ F.precision

/-- A comparison decides it. -/
instance (F : FloatFormat) (n : Int) : Decidable (F.Holds n) := inferInstanceAs (Decidable (_ ≤ _))

/-- A natural number of at most `precision` bits, and the power behind it, is a number of the format
at any scale that leaves room for its leading bit. -/
theorem exists_canonical {n k : Nat} (hprecision : 0 < F.precision) (hn : n ≤ 2 ^ F.precision)
    (hlow : F.precision ≤ k + 1) (hhigh : k + 1 ≤ F.top) :
    ∃ exponent significand, F.Canonical exponent significand ∧
      significand * 2 ^ exponent = n * 2 ^ k := by
  obtain rfl | hlt := Nat.eq_or_lt_of_le hn
  · -- the power itself has one bit too many, and is half of it at the next exponent
    refine ⟨k + 1, 2 ^ (F.precision - 1), ⟨hhigh, ?_, .inr (Nat.le_refl _)⟩, ?_⟩
    · exact Nat.pow_lt_pow_right (by omega) (by omega)
    · rw [← Nat.pow_add, ← Nat.pow_add]
      congr 1
      omega
  · by_cases hzero : n = 0
    · subst hzero
      exact ⟨0, 0, ⟨Nat.zero_le _, Nat.two_pow_pos _, .inl rfl⟩, by simp⟩
    · -- the significand is shifted until its leading bit is in place
      have hlog : Nat.log2 n < F.precision := (Nat.log2_lt hzero).2 hlt
      obtain ⟨shift, hshift⟩ : ∃ shift, Nat.log2 n + shift = F.precision - 1 :=
        ⟨_, Nat.add_sub_of_le (by omega)⟩
      have hleading : 2 ^ (F.precision - 1) ≤ n * 2 ^ shift := by
        rw [← hshift, Nat.pow_add]
        exact Nat.mul_le_mul_right _ (Nat.log2_self_le hzero)
      have hfits : n * 2 ^ shift < 2 ^ F.precision := by
        rw [show F.precision = Nat.log2 n + 1 + shift by omega, Nat.pow_add]
        exact Nat.mul_lt_mul_of_pos_right Nat.lt_log2_self (Nat.two_pow_pos _)
      refine ⟨k - shift, n * 2 ^ shift, ⟨by omega, hfits, .inr hleading⟩, ?_⟩
      rw [Nat.mul_assoc, ← Nat.pow_add, show shift + (k - shift) = k by omega]

end FloatFormat

namespace Binary

variable {F G : FloatFormat}

/-- A whole value is rounded to itself. -/
theorem nearestInt?_of_whole? {x : Binary F} {n : Int} (h : x.whole? = some n) :
    x.nearestInt? = some n := by
  unfold whole? at h
  split at h
  · next hexact =>
    simp only [Bool.and_eq_true, beq_iff_eq] at hexact
    have hmagnitude : x.magnitude / 2 ^ F.offset * 2 ^ F.offset = x.magnitude :=
      Nat.div_mul_cancel (Nat.dvd_of_mod_eq_zero hexact.2)
    have hround := roundHalfEven_mul (x.magnitude / 2 ^ F.offset) (Nat.two_pow_pos F.offset)
    rw [hmagnitude] at hround
    rw [nearestInt?, if_pos hexact.1, hround]
    exact h
  · cases h

/-- An integer that the format holds is not rounded. -/
theorem whole?_ofInt {n : Int} (hprecision : 0 < F.precision) (hlow : F.precision ≤ F.offset + 1)
    (hhigh : F.offset + 1 ≤ F.top) (hn : F.Holds n) :
    (ofInt n : Binary F).whole? = some n ∧ (ofInt n : Binary F).isNegativeZero = false := by
  obtain ⟨exponent, significand, hcanonical, heq⟩ :=
    FloatFormat.exists_canonical hprecision hn hlow hhigh
  have hint : (ofInt n : Binary F) = .finite (n < 0) exponent significand hcanonical :=
    ofQuotient_of_eq _ hprecision hcanonical Nat.one_pos (by rw [heq, Nat.mul_one])
  have hunit : 0 < 2 ^ F.offset := Nat.two_pow_pos _
  have hmod : n.natAbs * 2 ^ F.offset % 2 ^ F.offset = 0 := Nat.mul_mod_left _ _
  have hdiv : n.natAbs * 2 ^ F.offset / 2 ^ F.offset = n.natAbs := Nat.mul_div_cancel _ hunit
  constructor
  · -- the sign of the integer is split off and put back
    have hsigned : signed (decide (n < 0)) n.natAbs = n := by
      unfold signed
      split
      · next hneg => have := of_decide_eq_true hneg; omega
      · next hneg => have : ¬ n < 0 := fun h => hneg (decide_eq_true h); omega
    simp only [whole?, hint, isFinite, magnitude, isNegative, heq, hmod, hdiv, hsigned]
    rfl
  · -- zero is no negative integer
    simp only [isNegativeZero, isZero, hint, isFinite, magnitude, isNegative, heq]
    by_cases hzero : n = 0
    · subst hzero
      simp
    · have hne : n.natAbs * 2 ^ F.offset ≠ 0 := Nat.mul_ne_zero (by omega) (Nat.ne_of_gt hunit)
      simp [hne]

end Binary

/-- Every number of `F` is one of `G`, whose unit is `2 ^ gap` times smaller. -/
structure FloatFormat.Widens (F G : FloatFormat) (gap : Nat) : Prop where
  offset : G.offset = F.offset + gap
  precision : 0 < F.precision ∧ F.precision ≤ G.precision ∧ G.precision ≤ gap + 1
  top : F.top + gap + 1 ≤ G.top

/-- Every single is a double, 925 exponents further up. -/
theorem FloatFormat.single_widens_double : single.Widens double 925 :=
  ⟨rfl, by decide, by decide⟩

namespace Binary

variable {F G : FloatFormat} {gap : Nat}

/-- A number is not rounded on its way to a wider format. -/
theorem convert_finite (h : F.Widens G gap) (negative : Bool) {exponent significand : Nat}
    (hcanonical : F.Canonical exponent significand) :
    ∃ exponent' significand' hcanonical',
      convert G (.finite negative exponent significand hcanonical) =
        .finite negative exponent' significand' hcanonical' ∧
      significand' * 2 ^ exponent' = significand * 2 ^ exponent * 2 ^ gap := by
  obtain ⟨hoffset, ⟨hpos, hle, hgap⟩, htop⟩ := h
  -- the significand fits, as the wider format has more bits
  have hbits : significand ≤ 2 ^ G.precision :=
    Nat.le_trans (Nat.le_of_lt hcanonical.2.1) (Nat.pow_le_pow_right (by omega) hle)
  have hexponent : exponent ≤ F.top := hcanonical.1
  obtain ⟨exponent', significand', hcanonical', heq⟩ :=
    FloatFormat.exists_canonical (F := G) (k := exponent + gap) (by omega) hbits (by omega)
      (by omega)
  rw [Nat.pow_add, ← Nat.mul_assoc] at heq
  refine ⟨exponent', significand', hcanonical', ?_, heq⟩
  refine ofQuotient_of_eq negative (by omega) hcanonical' (Nat.two_pow_pos _) ?_
  rw [heq, hoffset, magnitude, Nat.mul_assoc _ (2 ^ gap), ← Nat.pow_add, Nat.add_comm gap]

/-- A number comes back from a wider format. -/
theorem convert_convert (h : F.Widens G gap) (x : Binary F) : (x.convert G).convert F = x := by
  cases x with
  | nan => rfl
  | infinite negative => rfl
  | finite negative exponent significand hcanonical =>
    obtain ⟨exponent', significand', hcanonical', hconvert, heq⟩ :=
      convert_finite h negative hcanonical
    rw [hconvert]
    refine ofQuotient_of_eq negative h.precision.1 hcanonical (Nat.two_pow_pos _) ?_
    rw [magnitude, heq, h.offset, Nat.mul_assoc, ← Nat.pow_add, Nat.add_comm gap]

/-- The wider number is as large as the other, counted in smaller units. -/
theorem magnitude_convert (h : F.Widens G gap) (x : Binary F) :
    (x.convert G).magnitude = x.magnitude * 2 ^ gap ∧ (x.convert G).isFinite = x.isFinite ∧
      (x.convert G).isNegative = x.isNegative := by
  -- only a finite value has a magnitude to keep
  cases x with
  | nan => exact ⟨(Nat.zero_mul _).symm, rfl, rfl⟩
  | infinite negative => exact ⟨(Nat.zero_mul _).symm, rfl, rfl⟩
  | finite negative exponent significand hcanonical =>
    obtain ⟨exponent', significand', hcanonical', hconvert, heq⟩ :=
      convert_finite h negative hcanonical
    rw [hconvert]
    exact ⟨heq, rfl, rfl⟩

/-- The scale is not zero. -/
private theorem scaled_beq_zero (n gap : Nat) : (n * 2 ^ gap == 0) = (n == 0) := by
  rw [Bool.eq_iff_iff, beq_iff_eq, beq_iff_eq, Nat.mul_eq_zero]
  exact or_iff_left (Nat.ne_of_gt (Nat.two_pow_pos gap))

/-- A wider format keeps whole values. -/
theorem whole?_convert (h : F.Widens G gap) (x : Binary F) : (x.convert G).whole? = x.whole? := by
  obtain ⟨hmagnitude, hfinite, hnegative⟩ := magnitude_convert h x
  have hgap : 0 < 2 ^ gap := Nat.two_pow_pos _
  have hmod : (x.magnitude * 2 ^ gap % (2 ^ F.offset * 2 ^ gap) == 0) =
      (x.magnitude % 2 ^ F.offset == 0) := by
    rw [Nat.mul_mod_mul_right, scaled_beq_zero]
  simp only [whole?, hmagnitude, hfinite, hnegative, h.offset, Nat.pow_add, hmod,
    Nat.mul_div_mul_right _ _ hgap]

/-- And the negative zero. -/
theorem isNegativeZero_convert (h : F.Widens G gap) (x : Binary F) :
    (x.convert G).isNegativeZero = x.isNegativeZero := by
  obtain ⟨hmagnitude, hfinite, hnegative⟩ := magnitude_convert h x
  simp only [isNegativeZero, isZero, hmagnitude, hfinite, hnegative, scaled_beq_zero]

/-- A number of the narrow format is not too large for it. -/
theorem tooLargeFor_convert (h : F.Widens G gap) (x : Binary F) :
    (x.convert G).tooLargeFor F = false := by
  obtain ⟨hmagnitude, hfinite, -⟩ := magnitude_convert h x
  have hlargest : x.magnitude ≤ F.largest := by
    cases x with
    | finite negative exponent significand hcanonical =>
      obtain ⟨hexponent, hlt, -⟩ := hcanonical
      exact Nat.mul_le_mul (by omega) (Nat.pow_le_pow_right (by omega) hexponent)
    | _ => exact Nat.zero_le _
  -- both sides are scaled alike, so the bound of the narrow format is met
  have hle : x.magnitude * 2 ^ gap * 2 ^ F.offset ≤ F.largest * 2 ^ G.offset := by
    rw [h.offset, Nat.add_comm, Nat.pow_add, ← Nat.mul_assoc]
    exact Nat.mul_le_mul_right _ (Nat.mul_le_mul_right _ hlargest)
  simp only [tooLargeFor, hmagnitude, hfinite, Nat.not_lt.2 hle]
  simp

end Binary

end Membrane
