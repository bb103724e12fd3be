/-! # Binary floating-point numbers

`Binary F` is the type of numbers of a binary floating format `F`: not-a-number, the two
infinities, and finite numbers `± significand · 2 ^ (exponent - offset)` in canonical form, so that
each number has exactly one representation and the two zeros differ only in their sign.

All arithmetic is exact. A finite number is read as its *magnitude*, a natural number of units
`2 ^ -offset`, and everything else (whole parts, comparisons, rounding to another format) is
arithmetic on magnitudes. `ofQuotient` is the only place where a value is rounded into a format.

Main statement: `pack`, which carries a full significand into the exponent, leaves canonical parts
as they are (`pack_of_canonical`).
-/

namespace Membrane

/-- Powers of natural numbers are those of the core library, whatever else is in scope. -/
scoped instance (priority := high) corePow : Pow Nat Nat := instPowNat

/-- A binary floating format: significands below `2 ^ precision`, and exponents from `-offset` to
`top - offset`. -/
structure FloatFormat where
  /-- Number of significand bits. -/
  precision : Nat
  /-- The least exponent is `-offset`. -/
  offset : Nat
  /-- Number of exponents above the least one. -/
  top : Nat
  deriving DecidableEq, Repr

namespace FloatFormat

/-- The 64-bit format. -/
@[reducible] def double : FloatFormat := ⟨53, 1074, 2045⟩

/-- The 32-bit format. -/
@[reducible] def single : FloatFormat := ⟨24, 149, 253⟩

/-- The exponent is in range, the significand fits, and it has a leading bit unless the exponent is
the least one. -/
def Canonical (F : FloatFormat) (exponent significand : Nat) : Prop :=
  exponent ≤ F.top ∧ significand < 2 ^ F.precision ∧
    (exponent = 0 ∨ 2 ^ (F.precision - 1) ≤ significand)

instance (F : FloatFormat) (exponent significand : Nat) :
    Decidable (F.Canonical exponent significand) :=
  inferInstanceAs (Decidable (_ ∧ _ ∧ _))

/-- One unit of the exponent field in an encoded number. -/
def binade (F : FloatFormat) : Nat := 2 ^ (F.precision - 1)

/-- The largest finite magnitude, in units of `2 ^ -offset`. -/
def largest (F : FloatFormat) : Nat := (2 ^ F.precision - 1) * 2 ^ F.top

end FloatFormat

/-- A number of the binary floating format `F`. -/
inductive Binary (F : FloatFormat) where
  | nan
  | infinite (negative : Bool)
  | finite (negative : Bool) (exponent significand : Nat)
      (canonical : F.Canonical exponent significand)
  deriving DecidableEq

/-- A number of the 64-bit format. -/
abbrev Double := Binary .double

/-- A number of the 32-bit format. -/
abbrev Single := Binary .single

/-- The quotient of `num` by `den`, rounded to the nearest natural number; a half goes to the even
neighbour. -/
def roundHalfEven (num den : Nat) : Nat :=
  let quotient := num / den
  let remainder := num % den
  if 2 * remainder < den then quotient
  else if den < 2 * remainder then quotient + 1
  else if quotient % 2 = 0 then quotient
  else quotient + 1

/-- Puts a sign on a natural number. -/
def signed (negative : Bool) (n : Nat) : Int := if negative then -(n : Int) else (n : Int)

namespace Binary

variable {F : FloatFormat}

/-- The number `± significand · 2 ^ (exponent - offset)` for a significand of at most
`2 ^ precision`; a full significand carries into the exponent, and an exponent above the top gives
an infinity. -/
def pack (negative : Bool) (exponent significand : Nat) : Binary F :=
  if h : F.Canonical exponent significand then .finite negative exponent significand h
  else if h : F.Canonical (exponent + 1) (2 ^ (F.precision - 1)) then
    .finite negative (exponent + 1) (2 ^ (F.precision - 1)) h
  else .infinite negative

/-- What is canonical is packed as it stands. -/
theorem pack_of_canonical (negative : Bool) {exponent significand : Nat}
    (h : F.Canonical exponent significand) :
    pack negative exponent significand = .finite negative exponent significand h := by
  simp [pack, h]

/-- The number of `F` nearest to `± num / den`; a tie goes to the even significand, and what is
beyond the largest finite number becomes an infinity. -/
def ofQuotient (negative : Bool) (num den : Nat) : Binary F :=
  let scaled := num * 2 ^ F.offset
  -- the bits of the whole part beyond the precision are rounded away; a value with fewer bits
  -- keeps the least exponent, and its fraction is rounded away
  let exponent := Nat.log2 (scaled / den) + 1 - F.precision
  pack negative exponent (roundHalfEven scaled (den * 2 ^ exponent))

/-- The number of `F` nearest to an integer. -/
def ofInt (n : Int) : Binary F := ofQuotient (n < 0) n.natAbs 1

/-- Positive zero. -/
def zero : Binary F := pack false 0 0

/-- The magnitude of a finite number, in units of `2 ^ -offset`; zero for the others. -/
def magnitude : Binary F → Nat
  | .finite _ exponent significand _ => significand * 2 ^ exponent
  | _ => 0

/-- The sign bit; not-a-number counts as positive. -/
def isNegative : Binary F → Bool
  | .nan => false
  | .infinite negative => negative
  | .finite negative .. => negative

def isNaN : Binary F → Bool
  | .nan => true
  | _ => false

def isFinite : Binary F → Bool
  | .finite .. => true
  | _ => false

/-- True of both zeros. -/
def isZero (x : Binary F) : Bool := x.isFinite && x.magnitude == 0

/-- True of negative zero alone. -/
def isNegativeZero (x : Binary F) : Bool := x.isZero && x.isNegative

/-- The integer that a finite number without fractional part denotes. -/
def whole? (x : Binary F) : Option Int :=
  if x.isFinite && x.magnitude % 2 ^ F.offset == 0 then
    some (signed x.isNegative (x.magnitude / 2 ^ F.offset))
  else none

/-- A finite number without fractional part. -/
def isWhole (x : Binary F) : Bool := x.whole?.isSome

/-- The integer nearest to a finite number, a half going to the even neighbour. -/
def nearestInt? (x : Binary F) : Option Int :=
  if x.isFinite then some (signed x.isNegative (roundHalfEven x.magnitude (2 ^ F.offset)))
  else none

/-- The whole part of a positive finite number; zero for every other number. -/
def positivePart (x : Binary F) : Nat :=
  if x.isNegative then 0 else x.magnitude / 2 ^ F.offset

/-- A finite number above a natural number. -/
def exceeds (x : Binary F) (n : Nat) : Bool :=
  x.isFinite && !x.isNegative && decide (n * 2 ^ F.offset < x.magnitude)

/-- Numeric equality: not-a-number differs from itself, and the two zeros are equal. -/
def equal (x y : Binary F) : Bool :=
  !x.isNaN && (x == y || (x.isZero && y.isZero))

/-- The number of the format `G` nearest to a number of the format `F`. -/
def convert (G : FloatFormat) : Binary F → Binary G
  | .nan => .nan
  | .infinite negative => .infinite negative
  | x@(.finite negative ..) => ofQuotient negative x.magnitude (2 ^ F.offset)

/-- A finite number of `F` whose magnitude is above the largest finite number of `G`. -/
def tooLargeFor (G : FloatFormat) (x : Binary F) : Bool :=
  x.isFinite && decide (G.largest * 2 ^ F.offset < x.magnitude * 2 ^ G.offset)

/-! ### Encoded form -/

/-- The interchange encoding, as a natural number; one fixed quiet code stands for
not-a-number. -/
def toBits : Binary F → Nat
  | .nan => (F.top + 2) * F.binade + F.binade / 2
  | .infinite negative =>
      (if negative then (F.top + 3) * F.binade else 0) + (F.top + 2) * F.binade
  | .finite negative exponent significand _ =>
      (if negative then (F.top + 3) * F.binade else 0) + exponent * F.binade + significand

/-- Reads the interchange encoding; every not-a-number code gives `nan`. -/
def ofBits (code : Nat) : Binary F :=
  let signUnit := (F.top + 3) * F.binade
  let negative := code / signUnit % 2 == 1
  let body := code % signUnit
  -- exponent field zero: no leading bit is implied
  if body < F.binade then pack negative 0 body
  else if body < (F.top + 2) * F.binade then
    pack negative (body / F.binade - 1) (body % F.binade + F.binade)
  else if body = (F.top + 2) * F.binade then .infinite negative
  else .nan

end Binary

end Membrane
