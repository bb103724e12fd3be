import Membrane.Number.Binary

/-! # Shortest decimal form of a binary number

Among the decimals that round to a given number, `Binary.shortest` picks one with the fewest
digits, and among those the nearest. It walks down the decimal grids `10 ^ k`, from one that is
coarser than the number, and on each grid tests the number's two neighbours for membership in the
interval of values that round to the number.

`FloatText` collects the choices that the written form leaves open, and `Binary.text` writes a
number positionally, never with an exponent.
-/

namespace Membrane

/-- The value `digits · 10 ^ exponent`. -/
structure Decimal where
  digits : Nat
  exponent : Int
  deriving DecidableEq, Repr

/-- The interval of values that round to a finite number, in units of `1 / unit`. -/
structure RoundingInterval where
  low : Nat
  value : Nat
  high : Nat
  unit : Nat
  /-- The end points belong to the interval. -/
  closed : Bool

namespace RoundingInterval

/-- The interval around `significand · 2 ^ (exponent - offset)`. Below a power of two the
neighbour is nearer, unless the exponent is the least one; the ends round to the number when its
significand is even. -/
def around (F : FloatFormat) (exponent significand : Nat) : RoundingInterval where
  low := (4 * significand -
    if significand = 2 ^ (F.precision - 1) ∧ 0 < exponent then 1 else 2) * 2 ^ exponent
  value := 4 * significand * 2 ^ exponent
  high := (4 * significand + 2) * 2 ^ exponent
  unit := 4 * 2 ^ F.offset
  closed := significand % 2 == 0

/-- Membership of `n · 10 ^ k`, given as `n · den / num` scaled to the interval's unit. -/
def contains (I : RoundingInterval) (num point : Nat) : Bool :=
  if I.closed then decide (I.low * num ≤ point) && decide (point ≤ I.high * num)
  else decide (I.low * num < point) && decide (point < I.high * num)

/-- The nearer of the value's two neighbours on the grid `10 ^ k` that lie in the interval; of two
equally near ones the upper if `tiesUp`. -/
def onGrid? (I : RoundingInterval) (tiesUp : Bool) (k : Int) : Option Decimal :=
  -- one of `num` and `step` carries the power of ten, so that everything stays a natural number
  let num := 10 ^ (-k).toNat
  let step := I.unit * 10 ^ k.toNat
  let n := I.value * num / step
  let down := n != 0 && I.contains num (n * step)
  let up := I.contains num ((n + 1) * step)
  let below := I.value * num - n * step
  let above := (n + 1) * step - I.value * num
  let upper := up && (!down || decide (above < below) || (tiesUp && above == below))
  if upper then some ⟨n + 1, k⟩ else if down then some ⟨n, k⟩ else none

/-- The exponent of a power of ten that is not below the value. -/
def coarse (I : RoundingInterval) : Int :=
  if I.unit ≤ I.value then (Nat.toDigits 10 (I.value / I.unit)).length
  else 1 - ((Nat.toDigits 10 (I.unit / I.value)).length : Int)

end RoundingInterval

/-- The choices of a written form: how the special values are spelled, and which of two equally
near shortest decimals is taken. -/
structure FloatText where
  nan : String
  infinity : String
  tiesUp : Bool

/-- Floating values are written with `NaN` and `inf`, and of two equally near shortest decimals the
upper one is taken. -/
def FloatText.plain : FloatText := ⟨"NaN", "inf", true⟩

/-- The digits of a decimal with a point where one is needed: `120`, `1.5`, `0.002`. -/
def Decimal.positional (d : Decimal) : String :=
  let digits := Nat.toDigits 10 d.digits
  if 0 ≤ d.exponent then String.ofList (digits ++ List.replicate d.exponent.toNat '0')
  else
    let places := (-d.exponent).toNat
    let padded := List.replicate (places + 1 - digits.length) '0' ++ digits
    let cut := padded.length - places
    String.ofList (padded.take cut ++ '.' :: padded.drop cut)

namespace Binary

variable {F : FloatFormat}

/-- The shortest decimal that rounds to the magnitude of a finite number. Seventeen digits always
suffice for the formats in use, so the search over twenty grids ends with a hit. -/
def shortest (style : FloatText) (exponent significand : Nat) : Decimal :=
  let I := RoundingInterval.around F exponent significand
  -- on the first grid the upper neighbour is the power of ten itself
  let first := I.coarse
  ((List.range 20).findSome? fun i : Nat => I.onGrid? style.tiesUp (first - (i : Int))).getD ⟨0, 0⟩

/-- The written form of a number. -/
def text (style : FloatText) : Binary F → String
  | .nan => style.nan
  | .infinite negative => (if negative then "-" else "") ++ style.infinity
  | .finite negative exponent significand _ =>
      (if negative then "-" else "") ++
        if significand = 0 then "0"
        else (shortest (F := F) style exponent significand).positional

end Binary

end Membrane
