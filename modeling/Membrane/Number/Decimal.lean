import Membrane.Number.Binary

/-! # Reading decimal numbers

Two readers of numbers in text. `readInteger?` takes an optional sign and one or more digits.
`Binary.read?` takes an optional sign followed by one of the words `inf`, `infinity` and `nan` (in
any letter case), or by digits with an optional point and an optional exponent, where at least one
digit stands before or after the point; the value is rounded once, from its exact quotient.
-/

namespace Membrane

/-- The value of a run of decimal digits. -/
def digitsValue (digits : List Char) : Nat :=
  digits.foldl (fun n c => n * 10 + (c.toNat - '0'.toNat)) 0

/-- An optional sign, and whether it was a minus. -/
def splitSign : List Char → Bool × List Char
  | '-' :: rest => (true, rest)
  | '+' :: rest => (false, rest)
  | rest => (false, rest)

/-- One or more digits and nothing else. -/
def isDigits (text : List Char) : Bool := !text.isEmpty && text.all Char.isDigit

/-- An optional sign followed by one or more digits. -/
def readInteger? (text : List Char) : Option Int :=
  let (negative, digits) := splitSign text
  if isDigits digits then some (signed negative (digitsValue digits)) else none

/-- A decimal point and the digits after it, if the text goes on with a point. -/
def splitFraction : List Char → List Char × List Char
  | '.' :: rest => (rest.takeWhile Char.isDigit, rest.dropWhile Char.isDigit)
  | rest => ([], rest)

/-- The exponent at the end of a number: nothing, or the letter `e` and an integer. -/
def readExponent? : List Char → Option Int
  | [] => some 0
  | c :: rest => if c = 'e' ∨ c = 'E' then readInteger? rest else none

/-- Digits around an optional point, and an exponent: the pair `(digits, exponent)` of the value
`digits · 10 ^ exponent`. -/
def readScientific? (text : List Char) : Option (Nat × Int) :=
  let before := text.takeWhile Char.isDigit
  let (after, tail) := splitFraction (text.dropWhile Char.isDigit)
  if before.isEmpty && after.isEmpty then none
  else (readExponent? tail).map fun exponent =>
    (digitsValue (before ++ after), exponent - after.length)

namespace Binary

variable {F : FloatFormat}

/-- The number nearest to `± digits · 10 ^ exponent`. Decimals that are far out of the format's
range are settled by their number of digits: above `10 ^ (top + precision)` lies no finite number,
and what is below `10 ^ -(offset + 1)` is nearest to zero. -/
def ofDecimal (negative : Bool) (digits : Nat) (exponent : Int) : Binary F :=
  -- the value lies below `10 ^ leading` and not below `10 ^ (leading - 1)`
  let leading : Int := (Nat.toDigits 10 digits).length + exponent
  if digits = 0 then pack negative 0 0
  else if (F.top + F.precision : Int) < leading then .infinite negative
  else if leading < -(F.offset + 1 : Int) then pack negative 0 0
  else ofQuotient negative (digits * 10 ^ exponent.toNat) (10 ^ (-exponent).toNat)

/-- Reads a number in the grammar of this module. -/
def read? (text : List Char) : Option (Binary F) :=
  let (negative, body) := splitSign text
  let word := body.map Char.toLower
  if word = "inf".toList ∨ word = "infinity".toList then some (.infinite negative)
  else if word = "nan".toList then some .nan
  else (readScientific? body).map fun (digits, exponent) => ofDecimal negative digits exponent

end Binary

end Membrane
