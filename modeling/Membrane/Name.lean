import Membrane.Number.Decimal
import Membrane.Text.LetterCase

/-! # Member names

Members are found by name without regard to letter case: a declared name and a requested name are
both brought to a *key* by `Name.normalize`. Names that spell a natural number below `2 ^ 32` are
*index names*; they address elements and never name a member.
-/

namespace Membrane.Name

/-- The key of a name: its lower-cased form. A name without any upper-case character is already its
own key. -/
def normalize (name : String) : String :=
  if name.toList.any LetterCase.isUppercase then LetterCase.lowercase name else name

/-- The number that a name spells: digits, with an optional plus sign, below `2 ^ 32`. -/
def index? (name : String) : Option Nat :=
  let digits := match name.toList with
    | '+' :: rest => rest
    | digits => digits
  if isDigits digits && decide (digitsValue digits < 1 <<< 32) then some (digitsValue digits)
  else none

/-- A name that spells an index. -/
def isIndex (name : String) : Bool := (index? name).isSome

/-- The name of the length of sequences spells no number. -/
theorem beq_length_of_index? {name : String} {i : Nat} (h : index? name = some i) :
    (name == "length") = false := by
  refine beq_eq_false_iff_ne.mpr ?_
  rintro rfl
  cases h

end Membrane.Name
