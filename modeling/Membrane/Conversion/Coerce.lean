import Membrane.HostType.Registry
import Membrane.Number.Decimal
import Membrane.Number.Shortest
import Membrane.Text.Blank

/-! # Coercion of host values

`Registry.coerce` brings a host value to a declared type. The first rule that applies decides:

* undefined is refused, and null is kept for types that are not value types;
* a value whose type is assignable to the target is kept;
* nothing else becomes a script value;
* a bool, number, constant or text becomes a primitive, with its range checked;
* a whole number becomes a constant of an enumeration;
* a bool or number becomes a text.
-/

namespace Membrane

/-- A value on its way to a primitive kind: exact, or a floating number. -/
inductive Numeric where
  | int (n : Int)
  | real (x : Double)
  deriving DecidableEq

/-- Equality of texts without regard to the case of ASCII letters. -/
def equalIgnoringCase (s t : List Char) : Bool := s.map Char.toLower == t.map Char.toLower

namespace Conversion

/-- The least integer that intermediate results can hold. -/
def widestLow : Int := -(1 <<< 127 : Nat)

/-- The greatest integer that intermediate results can hold. -/
def widestHigh : Int := (1 <<< 127 : Nat) - 1

/-- Brings an integer into the range of intermediate results. -/
def clamp (n : Int) : Int := max widestLow (min n widestHigh)

/-- Reads a text as a value for a primitive kind; blanks around it do not count. -/
def readNumeric (text : String) (kind : PrimitiveKind) : Except ConversionError Numeric :=
  let body := trimBlanks text.toList
  let failure : Except ConversionError Numeric := .error (.parse text kind.name)
  match kind with
  | .bool =>
      if equalIgnoringCase body "true".toList then .ok (.int 1)
      else if equalIgnoringCase body "false".toList then .ok (.int 0)
      else failure
  | .integer _ =>
      match readInteger? body with
      | some n => if widestLow ≤ n ∧ n ≤ widestHigh then .ok (.int n) else failure
      | none => failure
  | .float | .double =>
      match (Binary.read? body : Option Double) with
      | some x => .ok (.real x)
      | none => failure

/-- The number in a value, if there is one for the primitive kind. -/
def numeric? (v : HostValue) (kind : PrimitiveKind) : Option (Except ConversionError Numeric) :=
  match v with
  | .bool b => some (.ok (.int (if b then 1 else 0)))
  | .float x => some (.ok (.real (x.convert .double)))
  | .double x => some (.ok (.real x))
  | .string s => some (readNumeric s kind)
  | v => v.asInt?.map fun n => .ok (.int n)

/-- An integer as a member of an integer kind, refused when it is out of range. -/
def narrow (k : IntegerKind) (n : Int) : Except ConversionError HostValue :=
  match Sized.ofInt? n with
  | some m => .ok (.integer k m)
  | none => .error (.overflow (toString n) k.name)

/-- A number as a value of a primitive kind. A floating number goes to the nearest integer, a half
to the even neighbour, and to the nearest single number if it is not beyond the largest. -/
def ofNumeric (kind : PrimitiveKind) (n : Numeric) : Except ConversionError HostValue :=
  match kind, n with
  | .bool, .int n => .ok (.bool (n != 0))
  | .bool, .real x => .ok (.bool (!x.isZero))
  | .float, .int n => .ok (.float (.ofInt n))
  | .float, .real x =>
      if x.tooLargeFor .single then .error (.overflow (x.text .plain) kind.name)
      else .ok (.float (x.convert .single))
  | .double, .int n => .ok (.double (.ofInt n))
  | .double, .real x => .ok (.double x)
  | .integer k, .int n => narrow k n
  | .integer k, .real x =>
      -- the clamp shows only in the text of the refusal: no kind reaches so far
      match x.nearestInt? with
      | some n => narrow k (clamp n)
      | none => .error (.overflow (x.text .plain) kind.name)

/-- The integer in a value, also in a floating number without fractional part. -/
def integral? (v : HostValue) : Option Int :=
  match v.asInt? with
  | some n => some n
  | none => (v.asDouble?.bind Binary.whole?).map clamp

/-- The text of a bool or number. -/
def format? : HostValue → Option String
  | .bool b => some (if b then "True" else "False")
  | .float x => some (x.text .plain)
  | .double x => some (x.text .plain)
  | v => v.asInt?.map toString

end Conversion

open Conversion in
/-- A host value at a declared type. -/
def Registry.coerce (types : Registry) (v : HostValue) (target : TypeId) :
    Except ConversionError HostValue :=
  let refusal : Except ConversionError HostValue :=
    .error (.incompatible (types.shapeName v) (types.name target))
  match v with
  | .undefined => refusal
  | .null => if types.isValueType target then refusal else .ok .null
  | v =>
    if v.runtimeType?.any (types.isAssignable · target) then .ok v
    else if target == .scriptValue then refusal
    else match types.kind target with
      | .primitive kind =>
          match numeric? v kind with
          | some (.ok n) => ofNumeric kind n
          | some (.error e) => .error e
          | none => refusal
      | .declared .enumeration =>
          match integral? v with
          | some n =>
              match Sized.ofInt? n with
              | some m => .ok (.constant target m)
              | none => .error (.overflow (toString n) (types.name target))
          | none => refusal
      -- instances, sequences and types were kept above if they fit the target
      | .declared _ =>
          if target == .string then
            match format? v with
            | some s => .ok (.string s)
            | none => refusal
          else refusal

end Membrane
