import Membrane.HostType.Registry

/-! # Extraction of host variables

`Registry.extract` reads a host value as a variable of a carrier type. Integers are read from any
integer kind, with the range checked, but not from constants; floating numbers also from integers;
an optional variable takes null and undefined as absent; a list is read element by element.
-/

namespace Membrane

namespace Registry

/-- The refusal of a value of another shape than the carrier's. -/
def mismatch {α : Type} (types : Registry) (v : HostValue) (c : Carrier) :
    Except ConversionError α :=
  .error (.incompatible (types.shapeName v) c.name)

/-- The integer in a value that is no enumeration constant. -/
def plainInt? : HostValue → Option Int
  | .integer _ n => some n.val
  | _ => none

/-- The number in a value that is no enumeration constant. -/
def plainDouble? : HostValue → Option Double
  | .constant .. => none
  | v => v.asDouble?

/-- A host value as a variable of a carrier type. -/
def extract (types : Registry) : (c : Carrier) → HostValue → Except ConversionError c.Rep
  | .integer k, v =>
      match plainInt? v with
      | some n =>
          match Sized.ofInt? n with
          | some m => .ok m
          | none => .error (.overflow (toString n) k.name)
      | none => types.mismatch v (.integer k)
  | .float, v =>
      match v with
      | .float x => .ok x
      | v =>
          match plainDouble? v with
          | some x => .ok (x.convert .single)
          | none => types.mismatch v .float
  | .double, v =>
      match plainDouble? v with
      | some x => .ok x
      | none => types.mismatch v .double
  | .bool, v =>
      match v with
      | .bool b => .ok b
      | v => types.mismatch v .bool
  | .string, v =>
      match v with
      | .string s => .ok s
      | v => types.mismatch v .string
  | .host, v => .ok v
  | .script, v =>
      match v with
      | .script s => .ok s
      | .undefined => .ok .undefined
      | .null => .ok .null
      | v => types.mismatch v .script
  | .optional c, v =>
      match v with
      | .null | .undefined => .ok none
      | v => (extract types c v).map some
  | .list c, v =>
      match v with
      | .array _ items => items.mapM (extract types c)
      | v => types.mismatch v (.list c)

end Registry

end Membrane
