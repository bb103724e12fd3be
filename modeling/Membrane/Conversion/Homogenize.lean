import Membrane.Conversion.Coerce

/-! # Homogeneous sequences

`Registry.homogenize` gives a sequence of host values the most specific element type that they
share. Numbers that stand alone become doubles; without a shared type below `object` the sequence
stays untyped.
-/

namespace Membrane.Registry

/-- The type of a value, and `object` for undefined and null. -/
def elementType (v : HostValue) : TypeId := v.runtimeType?.getD .object

/-- The first type on the chain of `common` that values of type `next` can stand for; value types
share no type but themselves. -/
def join (types : Registry) (common next : TypeId) : TypeId :=
  ((types.ancestry common).find? fun t =>
    t == .object || (types.isAssignable next t && t != .valueType)).getD .object

/-- The type that all values share. -/
def commonType (types : Registry) : List HostValue → TypeId
  | [] => .object
  | first :: rest => rest.foldl (fun common v => types.join common (elementType v)) (elementType first)

/-- The element type of a sequence: double for numbers alone, else the type that all share. -/
def sequenceType (types : Registry) (items : List HostValue) : TypeId :=
  if items.isEmpty then .object
  else if items.all fun v => v.primitiveKind?.any PrimitiveKind.isNumeric then .primitive .double
  else types.commonType items

/-- A sequence with its most specific element type, every element brought to it. -/
def homogenize (types : Registry) (items : List HostValue) : HostSequence :=
  let type := types.sequenceType items
  -- where interfaces derive from `object` alone every element can stand for the shared type, and
  -- then the widening to double alone changes any
  if type == .object then .untyped items
  else match items.mapM (types.coerce · type) with
    | .ok converted => ⟨type, converted⟩
    | .error _ => .untyped items

end Membrane.Registry
