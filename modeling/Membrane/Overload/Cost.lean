import Membrane.Conversion.ToHost

/-! # Conversion costs

The cost of passing a script value to a parameter, from nothing for an exact match to ten for a value
that is boxed as `object`. Without a cost the value cannot be passed.
-/

namespace Membrane

/-- The cost of converting an argument. -/
abbrev Cost := Nat

namespace Cost

/-- No conversion is needed. -/
def exact : Cost := 0
/-- The parameter takes script values as they are. -/
def scriptValue : Cost := 1
/-- A whole number to a constant of an enumeration. -/
def enumeration : Cost := 2
/-- An integer to a wider kind. -/
def widening : Cost := 3
/-- An integer to a floating kind. -/
def intToFloat : Cost := 4
/-- A number to a narrower or unsigned kind or to bool, a double to float. -/
def narrowing : Cost := 5
/-- A fractional number to an integer kind. -/
def floatToInt : Cost := 6
/-- An instance to a base or interface, null to a reference type. -/
def referenceCast : Cost := 7
/-- A number or bool as a text. -/
def toText : Cost := 8
/-- A text read as a number, bool or constant. -/
def parse : Cost := 9
/-- Anything as `object`. -/
def toObject : Cost := 10

/-- The cost of passing a number to a primitive parameter. -/
def ofNumber (whole : Bool) : PrimitiveKind → Cost
  | .integer .int32 => if whole then exact else floatToInt
  | .integer .int64 => if whole then widening else floatToInt
  | .integer _ => if whole then narrowing else floatToInt
  | .double => if whole then intToFloat else exact
  | .float => if whole then intToFloat else narrowing
  | .bool => narrowing

end Cost

namespace Store

/-- The cost of passing a script value to a parameter of a type; `none` if it cannot be passed. -/
def cost? (s : Store) (types : Registry) (arg : ScriptValue) (type : TypeId) : Option Cost :=
  let boxed := if type == .object then some Cost.toObject else none
  if type == .scriptValue then some Cost.scriptValue
  else match arg with
    | .undefined => none
    | .null => if types.isValueType type then none else some Cost.referenceCast
    | .boolean _ =>
        match types.primitiveKind? type with
        | some .bool => some Cost.exact
        | some _ => some Cost.narrowing
        | none => if type == .string then some Cost.toText else boxed
    | .string _ =>
        if type == .string then some Cost.exact
        else if (types.primitiveKind? type).isSome || types.isEnumeration type then
          some Cost.parse
        else boxed
    | .number x =>
        match types.primitiveKind? type with
        | some kind => some (Cost.ofNumber x.isWhole kind)
        | none =>
            if types.isEnumeration type then (if x.isWhole then some Cost.enumeration else none)
            else if type == .string then some Cost.toText
            else boxed
    | .object id =>
        match s.sort? id with
        | some (.array _) => if type == .array then some Cost.exact else boxed
        -- an instance passed as `object` is boxed, although its type is assignable
        | some (.wrapper ref) =>
            if ref.type == type then some Cost.exact
            else if boxed.isSome then boxed
            else if types.isAssignable ref.type type then some Cost.referenceCast
            else none
        | _ => boxed

end Store

end Membrane
