import Membrane.HostType.Primitive

/-! # Type identities

A host type is identified by a `TypeId`: one of the built-in types, or the position of a declared
type in its registry. Identity is the registration, not the name, so two declared types of one name
are two types. A declared type refers only to built-in types and to types declared before it;
`TypeId.rank` is the order in which the types come into being.
-/

namespace Membrane

/-- The identity of a host type. -/
inductive TypeId where
  /-- The universal base. -/
  | object
  /-- The base of primitive, enumeration and value types. -/
  | valueType
  | primitive (kind : PrimitiveKind)
  | string
  /-- The runtime type of every host sequence, whatever its element type. -/
  | array
  /-- The script values themselves. -/
  | scriptValue
  | declared (index : Nat)
  deriving DecidableEq, Repr

namespace TypeId

/-- The host type of an integer kind. -/
@[match_pattern] abbrev integer (k : IntegerKind) : TypeId := .primitive (.integer k)

/-- Built-in types in the order of their hierarchy, then declared types by position. -/
def rank : TypeId → Nat
  | .object => 0
  | .valueType | .string | .array | .scriptValue => 1
  | .primitive _ => 2
  | .declared index => index + 3

/-- The built-in types. -/
def builtin : List TypeId :=
  [.object, .valueType, .string, .array, .scriptValue] ++ PrimitiveKind.all.map .primitive

/-- The name of a built-in type. -/
def builtinName? : TypeId → Option String
  | .object => some "object"
  | .valueType => some "ValueType"
  | .primitive kind => some kind.name
  | .string => some "string"
  | .array => some "Array"
  | .scriptValue => some "ScriptValue"
  | .declared _ => none

end TypeId

end Membrane
