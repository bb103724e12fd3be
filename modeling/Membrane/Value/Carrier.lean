import Membrane.Value.Host

/-! # Carrier types of typed members

A typed accessor works on host variables of one *carrier* type: an integer of some kind, a floating
number, a bool, a text, any host or script value, an optional carrier or a list of carriers.
`Carrier.Rep` is the type of its variables, `hostType` the host type that it declares, and `wrap`
makes a host value of a variable.
-/

namespace Membrane

/-- The carrier types of typed accessors. -/
inductive Carrier where
  | integer (k : IntegerKind)
  | float
  | double
  | bool
  | string
  | host
  | script
  | optional (c : Carrier)
  | list (c : Carrier)
  deriving DecidableEq, Repr

namespace Carrier

/-- The variables of a carrier type. -/
@[reducible] def Rep : Carrier → Type
  | .integer k => Sized k
  | .float => Single
  | .double => Double
  | .bool => Bool
  | .string => String
  | .host => HostValue
  | .script => ScriptValue
  | .optional c => Option (Rep c)
  | .list c => List (Rep c)

/-- The host type that a member with this carrier declares. -/
def hostType : Carrier → TypeId
  | .integer k => .integer k
  | .float => .primitive .float
  | .double => .primitive .double
  | .bool => .primitive .bool
  | .string => .string
  | .host => .object
  | .script => .scriptValue
  | .optional c => hostType c
  | .list _ => .array

/-- The name by which a failed extraction calls the carrier. -/
def name : Carrier → String
  | .integer k => k.variableName
  | .float => "float"
  | .double => "double"
  | .bool => "bool"
  | .string => "string"
  | .host => "object"
  | .script => "ScriptValue"
  | .optional c => name c
  | .list _ => "Array"

/-- The value of a variable that was never set. -/
def default : (c : Carrier) → c.Rep
  | .integer _ => .zero
  | .float => .zero
  | .double => .zero
  | .bool => false
  | .string => ""
  | .host => .undefined
  | .script => .undefined
  | .optional _ => none
  | .list _ => []

/-- A variable as a host value. An absent optional is null; a list declares the element type of its
carrier. -/
def wrap : (c : Carrier) → c.Rep → HostValue
  | .integer k, n => .integer k n
  | .float, x => .float x
  | .double, x => .double x
  | .bool, b => .bool b
  | .string, s => .string s
  | .host, v => v
  | .script, v => .script v
  | .optional c, some r => wrap c r
  | .optional _, none => .null
  | .list c, rs => .array c.hostType (rs.map (wrap c))

end Carrier

end Membrane
