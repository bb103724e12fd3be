import Membrane.HostType.Id
import Membrane.Value.Script

/-! # Host values

The values of the host side. `undefined` stands for the script value undefined and is never a host
null; `script` carries a script value through the host side untouched.
-/

namespace Membrane

/-- A handle to a host instance together with the instance's exact type. -/
structure HostRef where
  type : TypeId
  id : Nat
  deriving DecidableEq, Repr

/-- A value of the host side. -/
inductive HostValue where
  | undefined
  | null
  | bool (b : Bool)
  | integer (k : IntegerKind) (n : Sized k)
  | float (x : Single)
  | double (x : Double)
  | string (s : String)
  /-- A constant of an enumeration type. -/
  | constant (type : TypeId) (n : Sized .int64)
  | object (ref : HostRef)
  /-- A sequence with a declared element type. -/
  | array (elementType : TypeId) (items : List HostValue)
  /-- A host type itself. -/
  | hostType (id : TypeId)
  | script (v : ScriptValue)

namespace HostValue

instance : Inhabited HostValue := ⟨.undefined⟩

def isUndefined : HostValue → Bool
  | .undefined => true
  | _ => false

def isNull : HostValue → Bool
  | .null => true
  | _ => false

/-- The kind of a bool or number. -/
def primitiveKind? : HostValue → Option PrimitiveKind
  | .bool _ => some .bool
  | .integer k _ => some (.integer k)
  | .float _ => some .float
  | .double _ => some .double
  | _ => none

/-- The exact type of a value; undefined and null have none. -/
def runtimeType? : HostValue → Option TypeId
  | .undefined | .null => none
  | .bool _ => some (.primitive .bool)
  | .integer k _ => some (.integer k)
  | .float _ => some (.primitive .float)
  | .double _ => some (.primitive .double)
  | .string _ => some .string
  | .constant type _ => some type
  | .object ref => some ref.type
  | .array .. => some .array
  | .hostType _ => some .object
  | .script _ => some .scriptValue

/-- The integer in an integer or an enumeration constant. -/
def asInt? : HostValue → Option Int
  | .integer _ n => some n.val
  | .constant _ n => some n.val
  | _ => none

/-- The number in an integer, a floating value or an enumeration constant. -/
def asDouble? : HostValue → Option Double
  | .float x => some (x.convert .double)
  | .double x => some x
  | v => v.asInt?.map Binary.ofInt

/-- An integer of the kind `k`, if `n` is in range. -/
def ofInt? (k : IntegerKind) (n : Int) : Option HostValue := (Sized.ofInt? n).map (.integer k)

/-- The zero or false of a primitive kind. -/
def zeroOf : PrimitiveKind → HostValue
  | .bool => .bool false
  | .integer k => .integer k .zero
  | .float => .float .zero
  | .double => .double .zero

mutual

/-- Equality of values: floating values as numbers, instances by identity, sequences element by
element, script values strictly. -/
def equal : HostValue → HostValue → Bool
  | .undefined, .undefined | .null, .null => true
  | .bool a, .bool b => a == b
  | .integer k a, .integer l b => k == l && a.val == b.val
  | .float x, .float y => x.equal y
  | .double x, .double y => x.equal y
  | .string a, .string b => a == b
  | .constant s a, .constant t b => s == t && a == b
  | .object a, .object b => a.id == b.id
  | .array s xs, .array t ys => s == t && equalAll xs ys
  | .hostType s, .hostType t => s == t
  | .script v, .script w => v.equal w
  | _, _ => false

/-- Equality of sequences, element by element. -/
def equalAll : List HostValue → List HostValue → Bool
  | [], [] => true
  | x :: xs, y :: ys => equal x y && equalAll xs ys
  | _, _ => false

end

end HostValue

/-- Values with a common element type. -/
structure HostSequence where
  elementType : TypeId
  items : List HostValue

namespace HostSequence

/-- A sequence without an element type of its own. -/
def untyped (items : List HostValue) : HostSequence := ⟨.object, items⟩

/-- The element type is more specific than `object`. -/
def isTyped (s : HostSequence) : Bool := s.elementType != .object

/-- The sequence as a value. -/
def toValue (s : HostSequence) : HostValue := .array s.elementType s.items

end HostSequence

end Membrane
