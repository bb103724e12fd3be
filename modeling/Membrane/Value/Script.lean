import Membrane.Number.Binary

/-! # Script values

The values of the script side. Objects are referred to by identity: `ObjectId.created` counts the
objects in the order of their creation, and `ObjectId.bound` is the function that stands in the slot
`key` of the object `owner` for a host method, which has its identity from that slot and not from
the moment when it is first asked for.
-/

namespace Membrane

/-- The identity of a script object. -/
inductive ObjectId where
  | created (index : Nat)
  | bound (owner : Nat) (key : String)
  deriving DecidableEq, Repr

/-- A value of the script side. -/
inductive ScriptValue where
  | undefined
  | null
  | boolean (b : Bool)
  | number (x : Double)
  | string (s : String)
  | object (id : ObjectId)
  deriving DecidableEq

/-- The greatest number of values in one sequence: they take 24 bytes each, and no allocation has more
than `2 ^ 63 - 1`. -/
def roomForValues : Nat := ((1 <<< 63) - 1) / 24

namespace ScriptValue

instance : Inhabited ScriptValue := ⟨.undefined⟩

def isUndefined : ScriptValue → Bool
  | .undefined => true
  | _ => false

def isNull : ScriptValue → Bool
  | .null => true
  | _ => false

def number? : ScriptValue → Option Double
  | .number x => some x
  | _ => none

def boolean? : ScriptValue → Option Bool
  | .boolean b => some b
  | _ => none

def string? : ScriptValue → Option String
  | .string s => some s
  | _ => none

def object? : ScriptValue → Option ObjectId
  | .object id => some id
  | _ => none

/-- The number of elements that a value stands for when it is put as a length. -/
def length? (v : ScriptValue) : Option Nat :=
  match v.number?.bind Binary.whole? with
  | some (.ofNat size) => some size
  | _ => none

/-- Strict equality: numbers as numbers, objects by identity. -/
def equal : ScriptValue → ScriptValue → Bool
  | .number x, .number y => x.equal y
  | v, w => v == w

end ScriptValue

end Membrane
