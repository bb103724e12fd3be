/-! # Primitive kinds

The built-in bool and number kinds of the host side. Integer kinds have a width and a sign, from
which their range follows; `Sized k` is an integer within the range of `k`.

Main statements: a sized integer is known by its value (`Sized.ext_val`), and `Sized.ofInt?` gives
exactly the integers in range (`Sized.ofInt?_eq_some_iff`, `Sized.ofInt?_eq_none_iff`).
-/

namespace Membrane

/-- The eight integer kinds. -/
inductive IntegerKind where
  | int8 | int16 | int32 | int64 | uint8 | uint16 | uint32 | uint64
  deriving DecidableEq, Repr

namespace IntegerKind

/-- All integer kinds, the signed ones first. -/
def all : List IntegerKind := [.int8, .int16, .int32, .int64, .uint8, .uint16, .uint32, .uint64]

/-- The name of the kind as a host type. -/
def name : IntegerKind → String
  | .int8 => "int8" | .int16 => "int16" | .int32 => "int" | .int64 => "int64"
  | .uint8 => "uint8" | .uint16 => "uint16" | .uint32 => "uint" | .uint64 => "uint64"

/-- The name of the kind as the type of a host variable. -/
def variableName : IntegerKind → String
  | .int8 => "i8" | .int16 => "i16" | .int32 => "i32" | .int64 => "i64"
  | .uint8 => "u8" | .uint16 => "u16" | .uint32 => "u32" | .uint64 => "u64"

/-- Width in bytes. -/
def size : IntegerKind → Nat
  | .int8 | .uint8 => 1
  | .int16 | .uint16 => 2
  | .int32 | .uint32 => 4
  | .int64 | .uint64 => 8

/-- The least integer of the kind. -/
def lowest : IntegerKind → Int
  | .int8 => -128 | .int16 => -32768 | .int32 => -2147483648 | .int64 => -9223372036854775808
  | .uint8 | .uint16 | .uint32 | .uint64 => 0

/-- The greatest integer of the kind. -/
def highest : IntegerKind → Int
  | .int8 => 127 | .int16 => 32767 | .int32 => 2147483647 | .int64 => 9223372036854775807
  | .uint8 => 255 | .uint16 => 65535 | .uint32 => 4294967295 | .uint64 => 18446744073709551615

/-- The range of the kind. -/
def InRange (k : IntegerKind) (n : Int) : Prop := k.lowest ≤ n ∧ n ≤ k.highest

instance (k : IntegerKind) (n : Int) : Decidable (k.InRange n) :=
  inferInstanceAs (Decidable (_ ∧ _))

/-- Every kind has a zero. -/
theorem inRange_zero (k : IntegerKind) : k.InRange 0 := by cases k <;> decide

end IntegerKind

/-- An integer in the range of the kind `k`. -/
structure Sized (k : IntegerKind) where
  val : Int
  inRange : k.InRange val
  deriving DecidableEq

namespace Sized

variable {k : IntegerKind}

def zero : Sized k := ⟨0, k.inRange_zero⟩

/-- The integer as a member of the kind, if it is in range. -/
def ofInt? (n : Int) : Option (Sized k) := if h : k.InRange n then some ⟨n, h⟩ else none

/-- Integers of a kind are equal when their values are. -/
theorem ext_val {m n : Sized k} (h : m.val = n.val) : m = n := by
  cases m; cases n
  simp_all

/-- The value of an integer is in its range. -/
theorem ofInt?_val (n : Sized k) : ofInt? n.val = some n := by
  simp [ofInt?, n.inRange]

/-- An integer of the kind is the one with its value. -/
theorem ofInt?_eq_some_iff {i : Int} {n : Sized k} : ofInt? i = some n ↔ n.val = i := by
  constructor
  · intro h
    unfold ofInt? at h
    split at h
    · rw [← Option.some.inj h]
    · exact absurd h (by simp)
  · intro h
    rw [← h]
    exact ofInt?_val n

/-- Only what is out of range is no integer of the kind. -/
theorem ofInt?_eq_none_iff {i : Int} : (ofInt? i : Option (Sized k)) = none ↔ ¬ k.InRange i := by
  unfold ofInt?
  split <;> simp_all

end Sized

/-- The built-in bool and number kinds. -/
inductive PrimitiveKind where
  | bool
  | integer (k : IntegerKind)
  | float
  | double
  deriving DecidableEq, Repr

namespace PrimitiveKind

/-- All primitive kinds, in declaration order. -/
def all : List PrimitiveKind := .bool :: IntegerKind.all.map .integer ++ [.float, .double]

/-- The name of the kind as a host type. -/
def name : PrimitiveKind → String
  | .bool => "bool"
  | .integer k => k.name
  | .float => "float"
  | .double => "double"

/-- True of every kind except bool. -/
def isNumeric : PrimitiveKind → Bool
  | .bool => false
  | _ => true

def isInteger : PrimitiveKind → Bool
  | .integer _ => true
  | _ => false

def isFloating : PrimitiveKind → Bool
  | .float | .double => true
  | _ => false

/-- Width in bytes. -/
def size : PrimitiveKind → Nat
  | .bool => 1
  | .integer k => k.size
  | .float => 4
  | .double => 8

end PrimitiveKind

end Membrane
