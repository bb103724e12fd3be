import Membrane.Hash.XXH64

/-! # Type and signature hashes

A `TypeHash` identifies a host type by its name, or a member by its owner, its name and its
parameter types. Parameter order matters: each position has its own marker, and the fold multiplies
between positions.
-/

namespace Membrane

/-- A 64-bit hash of a type name or of a member signature. -/
structure TypeHash where
  value : UInt64
  deriving DecidableEq, Repr

namespace TypeHash

/-- Separates the steps of the signature fold. -/
def separator : UInt64 := 0x4bc94d6bd06053ad

/-- Marks hashes of types. -/
def typeMark : UInt64 := 0x2fac10b63a6cc57c

/-- Marks hashes of member signatures. -/
def memberMark : UInt64 := 0x7d3c8b4a92e15f6d

/-- The markers of the first sixteen parameter positions. -/
def positionMarks : List UInt64 := [
  0x9e3779b97f4a7c15, 0xbf58476d1ce4e5b9, 0x94d049bb133111eb, 0xd6e8feb86659fd93,
  0xe7037ed1a0b428db, 0xc6a4a7935bd1e995, 0x8648dbbc94d49b8d, 0xa2b48b2c69e0d657,
  0x7c3e9f2a5b8d1403, 0x5d8c7b4a3e9f2106, 0x3f1e9d8c7b5a4203, 0x1a2b3c4d5e6f7089,
  0x9f8e7d6c5b4a3210, 0x2468ace013579bdf, 0xfdb97531eca86420, 0x123456789abcdef0]

/-- The marker of a parameter position; past the table it is the first marker plus the position. -/
def positionMark (position : Nat) : UInt64 :=
  positionMarks.getD position (0x9e3779b97f4a7c15 + UInt64.ofNat position)

/-- The hash that stands for no type. -/
def empty : TypeHash := ⟨0⟩

def isEmpty (h : TypeHash) : Bool := h.value == 0

/-- The hash of a type name. -/
def ofName (name : String) : TypeHash := ⟨typeMark ^^^ XXH64.hashText name⟩

/-- One step of the signature fold. -/
def mixParameter (acc : UInt64) (position : Nat) (parameter : TypeHash) : UInt64 :=
  acc * separator + (positionMark position ^^^ parameter.value)

/-- Folds parameter hashes into `acc`, the first of them at `position`. -/
def mixParameters (acc : UInt64) (position : Nat) : List TypeHash → UInt64
  | [] => acc
  | p :: rest => mixParameters (mixParameter acc position p) (position + 1) rest

/-- The signature hash for a name that is hashed already. -/
def ofHashedName (owner : TypeHash) (name : UInt64) (parameters : List TypeHash) : TypeHash :=
  ⟨mixParameters (memberMark ^^^ owner.value ^^^ name) 0 parameters⟩

/-- The hash of a member signature. -/
def ofSignature (owner : TypeHash) (name : String) (parameters : List TypeHash) : TypeHash :=
  ofHashedName owner (XXH64.hashText name) parameters

/-- Sixteen hexadecimal digits after `0x`. -/
def display (h : TypeHash) : String :=
  let digits := Nat.toDigits 16 h.value.toNat
  "0x" ++ String.ofList (List.replicate (16 - digits.length) '0' ++ digits)

end TypeHash

end Membrane
