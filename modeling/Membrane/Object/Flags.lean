/-! # Property attributes -/

namespace Membrane

/-- The attributes of a property slot. -/
structure Flags where
  writable : Bool
  enumerable : Bool
  configurable : Bool
  deriving DecidableEq, Repr

namespace Flags

/-- Read-only, hidden and permanent. -/
def none : Flags := ⟨false, false, false⟩

/-- Writable, enumerable and configurable. -/
def all : Flags := ⟨true, true, true⟩

/-- The attributes of a slot that a host member stands in: visible and permanent. -/
def member (writable : Bool) : Flags := ⟨writable, true, false⟩

end Flags

end Membrane
