import Membrane.TextMap
import Membrane.Value.Host

/-! # Instance storage

What a host instance holds: named slots, a list of items and a dictionary. The *layout* is the name
of the storage type; a member is registered for one layout and refuses an instance with another.
-/

namespace Membrane

/-- The contents of a host instance. -/
structure Storage where
  layout : String
  slots : TextMap HostValue
  items : List HostValue
  dict : TextMap HostValue

/-- The empty storage of a layout. -/
def Storage.empty (layout : String) : Storage := ⟨layout, ∅, [], ∅⟩

/-- How a call holds an instance: any number of calls may share it, one may hold it alone. -/
inductive BorrowMode where
  | shared
  | exclusive
  deriving DecidableEq, Repr

end Membrane
