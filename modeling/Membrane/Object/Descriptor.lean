import Membrane.Member.Resolution

/-! # Property descriptors

What stands in a slot of an object: a plain value, a script getter, the element count of an
instance, the mark of an absent property, or the binding of a host member to an instance.

The binding of a property can be *shadowed*: a value that could not be converted to the property's
type is kept and read back until the next successful write.

One descriptor can stand in several slots. Then it is *shared* (`Descriptor.sharedIn`): what a write
changes of it, the value or the shadow, is kept in a cell of the heap, and the slots hold the number
of the cell. The other descriptors are never changed by a write, so nothing is seen of how many slots
they stand in.
-/

namespace Membrane

/-- What stands in a slot. -/
inductive Descriptor where
  /-- A value. -/
  | data (value : ScriptValue) (flags : Flags)
  /-- A value that is computed on every read, and is never written. -/
  | accessor (get : Program .script) (flags : Flags)
  /-- The number of elements of an instance, read-only. -/
  | count (target : HostRef)
  /-- There is no such property: reads give undefined, and writes are ignored. -/
  | absent
  | field (member : Field) (target : Option HostRef)
  | property (member : Property) (target : Option HostRef) (shadow : Option ScriptValue)
  /-- A value in a cell. -/
  | sharedData (cell : Nat) (flags : Flags)
  /-- The binding of a property with the shadow in a cell. -/
  | sharedProperty (member : Property) (target : Option HostRef) (cell : Nat)
  /-- The element of an instance at a key, spelled as the script spelled it. -/
  | index (member : Indexer) (target : HostRef) (key : String)

namespace Descriptor

/-- A writable, visible and removable value. -/
def plain (value : ScriptValue) : Descriptor := .data value .all

/-- What may be done with the property. -/
def flags : Descriptor → Flags
  | .data _ flags | .sharedData _ flags => flags
  -- a getter is never writable, whatever it was made with
  | .accessor _ flags => { flags with writable := false }
  | .count _ => .none
  | .absent => .none
  | .field member _ => .member member.isWritable
  | .property member .. | .sharedProperty member .. => .member member.isWritable
  | .index member .. => .member member.isWritable

def isAbsent : Descriptor → Bool
  | .absent => true
  | _ => false

def isWritable (d : Descriptor) : Bool := d.flags.writable

def isConfigurable (d : Descriptor) : Bool := d.flags.configurable

/-- A descriptor that a write can change, as it is once a cell keeps what the write changes, and what
the cell holds at first. -/
def sharedIn (cell : Nat) : Descriptor → Option (Descriptor × Option ScriptValue)
  | .data value flags => if flags.writable then some (.sharedData cell flags, some value) else none
  | .property member target shadow =>
      if member.isWritable then some (.sharedProperty member target cell, shadow) else none
  | _ => none

/-- A script value hides the host property, in a descriptor that is not shared. -/
def isShadowed : Descriptor → Bool
  | .property _ _ shadow => shadow.isSome
  | _ => false

/-- Both are values, or both are bindings of a property: the two sorts that a write changes. -/
def sameSort : Descriptor → Descriptor → Bool
  | .data .., .data .. => true
  | .property .., .property .. => true
  | _, _ => false

end Descriptor

end Membrane
