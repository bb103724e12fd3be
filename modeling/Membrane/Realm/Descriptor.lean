import Membrane.Overload.Dispatch

/-! # Reading and writing descriptors

`Realm.read` reads what stands in a slot and `Realm.write` writes to it. A write can change the
descriptor itself (a value, or the shadow of a property), so `write` gives the new descriptor, and
`writeThrough` puts it back into the slot it came from, unless host code has put something else
there in the meantime.

A field refuses a value that cannot be converted to its type. A property keeps such a value as its
shadow and leaves the host as it is.

What a shared descriptor keeps in a cell is read and written there.
-/

namespace Membrane

/-- A descriptor and the slot it stands in; descriptors that are made on request stand in none. -/
structure Handle where
  descriptor : Descriptor
  home : Option (ObjectId × String)

namespace Realm

/-- The number of elements of an instance; zero if its type does not count. -/
def countOf (R : Realm) (target : HostRef) : Action HostError Nat :=
  match (R.types.entry? target.type).bind (·.count) with
  | some count => R.run (count target)
  | none => pure 0

/-- The key of an indexed element at the indexer's key type. -/
def indexKey (R : Realm) (member : Indexer) (key : String) : Except ConversionError HostValue :=
  R.types.coerce (.string key) member.keyType

/-- Reads an indexed element; a missing key reads as undefined. -/
def readIndexed (R : Realm) (get : Action HostError HostValue) : Action BridgeError ScriptValue :=
  do
    match ← (Action.contained get).capture with
    | .ok v => R.fromHost v
    | .error (.keyNotFound _) => return .undefined
    | .error e => Action.throw (.host e)

/-- Reads a property, or the shadow that hides it. -/
def readProperty (R : Realm) (member : Property) (target : Option HostRef) :
    Option ScriptValue → Action BridgeError ScriptValue
  | some shadow => pure shadow
  | none =>
      match member.get with
      | none => pure .undefined
      | some get => do
          let v ← guarded (R.run (get target))
          R.fromHost v

/-- Reads what stands in a slot. -/
def read (R : Realm) : Descriptor → Action BridgeError ScriptValue
  | .data value _ => pure value
  | .accessor get _ => R.run get
  | .count target => do
      let n ← guarded (R.countOf target)
      return .number (.ofInt n)
  | .absent => pure .undefined
  | .field member target => do
      let v ← guarded (R.run (member.get target))
      R.fromHost v
  | .property member target shadow => R.readProperty member target shadow
  | .sharedData cell _ => do
      let s ← Action.getStore
      return (s.heap.cell cell).getD .undefined
  | .sharedProperty member target cell => do
      let s ← Action.getStore
      R.readProperty member target (s.heap.cell cell)
  | .index member target key =>
      match member.get, R.indexKey member key with
      | some get, .ok k => R.readIndexed (R.run (get target k))
      | _, _ => pure .undefined

/-- Writes to a property, and gives the shadow that hides it afterwards. -/
def writeProperty (R : Realm) (member : Property) (target : Option HostRef)
    (shadow : Option ScriptValue) (value : ScriptValue) :
    Action BridgeError (Option ScriptValue) :=
  match member.set with
  | none => pure shadow
  | some set => do
      match ← (R.convertTo value member.type).capture with
      -- a refusal by the host itself is an error, and leaves the shadow as it was
      | .ok v =>
          guarded (R.run (set target v))
          return none
      | .error _ => return some value

/-- Writes to a slot, and gives the descriptor that stands there afterwards. -/
def write (R : Realm) (d : Descriptor) (value : ScriptValue) : Action BridgeError Descriptor :=
  match d with
  | .data _ flags => pure (.data value flags)
  | .accessor .. | .count _ | .absent => pure d
  | .field member target =>
      match member.set with
      | none => pure d
      | some set => do
          let v ← (R.convertTo value member.type).mapError .conversion
          guarded (R.run (set target v))
          return d
  | .property member target shadow => do
      let shadow ← R.writeProperty member target shadow value
      return .property member target shadow
  | .sharedData cell _ => do
      Action.modify (·.setCell cell (some value))
      return d
  | .sharedProperty member target cell => do
      let s ← Action.getStore
      let shadow ← R.writeProperty member target (s.heap.cell cell) value
      Action.modify (·.setCell cell shadow)
      return d
  | .index member target key =>
      match member.set with
      | none => pure d
      | some set => do
          let k ← Action.ofExcept ((R.indexKey member key).mapError .conversion)
          let v ← (R.convertTo value member.valueType).mapError .conversion
          guarded (R.run (set target k v))
          return d

end Realm

namespace Store

/-- Puts a descriptor back into its slot, if one of the same sort still stands there. -/
def putBack (s : Store) (id : ObjectId) (key : String) (d : Descriptor) : Store :=
  match (s.slots id).get? key with
  | some old => if old.sameSort d then s.modifySlots id (·.setLive key d) else s
  | none => s

end Store

namespace Realm

/-- Writes to a descriptor and puts the outcome back into its slot. -/
def writeThrough (R : Realm) (h : Handle) (value : ScriptValue) : Action BridgeError Handle := do
  let d ← R.write h.descriptor value
  match h.home with
  | some (id, key) => Action.modify (·.putBack id key d)
  | none => pure ()
  return { h with descriptor := d }

end Realm

end Membrane
