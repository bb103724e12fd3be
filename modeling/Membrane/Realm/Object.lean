import Membrane.Realm.Own

/-! # Objects: reading, writing, deleting, defining

What can be done with the properties of an object. Reading goes up the prototype chain; writing,
deleting and defining concern the object alone. Arrays treat their length and their elements apart
from their other properties, and wrappers and type references keep the state of every host name in
its slot: a deleted name is bound to a plain value by the next write, and never again to the host.
-/

namespace Membrane.Realm

/-- The descriptor of an own property. -/
def own {ε : Type} (R : Realm) (id : ObjectId) (name : String) : Action ε (Option Handle) :=
  Action.state (R.toEngine.ownProperty · id name)

/-- The descriptor of an own property that is not marked as absent. -/
def present {ε : Type} (R : Realm) (id : ObjectId) (name : String) : Action ε (Option Handle) := do
  return (← R.own id name).filter (!·.descriptor.isAbsent)

/-- Reads a property of the first object that has it. -/
def getFrom (R : Realm) (name : String) : List ObjectId → Action BridgeError ScriptValue
  | [] => pure .undefined
  | id :: rest => do
      match ← R.present id name with
      | some h => R.read h.descriptor
      | none => getFrom R name rest

/-- Reads a property, of the object itself or of a prototype. -/
def get (R : Realm) (id : ObjectId) (name : String) : Action BridgeError ScriptValue := do
  let s ← Action.getStore
  R.getFrom name (s.heap.chain id)

/-- A write to a property may go ahead. -/
def canPut {ε : Type} (R : Realm) (id : ObjectId) (name : String) : Action ε Bool := do
  match ← R.present id name with
  | some h => return h.descriptor.isWritable
  | none => return true

/-- Writes through a descriptor; if that is not writable the write fails under `strict` and is
ignored otherwise. -/
def putThrough (R : Realm) (h : Handle) (name : String) (value : ScriptValue) (strict : Bool) :
    Action BridgeError Unit :=
  if h.descriptor.isWritable then do
    let _ ← R.writeThrough h value
  else if strict then Action.throw (.invocation (.readOnly name))
  else pure ()

/-- Puts a plain value into a slot. -/
def setPlain {ε : Type} (id : ObjectId) (key : String) (value : ScriptValue) : Action ε Unit :=
  Action.modify (·.modifySlots id (·.setLive key (.plain value)))

/-- Writes a property of an ordinary object: an unknown name gets a plain slot. -/
def ordinaryPut (R : Realm) (id : ObjectId) (name : String) (value : ScriptValue)
    (strict : Bool) : Action BridgeError Unit := do
  match ← R.present id name with
  | some h => R.putThrough h name value strict
  | none => setPlain id name value

/-- Writes to what was found under a name of a wrapper or type reference; an unknown name gets a
plain slot only when the engine is expando. -/
def putFound (R : Realm) (id : ObjectId) (name : String) (value : ScriptValue) (strict : Bool) :
    Option Handle → Action BridgeError Unit
  | some h => R.putThrough h name value strict
  | none =>
      if strict then Action.throw (.invocation (.unknownMember name))
      else if R.options.expando then setPlain id (Name.normalize name) value
      else pure ()

/-- Writes a property of a wrapper or type reference: a deleted name gets a plain slot. -/
def hostPut (R : Realm) (id : ObjectId) (name : String) (value : ScriptValue) (strict : Bool) :
    Action BridgeError Unit := do
  let key := Name.normalize name
  let s ← Action.getStore
  -- before the name is resolved again: what was deleted never gets back to the host
  if (s.slots id).isDeleted key then setPlain id key value
  else
    let found ← R.present id name
    R.putFound id name value strict found

/-- Elements brought to a length: cut off, or filled up with undefined. -/
def resize (elements : Array ScriptValue) (size : Nat) : Array ScriptValue :=
  if size ≤ elements.size then elements.take size
  else elements ++ Array.replicate (size - elements.size) .undefined

/-- An array of these elements cannot grow to this length: there is no room for so many values. -/
def lacksRoom (elements : Array ScriptValue) (size : Nat) : Bool :=
  elements.size < size && roomForValues < size

/-- Brings an array to a length. -/
def setLength {ε : Type} (id : ObjectId) (elements : Array ScriptValue) (size : Nat) :
    Action ε Unit :=
  if lacksRoom elements size then Action.panic .capacityOverflow
  else Action.modify (·.setElements id (resize elements size))

/-- Writes a property of an array: whole lengths resize it, elements beyond the end extend it. -/
def arrayPut (R : Realm) (id : ObjectId) (elements : Array ScriptValue) (name : String)
    (value : ScriptValue) (strict : Bool) : Action BridgeError Unit :=
  if name == "length" then
    match value.length? with
    | some size => setLength id elements size
    -- other lengths are ignored, under `strict` as well
    | none => pure ()
  else match Name.index? name with
    | some i =>
        let room := if elements.size ≤ i then resize elements (i + 1) else elements
        Action.modify (·.setElements id (room.setIfInBounds i value))
    | none => R.ordinaryPut id name value strict

/-- Writes a property. Under `strict` a failed write is an error. -/
def put (R : Realm) (id : ObjectId) (name : String) (value : ScriptValue) (strict : Bool) :
    Action BridgeError Unit := do
  let s ← Action.getStore
  match s.sort? id with
  | some (.array elements) => R.arrayPut id elements name value strict
  | some (.wrapper _) | some (.typeReference _) => R.hostPut id name value strict
  | _ => R.ordinaryPut id name value strict

/-- Deletes a property of an ordinary object, unless it is permanent. -/
def ordinaryDelete (R : Realm) (id : ObjectId) (name : String) (strict : Bool) :
    Action BridgeError Bool := do
  match ← R.own id name with
  | none => return true
  | some h =>
      if h.descriptor.isAbsent || h.descriptor.isConfigurable then
        Action.modify (·.modifySlots id (·.remove name))
        return true
      else if strict then Action.throw (.invocation (.notConfigurable name))
      else return false

/-- Deletes a property. Elements of arrays become undefined, their length stays; on wrappers and
type references every delete succeeds, and is remembered. -/
def delete (R : Realm) (id : ObjectId) (name : String) (strict : Bool) :
    Action BridgeError Bool := do
  let s ← Action.getStore
  match s.sort? id with
  | some (.array elements) =>
      if name == "length" then return false
      else match Name.index? name with
        | some i =>
            Action.modify (·.setElements id (elements.setIfInBounds i .undefined))
            return true
        | none => R.ordinaryDelete id name strict
  | some (.wrapper _) | some (.typeReference _) =>
      Action.modify (·.modifySlots id (·.markDeleted (Name.normalize name)))
      return true
  | _ => R.ordinaryDelete id name strict

/-- Installs a descriptor in the slot of exactly this name; type references refuse. -/
def define (R : Realm) (id : ObjectId) (name : String) (d : Descriptor) :
    Action BridgeError Bool := do
  let s ← Action.getStore
  match s.sort? id with
  | some (.typeReference type) =>
      Action.throw (.invocation (.defineOnTypeReference (R.types.name type) name))
  | _ =>
      Action.modify (·.modifySlots id (·.setLive name d))
      return true

/-- `value` has the object in the callee's property `prototype` among its prototypes. -/
def ordinaryHasInstance (R : Realm) (callee : ObjectId) (value : ScriptValue) :
    Action BridgeError Bool := do
  let s ← Action.getStore
  if !s.isCallable callee then
    Action.throw (.invocation (.notCallable (s.className R.types callee)))
  else match value with
    | .object id =>
        match ← R.get callee "prototype" with
        | .object prototype =>
            let s ← Action.getStore
            return (s.heap.chain id).tail.contains prototype
        | _ => return false
    | _ => return false

/-- `value` is an instance of the callee. For a type reference an instance of exactly that type is
one, too; an instance of a derived type is not. -/
def hasInstance (R : Realm) (callee : ObjectId) (value : ScriptValue) :
    Action BridgeError Bool := do
  let s ← Action.getStore
  match s.referencedType? callee, value.object?.bind s.hostTarget? with
  | some type, some ref =>
      if ref.type == type then return true else R.ordinaryHasInstance callee value
  | _, _ => R.ordinaryHasInstance callee value

end Membrane.Realm
