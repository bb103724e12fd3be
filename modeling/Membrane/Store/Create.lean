import Membrane.Store

/-! # Script forms of host things

New script objects: arrays, wrappers around instances, type references; and `Store.fromHost`, which
gives a host value its script form.
-/

namespace Membrane.Store

/-- A new plain object. Its prototype is an object that is there already. -/
def newObject (s : Store) (prototype : Option ObjectId) : ScriptValue × Store :=
  let (id, s) := s.create (.make .plain (prototype.filter fun p => (s.object? p).isSome))
  (.object id, s)

/-- A new script array. -/
def newArray (s : Store) (elements : List ScriptValue) : ScriptValue × Store :=
  let (id, s) := s.create (.make (.array elements.toArray) (some arrayPrototype))
  (.object id, s)

/-- A new script function. -/
def newFunction (s : Store) (name : String)
    (body : ScriptValue → List ScriptValue → Program .script) : ScriptValue × Store :=
  let (id, s) := s.create (.make (.function name body) (some functionPrototype))
  (.object id, s)

/-- The wrapper of an instance: its element count, if there is one, stands in the slot `length`. -/
def wrapperOf (types : Registry) (ref : HostRef) : ScriptObject where
  sort := .wrapper ref
  slots := if types.isCountable ref.type then SlotTable.empty.setLive "length" (.count ref)
    else .empty
  prototype := some objectPrototype

/-- A new wrapper around an instance. -/
def wrap (s : Store) (types : Registry) (ref : HostRef) : ScriptValue × Store :=
  let (id, s) := s.create (wrapperOf types ref)
  (.object id, s)

/-- A new type reference, with a new object in its permanent slot `prototype`. -/
def typeReference (s : Store) (type : TypeId) : ScriptValue × Store :=
  let (instancePrototype, s) := s.create (.make .plain (some objectPrototype))
  let (id, s) := s.create {
    sort := .typeReference type
    slots := SlotTable.empty.setLive "prototype" (.data (.object instancePrototype) .none)
    prototype := some functionPrototype }
  (.object id, s)

/-- The functions that stand for methods of one name. -/
def methodsOf (group : MethodGroup) (target : Option HostRef) : ScriptObject :=
  .make (.methods group target) (some functionPrototype)

/-- Puts the function for a method group in the slot `key` of an object, under the identity that
belongs to the slot. -/
def bindMethods (s : Store) (owner : ObjectId) (key : String) (group : MethodGroup)
    (target : Option HostRef) : ScriptValue × Store :=
  match owner with
  | .created index =>
      let id := ObjectId.bound index key
      (.object id, { s with heap := s.heap.set id (methodsOf group target) })
  | .bound .. =>
      let (id, s) := s.create (methodsOf group target)
      (.object id, s)

mutual

/-- The script form of a host value: numbers and constants as numbers, instances as wrappers,
sequences as arrays, types as type references. -/
def fromHost (types : Registry) (s : Store) : HostValue → ScriptValue × Store
  | .undefined => (.undefined, s)
  | .null => (.null, s)
  | .bool b => (.boolean b, s)
  | .integer _ n => (.number (.ofInt n.val), s)
  | .float x => (.number (x.convert .double), s)
  | .double x => (.number x, s)
  | .string text => (.string text, s)
  | .constant _ n => (.number (.ofInt n.val), s)
  | .object ref => s.wrap types ref
  | .array _ items =>
      let (elements, s) := fromHostAll types s items
      s.newArray elements
  | .hostType id => s.typeReference id
  | .script v => (v, s)

/-- The script forms of host values, in order. -/
def fromHostAll (types : Registry) (s : Store) : List HostValue → List ScriptValue × Store
  | [] => ([], s)
  | v :: rest =>
      let (first, s) := fromHost types s v
      let (others, s) := fromHostAll types s rest
      (first :: others, s)

end

end Membrane.Store
