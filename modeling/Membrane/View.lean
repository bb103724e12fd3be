import Membrane.Value.Host

/-! # Views of values

What an answer or a log entry shows of a value. Objects and instances are shown by a label: each of
the two sorts of identities is numbered from zero in the order in which they are first shown.
-/

namespace Membrane

/-- The identities shown so far, each list in the order of their labels. -/
structure Labels where
  objects : Array ObjectId
  instances : Array Nat

namespace Labels

def empty : Labels := ⟨#[], #[]⟩

/-- The label of an object, a new one if it was never shown. -/
def ofObject (l : Labels) (id : ObjectId) : Nat × Labels :=
  match l.objects.idxOf? id with
  | some label => (label, l)
  | none => (l.objects.size, { l with objects := l.objects.push id })

/-- The label of an instance, a new one if it was never shown. -/
def ofInstance (l : Labels) (id : Nat) : Nat × Labels :=
  match l.instances.idxOf? id with
  | some label => (label, l)
  | none => (l.instances.size, { l with instances := l.instances.push id })

end Labels

/-- What is shown of an object apart from its elements. -/
structure ObjectView where
  className : String
  label : Nat
  isCallable : Bool
  /-- The label of the instance behind a wrapper. -/
  host : Option Nat
  /-- The type behind a type reference. -/
  reference : Option TypeId

/-- What is shown of a script value. -/
inductive ScriptView where
  | undefined
  | null
  | boolean (b : Bool)
  | number (x : Double)
  | string (s : String)
  | object (o : ObjectView)
  | array (o : ObjectView) (elements : List ScriptView)
  /-- An array inside itself. -/
  | cycle (o : ObjectView)

/-- What is shown of a host value. -/
inductive HostView where
  /-- A value without identities. -/
  | plain (v : HostValue)
  | object (type : TypeId) (label : Nat)
  | array (elementType : TypeId) (items : List HostView)
  | script (v : ScriptView)

/-- An entry of the call log: what was called, on which instance, and the arguments. -/
structure CallRecord where
  label : String
  this : Option Nat
  args : List HostView

end Membrane
