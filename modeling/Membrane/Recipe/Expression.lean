import Membrane.Program

/-! # Recipes

Closures written down as data: expressions for script and host values, and the bodies of script
functions and host members. An expression is evaluated each time it is met, so an expression for an
object makes a new one each time. `Membrane.Recipe.Denote` turns recipes into programs.
-/

namespace Membrane

mutual

/-- An expression for a script value. -/
inductive ScriptExpr where
  | value (v : ScriptValue)
  /-- A global variable. -/
  | variable (name : String)
  | array (elements : List ScriptExpr)
  /-- A plain object with a prototype given by an expression, or with none. -/
  | object (prototype : Option ScriptExpr)
  /-- A value inside `depth` arrays of one element. -/
  | nested (inner : ScriptExpr) (depth : Nat)
  /-- An array of copies of one value. -/
  | filled (element : ScriptExpr) (count : Nat)
  | function (name : String) (body : ScriptBody)
  | typeReference (type : TypeId)
  /-- A wrapper around a new instance. -/
  | wrapper (type : TypeId) (layout : String)
      (slotNames : List String) (slotValues : List HostExpr) (items : List HostExpr)
      (dictNames : List String) (dictValues : List HostExpr)
  /-- Another wrapper around the instance of a wrapper. -/
  | rewrapped (inner : ScriptExpr)
  | fromHost (v : HostExpr)

/-- An expression for a host value. -/
inductive HostExpr where
  | value (v : HostValue)
  | array (elementType : TypeId) (items : List HostExpr)
  /-- The instance behind a wrapper. -/
  | target (wrapper : ScriptExpr)
  | script (v : ScriptExpr)

/-- The body of a script function. -/
inductive ScriptBody where
  | result (v : ScriptExpr)
  /-- An argument, undefined if it is missing. -/
  | argument (position : Nat)
  | this
  /-- A new array of the arguments. -/
  | arguments
  | throw (e : BridgeError)
  /-- A member of `this`. -/
  | member (name : String)
  /-- A member of the first argument. -/
  | memberOfFirst (name : String)

end

/-- The body of a host member. -/
inductive HostBody where
  | result (v : HostExpr)
  /-- A slot of the instance, undefined if it was never set. -/
  | slot (name : String)
  /-- Sets a slot to an argument. -/
  | setSlot (name : String) (position : Nat)
  /-- A sequence of all arguments. -/
  | arguments
  | argumentCount
  /-- The diagnostic texts of the arguments. -/
  | describeArguments
  | argument (position : Nat)
  /-- An argument as a variable of a carrier type. -/
  | extract (c : Carrier) (position : Nat)
  /-- An argument taken out of the call, and what is in its place after that. -/
  | take (position : Nat)
  /-- Adds an argument to the items. -/
  | push (position : Nat)
  /-- The element at the key that is given as an argument. -/
  | lookup (position : Nat)
  /-- Sets the element at the first argument to the second. -/
  | assign
  /-- Removes all items. -/
  | clear
  /-- The instance, or null without one. -/
  | this
  | fail (e : HostError)
  | panic (payload : Panic)
  /-- Runs a body while the instance is held. -/
  | holding (mode : BorrowMode) (body : HostBody)
  /-- Calls the script function that is given as an argument. -/
  | invoke (position : Nat) (args : List HostExpr)
  /-- A member of the instance, read by way of the script. -/
  | member (name : String)
  /-- Bodies one after the other; the last one gives the result. -/
  | sequence (bodies : List HostBody)

end Membrane
