import Membrane.Error
import Membrane.Instance.Storage
import Membrane.Object.Flags
import Membrane.Value.Carrier

/-! # Programs: the closures of host and script

The body of a host member or of a script function is a `Program`: a tree that ends in a result, a
failure or a panic, and whose inner nodes ask the engine for something and go on with the answer.
Host code can hold an instance while it runs (`hold`), and the nesting of the tree makes sure that
what is held is released, whichever way the held part ends.

A program is data, so a type can carry its member bodies and a statement about members can speak of
every body there is. `Membrane.Realm.Run` gives programs their meaning.
-/

namespace Membrane

/-- What a panic carries: a text, or something that is no text. -/
inductive Panic where
  | text (message : String)
  | other
  deriving DecidableEq, Repr

/-- The message that a contained panic reports. -/
def Panic.message : Panic → String
  | .text message => message
  | .other => "unknown panic"

/-- The panic of a request for more values than there is room for. -/
def Panic.capacityOverflow : Panic := .text "capacity overflow"

/-- What a program computes. -/
inductive Yield where
  /-- A host value: getters, methods and default values. -/
  | value
  /-- Nothing: setters. -/
  | nothing
  /-- The contents of a new instance: constructors and default instances. -/
  | storage
  /-- A number of elements. -/
  | count
  /-- A script value: script functions. -/
  | script
  deriving DecidableEq, Repr

/-- The results of a program. -/
@[reducible] def Yield.Result : Yield → Type
  | .value => HostValue
  | .nothing => Unit
  | .storage => Storage
  | .count => Nat
  | .script => ScriptValue

/-- The failures of a program: host code fails with a host error, script code with any error. -/
@[reducible] def Yield.Failure : Yield → Type
  | .script => BridgeError
  | _ => HostError

/-- The entry points of the engine. -/
inductive Hook where
  /-- `base[name]` -/
  | getMember (base : ScriptValue) (name : String)
  /-- `base[name] = value` -/
  | setMember (base : ObjectId) (name : String) (value : ScriptValue)
  /-- `delete base[name]` -/
  | deleteMember (base : ObjectId) (name : String)
  /-- Defines a data property with given attributes. -/
  | defineData (base : ObjectId) (name : String) (value : ScriptValue) (flags : Flags)
  /-- `callee.call(this, ...args)` -/
  | call (callee this : ScriptValue) (args : List ScriptValue)
  /-- `base.name(...args)` -/
  | callMethod (base : ScriptValue) (name : String) (args : List ScriptValue)
  /-- `new callee(...args)` -/
  | construct (callee : ScriptValue) (args : List ScriptValue)
  /-- `value instanceof callee` -/
  | instanceOf (value callee : ScriptValue)
  /-- The elements of a sequence. -/
  | arrayLike (base : ObjectId)

/-- What an entry point answers when it succeeds. -/
@[reducible] def Hook.Answer : Hook → Type
  | .getMember .. | .call .. | .callMethod .. | .construct .. => ScriptValue
  | .setMember .. => Unit
  | .deleteMember .. | .defineData .. | .instanceOf .. => Bool
  | .arrayLike _ => List ScriptValue

/-- The address of a static variable: the type that declares it, and its name. -/
abbrev StaticKey := TypeId × String

/-- What a program can ask for. -/
inductive Query where
  /-- Enter the engine. -/
  | enter (hook : Hook)
  /-- The script form of a host value. -/
  | fromHost (v : HostValue)
  /-- The host form of a script value, of a given type if one is required. -/
  | toHost (v : ScriptValue) (target : Option TypeId)
  /-- A script value at a declared type. -/
  | convertTo (v : ScriptValue) (target : TypeId)
  /-- A host value at a declared type. -/
  | coerce (v : HostValue) (target : TypeId)
  /-- A host value as a variable of a carrier type. -/
  | extract (c : Carrier) (v : HostValue)
  /-- A new object with the given prototype. -/
  | newObject (prototype : Option ObjectId)
  | newArray (elements : List ScriptValue)
  /-- A new wrapper around an instance. -/
  | wrap (ref : HostRef)
  | typeReference (type : TypeId)
  /-- A new instance. -/
  | newInstance (type : TypeId) (storage : Storage)
  /-- The instance behind a wrapper. -/
  | hostTarget (v : ScriptValue)
  /-- The diagnostic text of a host value. -/
  | describe (v : HostValue)
  /-- A global variable of the script. -/
  | global (name : String)
  /-- Read an instance's storage. -/
  | peek (ref : HostRef) (layout : String)
  /-- Change an instance's storage; a failing change leaves it as it was. -/
  | update (ref : HostRef) (layout : String) (change : Storage → Except HostError Storage)
  | readStatic (key : StaticKey)
  | writeStatic (key : StaticKey) (v : HostValue)
  /-- Note a call in the call log. -/
  | record (label : String) (this : Option HostRef) (args : List HostValue)

/-- The answers to a query. -/
@[reducible] def Query.Answer : Query → Type
  | .enter hook => Except BridgeError hook.Answer
  | .fromHost _ | .newObject _ | .newArray _ | .wrap _ | .typeReference _ => ScriptValue
  | .toHost .. | .convertTo .. | .coerce .. => Except ConversionError HostValue
  | .extract c _ => Except ConversionError c.Rep
  | .newInstance .. => HostRef
  | .hostTarget _ => Option HostRef
  | .describe _ => String
  | .global _ => ScriptValue
  | .peek .. => Except HostError Storage
  | .update .. => Except HostError Unit
  | .readStatic _ => Option HostValue
  | .writeStatic .. | .record .. => Unit

/-- A closure of host or script. -/
inductive Program : Yield → Type where
  | done {y : Yield} (result : y.Result) : Program y
  | fail {y : Yield} (cause : y.Failure) : Program y
  | panic {y : Yield} (payload : Panic) : Program y
  /-- Ask, and go on with the answer. -/
  | ask {y : Yield} (query : Query) (next : query.Answer → Program y) : Program y
  /-- Run `inside` while the instance is held, and go on with how it ended, or with the refusal. -/
  | hold {y : Yield} (ref : HostRef) (layout : String) (mode : BorrowMode)
      (inside : Program .value) (next : Except HostError HostValue → Program y) : Program y
  /-- Make a script function of a body that takes `this` and the arguments. -/
  | makeFunction {y : Yield} (name : String)
      (body : ScriptValue → List ScriptValue → Program .script)
      (next : ScriptValue → Program y) : Program y

namespace Program

/-- Runs `p`, then goes on with its result or with its failure. -/
def handle {y z : Yield} (p : Program y) (next : y.Result → Program z)
    (onFail : y.Failure → Program z) : Program z :=
  match p with
  | .done result => next result
  | .fail cause => onFail cause
  | .panic payload => .panic payload
  | .ask query k => .ask query fun a => (k a).handle next onFail
  | .hold ref layout mode inside k =>
      .hold ref layout mode inside fun r => (k r).handle next onFail
  | .makeFunction name body k => .makeFunction name body fun f => (k f).handle next onFail

/-- Goes on with the result of an attempt, or fails with its failure. -/
def attempt {y : Yield} {ε α : Type} (failure : ε → y.Failure) (result : Except ε α)
    (next : α → Program y) : Program y :=
  match result with
  | .ok a => next a
  | .error e => .fail (failure e)

end Program

/-- The call that a method or constructor body sees: the bound instance, and the arguments,
converted to the declared parameter types. -/
structure HostCall where
  this : Option HostRef
  args : List HostValue

/-- A body that reads: for an instance or, when static, for none. -/
abbrev Getter := Option HostRef → Program .value

/-- A body that writes. -/
abbrev Setter := Option HostRef → HostValue → Program .nothing

end Membrane
