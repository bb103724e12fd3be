import Membrane.Realm.Object

/-! # The entry points

What scripts do with values: member access, calls, construction, `instanceof` and spreading.
`Realm.perform` is one entry into the engine. Host code that enters the engine again does so through
the realm's `enter`; `Engine.performWithin` closes the circle for a limited number of entries inside
each other.
-/

namespace Membrane

namespace Realm

/-- Calls a callable object. -/
def callObject (R : Realm) (callee : ObjectId) (this : ScriptValue) (args : List ScriptValue) :
    Action BridgeError ScriptValue := do
  let s ← Action.getStore
  match s.sort? callee with
  | some (.function _ body) => R.run (body this args)
  | some (.methods group target) => R.callMethods group target args
  | some (.typeReference type) => R.constructType type args
  | _ => Action.throw (.invocation (.notCallable (s.className R.types callee)))

/-- Constructs with an object: only type references construct. -/
def constructObject (R : Realm) (callee : ObjectId) (args : List ScriptValue) :
    Action BridgeError ScriptValue := do
  let s ← Action.getStore
  match s.sort? callee with
  | some (.typeReference type) => R.constructType type args
  | _ => Action.throw (.invocation (.notConstructor (s.className R.types callee)))

/-- Reads a member of a value; undefined and null have none. -/
def getMember (R : Realm) (base : ScriptValue) (name : String) :
    Action BridgeError ScriptValue := do
  match base with
  | .object id => R.get id name
  | .undefined | .null =>
      let s ← Action.getStore
      Action.throw (.conversion (.incompatible (s.typeTag base) "object"))
  | _ => return .undefined

/-- Calls a value. -/
def call (R : Realm) (callee this : ScriptValue) (args : List ScriptValue) :
    Action BridgeError ScriptValue := do
  let s ← Action.getStore
  match callee.object?.filter s.isCallable with
  | some id => R.callObject id this args
  | none => Action.throw (.invocation (.notCallable (s.typeTag callee)))

/-- Calls a member of a value with the value as `this`. -/
def callMethod (R : Realm) (base : ScriptValue) (name : String) (args : List ScriptValue) :
    Action BridgeError ScriptValue := do
  let callee ← R.getMember base name
  let s ← Action.getStore
  match callee.object?.filter s.isCallable with
  | some id => R.callObject id base args
  | none => Action.throw (.invocation (.notCallable name))

/-- Constructs with a value. -/
def construct (R : Realm) (callee : ScriptValue) (args : List ScriptValue) :
    Action BridgeError ScriptValue := do
  match callee with
  | .object id => R.constructObject id args
  | _ =>
      let s ← Action.getStore
      Action.throw (.invocation (.notConstructor (s.typeTag callee)))

/-- `value instanceof callee`. -/
def instanceOf (R : Realm) (value callee : ScriptValue) : Action BridgeError Bool := do
  match callee with
  | .object id => R.hasInstance id value
  | _ =>
      let s ← Action.getStore
      Action.throw (.invocation (.notCallable (s.typeTag callee)))

/-- The greatest length that is read as a sequence. -/
def longestSequence : Nat := 1 <<< 24

/-- The elements of a sequence, by its `length` and the names of the indices below it. A length that
is no positive finite number counts as zero. -/
def arrayLike (R : Realm) (id : ObjectId) : Action BridgeError (List ScriptValue) := do
  let s ← Action.getStore
  let refusal := BridgeError.invocation (.notArrayLike (s.className R.types id))
  if !s.isArrayLike R.types id then Action.throw refusal
  else
    let length ← R.get id "length"
    match length.number? with
    | some x =>
        if x.exceeds longestSequence then Action.throw refusal
        else (List.range x.positivePart).mapM fun i => R.get id (toString i)
    | none => return []

/-- One entry into the engine. -/
def perform (R : Realm) : (hook : Hook) → Action BridgeError hook.Answer
  | .getMember base name => R.getMember base name
  | .setMember base name value => R.put base name value R.options.strict
  | .deleteMember base name => R.delete base name R.options.strict
  | .defineData base name value flags => R.define base name (.data value flags)
  | .call callee this args => R.call callee this args
  | .callMethod base name args => R.callMethod base name args
  | .construct callee args => R.construct callee args
  | .instanceOf value callee => R.instanceOf value callee
  | .arrayLike base => R.arrayLike base

end Realm

namespace Engine

/-- An entry into the engine with at most `depth` entries inside each other. -/
def performWithin (E : Engine) : Nat → (hook : Hook) → Action BridgeError hook.Answer
  | 0, _ => Action.exhausted
  | depth + 1, hook => Realm.perform ⟨E, performWithin E depth⟩ hook

/-- The engine with `depth` nested entries. -/
def realm (E : Engine) (depth : Nat) : Realm := ⟨E, E.performWithin depth⟩

end Engine

end Membrane
