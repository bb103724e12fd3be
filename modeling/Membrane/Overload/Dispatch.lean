import Membrane.Overload.Ranking
import Membrane.Realm.Run

/-! # Calling overloads

A call tries its candidates in ranked order: the arguments are converted to the declared parameter
types, omitted ones are replaced by their defaults, and the body runs at the call boundary. The first
candidate that succeeds decides; one that fails to convert, fails or panics is passed over.

Defaults are made outside the call boundary, so a panic in one is not contained here.
-/

namespace Membrane.Realm

/-- The arguments of a candidate, from the parameter at `position` on. -/
def convertArguments (R : Realm) (position : Nat) :
    List Parameter → List ScriptValue → Action BridgeError (List HostValue)
  | [], _ => pure []
  | p :: params, arg :: args => do
      let first ← (R.convertTo arg p.type).mapError .conversion
      let others ← convertArguments R (position + 1) params args
      return first :: others
  | p :: params, [] => do
      let first ← match p.default with
        | some default => (R.run default).mapError .host
        | none => Action.throw (.host (.missingArgument position))
      let others ← convertArguments R (position + 1) params []
      return first :: others

/-- One candidate of a call. -/
structure Candidate (y : Yield) where
  params : List Parameter
  body : HostCall → Program y

/-- Converts the arguments of a candidate and runs its body. -/
def tryCandidate (R : Realm) (this : Option HostRef) (args : List ScriptValue)
    (candidate : Candidate .value) : Action BridgeError HostValue := do
  let converted ← R.convertArguments 0 candidate.params args
  guarded (R.run (candidate.body ⟨this, converted⟩))

/-- Converts the arguments of a constructor and runs its body. -/
def tryConstructor (R : Realm) (args : List ScriptValue) (candidate : Candidate .storage) :
    Action BridgeError Storage := do
  let converted ← R.convertArguments 0 candidate.params args
  guarded (R.run (candidate.body ⟨none, converted⟩))

/-- The result of the first attempt that succeeds; `none` if none does. -/
def firstSuccess {α ι : Type} (attempt : ι → Action BridgeError α) :
    List ι → Action BridgeError (Option α)
  | [] => pure none
  | i :: rest => do
      match ← (attempt i).capture with
      | .ok a => return some a
      | .error _ => firstSuccess attempt rest

/-- What a call does with the first success; without one it is refused. -/
def settle {α : Type} (finish : α → Action BridgeError ScriptValue) (refusal : InvocationError) :
    Option α → Action BridgeError ScriptValue
  | some a => finish a
  | none => Action.throw (.invocation refusal)

/-- The candidates at the given positions; positions without a candidate count for nothing. -/
def inOrder {α : Type} (candidates : List α) (order : List Nat) : List α :=
  order.filterMap (candidates[·]?)

/-- Calls the methods of one name. -/
def callMethods (R : Realm) (group : MethodGroup) (target : Option HostRef)
    (args : List ScriptValue) : Action BridgeError ScriptValue := do
  let s ← Action.getStore
  let order := R.ranker.order R.types s (group.methods.map (·.params)) args
  let candidates := inOrder (group.methods.map fun m => ⟨m.params, m.body⟩) order
  let found ← firstSuccess (R.tryCandidate target args) candidates
  settle R.fromHost (.noMatchingMethod (R.types.name group.owner) group.name) found

/-- A new instance of a type, as a script value. -/
def wrapNew (R : Realm) (type : TypeId) (storage : Storage) : Action BridgeError ScriptValue := do
  let ref ← Action.state (·.newInstance type storage)
  R.fromHost (.object ref)

/-- The default value of a value type: zero or false for primitives, the constant zero for
enumerations, the default instance for declared value types that have one. -/
def defaultValue (R : Realm) (type : TypeId) : Action BridgeError (Option HostValue) :=
  match R.types.kind type with
  | .primitive kind => pure (some (.zeroOf kind))
  | .declared .enumeration => pure (some (.constant type .zero))
  | .declared .value =>
      match (R.types.entry? type).bind (·.defaultInstance) with
      | some make => do
          let storage ← (R.run make).mapError .host
          let ref ← Action.state (·.newInstance type storage)
          return some (.object ref)
      | none => pure none
  | .declared _ => pure none

/-- Constructs an instance of a type by its constructors. -/
def constructOverload (R : Realm) (type : TypeId) (args : List ScriptValue) :
    Action BridgeError ScriptValue := do
  let s ← Action.getStore
  let constructors := R.types.constructors type
  let order := R.ranker.order R.types s (constructors.map (·.params)) args
  let candidates := inOrder (constructors.map fun c => ⟨c.params, c.body⟩) order
  let found ← firstSuccess (R.tryConstructor args) candidates
  settle (R.wrapNew type) (.noMatchingConstructor (R.types.name type)) found

/-- Constructs a value of a type. Without arguments a value type gives its default value, if it has
one. -/
def constructType (R : Realm) (type : TypeId) (args : List ScriptValue) :
    Action BridgeError ScriptValue :=
  if args.isEmpty && R.types.isValueType type then do
    match ← R.defaultValue type with
    | some v => R.fromHost v
    -- a value type without a default factory falls through to its constructors
    | none => R.constructOverload type args
  else R.constructOverload type args

end Membrane.Realm
