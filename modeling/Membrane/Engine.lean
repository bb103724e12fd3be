import Membrane.Action

/-! # Engines

An engine is a registry of host types, its options and the way it ranks overloads. None of it
changes while scripts run; what changes is in the store.

A `Realm` is an engine together with the way back into it for host code that runs on its behalf.
-/

namespace Membrane

/-- The options of an engine. -/
structure Options where
  /-- Failed writes and deletes are errors. -/
  strict : Bool
  /-- Writes to unknown names of host objects add plain slots. -/
  expando : Bool
  /-- The engine keeps a resolution cache of its own. -/
  isolated : Bool
  deriving DecidableEq, Repr

/-- Every option off. -/
def Options.default : Options := ⟨false, false, false⟩

/-- How overloads are ordered for a call. -/
inductive Ranker where
  /-- By the cost of converting the arguments. -/
  | byCost
  /-- In a fixed order of positions, whatever the call; positions without a candidate count for
  nothing. -/
  | fixed (order : List Nat)
  deriving DecidableEq, Repr

/-- What stays the same while scripts run. -/
structure Engine where
  types : Registry
  options : Options
  ranker : Ranker

/-- An engine and the way back into it. -/
structure Realm extends Engine where
  enter : (hook : Hook) → Action BridgeError hook.Answer

end Membrane
