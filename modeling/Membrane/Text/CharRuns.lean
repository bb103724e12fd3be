/-! # Runs of characters

A set of characters is given as a list of runs `first, first + step, …, last` of code points.
-/

namespace Membrane

/-- The code points `first, first + step, …` up to `last`. -/
structure CharRun where
  first : Nat
  last : Nat
  step : Nat
  deriving DecidableEq, Repr

/-- A run whose members are all mapped to the character `distance` code points away. -/
structure CharShift where
  run : CharRun
  distance : Int
  deriving DecidableEq, Repr

/-- Membership in one run. -/
def CharRun.contains (r : CharRun) (c : Char) : Bool :=
  decide (r.first ≤ c.toNat) && decide (c.toNat ≤ r.last) && (c.toNat - r.first) % r.step == 0

/-- Membership in a list of runs. -/
def inRuns (runs : List CharRun) (c : Char) : Bool := runs.any (·.contains c)

/-- The character that the first run with `c` maps it to; `c` itself if there is none. -/
def shiftIn (shifts : List CharShift) (c : Char) : Char :=
  match shifts.find? (·.run.contains c) with
  | some s => Char.ofNat (c.toNat + s.distance).toNat
  | none => c

end Membrane
