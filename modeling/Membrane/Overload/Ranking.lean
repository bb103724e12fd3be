import Membrane.Engine
import Membrane.Overload.Cost

/-! # Ranking overloads

Orders the candidates of a call by the total cost of the arguments. Candidates with too few or too
many parameters, or with a parameter that its argument cannot be passed to, are left out; of equally
costly candidates the one with more exact matches comes first, then the one declared first.
-/

namespace Membrane

/-- A candidate that can be called: its position, the total cost, and the number of exact
matches. -/
structure Standing where
  index : Nat
  total : Cost
  exact : Nat
  deriving DecidableEq, Repr

namespace Standing

/-- `a` is not ranked after `b`, positions aside. -/
def notAfter (a b : Standing) : Bool :=
  decide (a.total < b.total) || (a.total == b.total && decide (b.exact ≤ a.exact))

end Standing

namespace Store

/-- The costs of the arguments, if every one of them can be passed. -/
def costs? (s : Store) (types : Registry) (params : List Parameter) (args : List ScriptValue) :
    Option (List Cost) :=
  (args.zip params).mapM fun (arg, param) => s.cost? types arg param.type

/-- The standing of a candidate, if it can be called. -/
def standing? (s : Store) (types : Registry) (args : List ScriptValue)
    (candidate : List Parameter × Nat) : Option Standing :=
  let (params, index) := candidate
  if args.length < requiredArity params || params.length < args.length then none
  else (s.costs? types params args).map fun costs =>
    ⟨index, costs.foldr (· + ·) 0, costs.count Cost.exact⟩

/-- The positions of the candidates that can be called, best first. -/
def rankByCost (s : Store) (types : Registry) (candidates : List (List Parameter))
    (args : List ScriptValue) : List Nat :=
  ((candidates.zipIdx.filterMap (s.standing? types args)).mergeSort Standing.notAfter).map
    (·.index)

end Store

/-- The positions of candidates in the order in which a call tries them. -/
def Ranker.order (ranker : Ranker) (types : Registry) (s : Store)
    (candidates : List (List Parameter)) (args : List ScriptValue) : List Nat :=
  match ranker with
  | .byCost => s.rankByCost types candidates args
  | .fixed order => order

end Membrane
