import Membrane.Store

/-! # Showing values

Makes views of values, giving labels to the identities that have none yet. An object gets its label
before the instance behind it and before its elements; an array inside itself is not followed.
-/

namespace Membrane.Store

/-- A computation that gives labels. -/
abbrev Labelling := StateM Labels

/-- What is shown of an object apart from its elements. -/
def showObject (s : Store) (types : Registry) (id : ObjectId) : Labelling ObjectView := do
  let label ← modifyGet (·.ofObject id)
  let host ← match s.hostTarget? id with
    | some ref => some <$> modifyGet (·.ofInstance ref.id)
    | none => pure none
  return ⟨s.className types id, label, s.isCallable id, host, s.referencedType? id⟩

/-- What is shown of a script value inside the arrays of `outer`, with arrays nested to at most
`depth`. -/
def showWithin (types : Registry) (s : Store) :
    Nat → List ObjectId → ScriptValue → Labelling ScriptView
  | _, _, .undefined => pure .undefined
  | _, _, .null => pure .null
  | _, _, .boolean b => pure (.boolean b)
  | _, _, .number x => pure (.number x)
  | _, _, .string text => pure (.string text)
  | depth, outer, .object id => do
      let view ← s.showObject types id
      match s.elements? id with
      | none => return .object view
      | some elements =>
          -- the label is given before the elements are looked at
          if outer.contains id then return .cycle view
          else match depth with
            | 0 => return .cycle view
            | depth + 1 =>
                return .array view (← elements.toList.mapM (showWithin types s depth (id :: outer)))

/-- What is shown of a script value. -/
def showScript (s : Store) (types : Registry) (v : ScriptValue) : Labelling ScriptView :=
  s.showWithin types s.heap.count [] v

mutual

/-- What is shown of a host value. -/
def showHost (types : Registry) (s : Store) : HostValue → Labelling HostView
  | .object ref => return .object ref.type (← modifyGet (·.ofInstance ref.id))
  | .array elementType items => return .array elementType (← showHostAll types s items)
  | .script v => return .script (← s.showScript types v)
  | v => pure (.plain v)

/-- What is shown of host values, in order. -/
def showHostAll (types : Registry) (s : Store) : List HostValue → Labelling (List HostView)
  | [] => pure []
  | v :: rest => return (← showHost types s v) :: (← showHostAll types s rest)

end

/-- Runs a labelling on the labels of the store. -/
def labelling {α : Type} (s : Store) (act : Store → Labelling α) : α × Store :=
  let (a, labels) := (act s).run s.labels
  (a, { s with labels })

/-- Notes a call: the arguments are shown first, then the instance. -/
def record (s : Store) (types : Registry) (label : String) (this : Option HostRef)
    (args : List HostValue) : Store :=
  let (entry, s) := s.labelling fun s => do
    let args ← s.showHostAll types args
    let this ← match this with
      | some ref => some <$> modifyGet (·.ofInstance ref.id)
      | none => pure none
    return (⟨label, this, args⟩ : CallRecord)
  { s with calls := s.calls.push entry }

end Membrane.Store
