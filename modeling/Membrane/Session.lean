import Membrane.Realm.Hooks
import Membrane.Recipe.Denote

/-! # Sessions

An engine at work: evaluating expressions, and looking at and changing the storage of instances from
the host's side.
-/

namespace Membrane

namespace Engine

/-- How many entries into the engine may be under way inside each other. -/
def entryLimit : Nat := 4096

/-- The engine at work. -/
def start (E : Engine) : Realm := E.realm entryLimit

end Engine

namespace Realm

/-- Evaluates a script expression. -/
def evaluate (R : Realm) (e : ScriptExpr) : Action BridgeError ScriptValue :=
  R.run (e.eval fun v => .done v : Program .script)

/-- Evaluates a host expression. -/
def evaluateHost (R : Realm) (e : HostExpr) : Action BridgeError HostValue :=
  (R.run (e.eval fun v => .done v : Program .value)).mapError .host

/-- The descriptor that an expression in a definition stands for: a script getter. -/
def getterOf (body : ScriptBody) (flags : Flags) : Descriptor :=
  .accessor (body.denote .undefined []) flags

/-- The number of elements of an instance as the type `t` counts them; `none` if it does not. -/
def countAs (R : Realm) (t : TypeId) (target : HostRef) : Option (Action HostError Nat) :=
  ((R.types.entry? t).bind (·.count)).map fun count => R.run (count target : Program .count)

end Realm

namespace Store

/-- The storage of an instance, seen from the host's side. -/
def storage? (s : Store) (ref : HostRef) : Option Storage := s.instances[ref.id]?.map (·.storage)

/-- Changes the storage of an instance from the host's side: the items are cut to a length, items
are added, slots are set. -/
def poke (s : Store) (ref : HostRef) (truncate : Option Nat) (push : List HostValue)
    (slots : List (String × HostValue)) : Store :=
  s.modifyInstance ref.id fun i =>
    let kept := match truncate with
      | some n => i.storage.items.take n
      | none => i.storage.items
    { i with storage := { i.storage with
        items := kept ++ push
        slots := slots.foldl (fun m (name, v) => m.insert name v) i.storage.slots } }

end Store

end Membrane
