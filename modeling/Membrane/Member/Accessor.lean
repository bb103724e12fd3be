import Membrane.HostType.Entry

/-! # Typed accessors

The bodies of members that read and write a host variable of one carrier type: a named slot of an
instance, a static variable, or the element of an instance at a key. Reading gives the variable's
default if it was never set and panics if what is there does not fit the carrier; writing extracts a
variable from the value first and then changes the storage. Elements at integer keys are the items
of the instance, elements at other keys belong to its dictionary.
-/

namespace Membrane

namespace HostError

/-- The refusal of a member of an instance that is called without one. -/
def noInstance : HostError := .targetMismatch "instance" "no instance"

end HostError

namespace Program

/-- Goes on with an instance, or fails if there is none. -/
def withInstance {y : Yield} (this : Option HostRef) (refuse : HostError → y.Failure)
    (next : HostRef → Program y) : Program y :=
  match this with
  | some ref => next ref
  | none => .fail (refuse .noInstance)

/-- A host value as it comes out of a host variable: the value is read as a variable and made a
value again; one that does not fit is a panic. -/
def reread (c : Carrier) (v : HostValue) : Program .value :=
  .ask (.extract c v) fun
    | .ok r => .done (c.wrap r)
    | .error e => .panic (.text e.message)

/-- The content of a variable that may never have been set. -/
def rereadOr (c : Carrier) : Option HostValue → Program .value
  | some v => reread c v
  | none => .done (c.wrap c.default)

end Program

namespace Accessor

/-- Reads a slot of an instance. -/
def slotGetter (layout : String) (c : Carrier) (slot : String) : Getter := fun this =>
  .withInstance this id fun ref =>
    .ask (.peek ref layout) fun
      | .ok storage => .rereadOr c (storage.slots.find? slot)
      | .error e => .fail e

/-- Writes a slot of an instance. -/
def slotSetter (layout : String) (c : Carrier) (slot : String) : Setter := fun this v =>
  -- the value is looked at before the instance
  .ask (.extract c v) fun
    | .error e => .fail (.conversion e)
    | .ok r =>
        .withInstance this id fun ref =>
          .ask (.update ref layout fun storage =>
              .ok { storage with slots := storage.slots.insert slot (c.wrap r) }) fun
            | .ok () => .done ()
            | .error e => .fail e

/-- Reads a static variable. -/
def staticGetter (c : Carrier) (key : StaticKey) : Getter := fun _ =>
  .ask (.readStatic key) (.rereadOr c)

/-- Writes a static variable. -/
def staticSetter (c : Carrier) (key : StaticKey) : Setter := fun _ v =>
  .ask (.extract c v) fun
    | .error e => .fail (.conversion e)
    | .ok r => .ask (.writeStatic key (c.wrap r)) fun () => .done ()

/-- Where an element lives. -/
inductive Place where
  | item (position : Int)
  | entry (key : String)
  deriving DecidableEq, Repr

/-- The place of a key: integers and constants count items, other keys name dictionary entries, a
text by itself and anything else by its diagnostic text. -/
def placeOf {y : Yield} (key : HostValue) (next : Place → Program y) : Program y :=
  match key.asInt?, key with
  | some n, _ => next (.item n)
  | none, .string s => next (.entry s)
  | none, key => .ask (.describe key) fun text => next (.entry text)

/-- The element at a place. -/
def lookup (storage : Storage) : Place → Except HostError HostValue
  | .item position =>
      match position with
      | .ofNat i => (storage.items[i]?).elim (.error (.keyNotFound (toString position))) .ok
      | .negSucc _ => .error (.keyNotFound (toString position))
  | .entry key => (storage.dict.find? key).elim (.error (.keyNotFound key)) .ok

/-- Replaces the item at a position, which must be there, or sets a dictionary entry. -/
def assign (v : HostValue) (storage : Storage) : Place → Except HostError Storage
  | .item position =>
      match position with
      | .ofNat i =>
          if i < storage.items.length then .ok { storage with items := storage.items.set i v }
          else .error (.keyNotFound (toString position))
      | .negSucc _ => .error (.keyNotFound (toString position))
  | .entry key => .ok { storage with dict := storage.dict.insert key v }

/-- Reads an element. -/
def elementGetter (layout : String) (k c : Carrier) (ref : HostRef) (key : HostValue) :
    Program .value :=
  .ask (.extract k key) fun
    | .error e => .fail (.conversion e)
    | .ok r =>
        placeOf (k.wrap r) fun place =>
          .ask (.peek ref layout) fun
            | .error e => .fail e
            | .ok storage =>
                match lookup storage place with
                | .ok v => .reread c v
                | .error e => .fail e

/-- Writes an element. -/
def elementSetter (layout : String) (k c : Carrier) (ref : HostRef) (key v : HostValue) :
    Program .nothing :=
  .ask (.extract k key) fun
    | .error e => .fail (.conversion e)
    | .ok r =>
        .ask (.extract c v) fun
          | .error e => .fail (.conversion e)
          | .ok x =>
              placeOf (k.wrap r) fun place =>
                .ask (.update ref layout (assign (c.wrap x) · place)) fun
                  | .ok () => .done ()
                  | .error e => .fail e

/-- Counts elements by looking at the storage. -/
def counter (layout : String) (count : Storage → Program .count) (ref : HostRef) :
    Program .count :=
  .ask (.peek ref layout) fun
    | .ok storage => count storage
    | .error e => .fail e

/-- A property or field of an instance: the bodies that read and, if it is writable, write it. -/
def slotBodies (layout : String) (c : Carrier) (slot : String) (writable : Bool) :
    Getter × Option Setter :=
  (slotGetter layout c slot, if writable then some (slotSetter layout c slot) else none)

/-- A static property or field: the bodies that read and, if it is writable, write it. -/
def staticBodies (c : Carrier) (key : StaticKey) (writable : Bool) : Getter × Option Setter :=
  (staticGetter c key, if writable then some (staticSetter c key) else none)

end Accessor

end Membrane
