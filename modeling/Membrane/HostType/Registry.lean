import Membrane.HostType.Entry

/-! # The registry of host types

A `Registry` holds the declared types; a declared type is known by its position. The functions here
answer for built-in and declared types alike: name, kind, base, ancestry, implemented interfaces and
assignability.

A registry is *well-founded* when every declared type refers only to types before it
(`Registry.WellFounded`). `ancestry` follows bases for as many steps as the type's rank allows,
which in a well-founded registry is the whole chain.
-/

namespace Membrane

/-- The declared types, by position. -/
structure Registry where
  entries : Array TypeEntry

namespace Registry

def empty : Registry := ⟨#[]⟩

/-- Registers a type, and gives its identity. -/
def declare (types : Registry) (entry : TypeEntry) : TypeId × Registry :=
  (.declared types.entries.size, ⟨types.entries.push entry⟩)

/-- The description of a declared type. -/
def entry? (types : Registry) : TypeId → Option TypeEntry
  | .declared index => types.entries[index]?
  | _ => none

/-- Bases and interfaces of declared types come before them. -/
def WellFounded (types : Registry) : Prop :=
  ∀ t e, types.entry? t = some e →
    e.base.rank < t.rank ∧ ∀ i ∈ e.interfaces, i.rank < t.rank

/-- The name of a type. -/
def name (types : Registry) (t : TypeId) : String :=
  match t.builtinName? with
  | some name => name
  | none => ((types.entry? t).map (·.name)).getD ""

/-- The hash of a type's name. -/
def hash (types : Registry) (t : TypeId) : TypeHash := .ofName (types.name t)

/-- The kind of a type. The built-in types that are not primitive are reference types, and so is a
type that is not declared. -/
def kind (types : Registry) : TypeId → TypeKind
  | .primitive kind => .primitive kind
  | .declared index => .declared ((types.entries[index]?.map (·.kind)).getD .reference)
  | _ => .declared .reference

def isValueType (types : Registry) (t : TypeId) : Bool := (types.kind t).isValue

def isEnumeration (types : Registry) (t : TypeId) : Bool :=
  types.kind t == .declared .enumeration

def isInterface (types : Registry) (t : TypeId) : Bool := types.kind t == .declared .interface

/-- The primitive kind of a primitive type. -/
def primitiveKind? (types : Registry) (t : TypeId) : Option PrimitiveKind :=
  match types.kind t with
  | .primitive kind => some kind
  | .declared _ => none

/-- The base of a type; only `object` has none. -/
def base? (types : Registry) : TypeId → Option TypeId
  | .object => none
  | .valueType | .string | .array | .scriptValue => some .object
  | .primitive _ => some .valueType
  | .declared index => some ((types.entries[index]?.map (·.base)).getD .object)

/-- The interfaces that a type itself names. -/
def interfaces (types : Registry) (t : TypeId) : List TypeId :=
  ((types.entry? t).map (·.interfaces)).getD []

/-- A type followed by its bases, for at most `steps` types. -/
def ancestryWithin (types : Registry) : Nat → TypeId → List TypeId
  | 0, _ => []
  | steps + 1, t =>
      t :: match types.base? t with
        | some b => ancestryWithin types steps b
        | none => []

/-- A type followed by its chain of bases, most derived first. -/
def ancestry (types : Registry) (t : TypeId) : List TypeId := types.ancestryWithin (t.rank + 1) t

/-- The search behind `implements`, through at most `steps` interfaces. -/
def implementsWithin (types : Registry) : Nat → TypeId → TypeId → Bool
  | 0, _, _ => false
  | steps + 1, t, interface =>
      (types.ancestry t).any fun a => (types.interfaces a).any fun i =>
        i == interface || implementsWithin types steps i interface

/-- A type or one of its bases names the interface, or names one that implements it. -/
def implements (types : Registry) (t interface : TypeId) : Bool :=
  types.implementsWithin (t.rank + 1) t interface

/-- A value of type `t` can stand where `target` is expected: anything for `object`, a type for
itself and for its bases, and a type for the interfaces it implements. -/
def isAssignable (types : Registry) (t target : TypeId) : Bool :=
  target == .object || (types.ancestry t).contains target ||
    (types.isInterface target && types.implements t target)

/-- The value of the first constant of an enumeration with this key. -/
def constant? (types : Registry) (t : TypeId) (key : String) : Option (Sized .int64) :=
  (types.entry? t).bind fun e => (e.constants.find? (·.key == key)).map (·.value)

/-- Instances of the type have a number of elements. -/
def isCountable (types : Registry) (t : TypeId) : Bool :=
  ((types.entry? t).bind (·.count)).isSome

/-- The constructors of a type. -/
def constructors (types : Registry) (t : TypeId) : List Constructor :=
  ((types.entry? t).map (·.constructors)).getD []

/-- How error messages call a value: by its type, or by itself for undefined and null. -/
def shapeName (types : Registry) : HostValue → String
  | .undefined => "undefined"
  | .null => "null"
  | v => (v.runtimeType?.map types.name).getD "unknown"

end Registry

end Membrane
