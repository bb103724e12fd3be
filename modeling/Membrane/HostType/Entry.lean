import Membrane.Member.Entry

/-! # Type descriptions

A `TypeEntry` describes one declared host type. It is built by adding members in the order of their
declaration; adding a member that implements an interface explicitly also adds the interface.
-/

namespace Membrane

/-- The kinds of declared types. -/
inductive DeclaredKind where
  /-- Shared by handle, and may be null. -/
  | reference
  /-- Has a default instance, and is never null. -/
  | value
  | enumeration
  /-- A target of explicit implementations only. -/
  | interface
  deriving DecidableEq, Repr

namespace DeclaredKind

def all : List DeclaredKind := [.reference, .value, .enumeration, .interface]

/-- The word for the kind in reports. -/
def name : DeclaredKind → String
  | .reference => "class"
  | .value => "value"
  | .enumeration => "enum"
  | .interface => "interface"

end DeclaredKind

/-- The kinds of host types. -/
inductive TypeKind where
  | declared (kind : DeclaredKind)
  | primitive (kind : PrimitiveKind)
  deriving DecidableEq, Repr

/-- The word for the kind in reports. -/
def TypeKind.name : TypeKind → String
  | .declared kind => kind.name
  | .primitive kind => "primitive:" ++ kind.name

/-- Primitive, enumeration and value types are never null. -/
def TypeKind.isValue : TypeKind → Bool
  | .declared .value | .declared .enumeration | .primitive _ => true
  | .declared .reference | .declared .interface => false

/-- The description of a declared type. -/
structure TypeEntry where
  name : String
  kind : DeclaredKind
  base : TypeId
  interfaces : List TypeId
  properties : List Property
  fields : List Field
  methods : List Method
  indexers : List Indexer
  explicitProperties : List Property
  explicitMethods : List Method
  explicitIndexers : List Indexer
  constructors : List Constructor
  constants : List Constant
  /-- Makes the default instance of a value type. -/
  defaultInstance : Option (Program .storage)
  /-- Counts the elements of an instance. -/
  count : Option (HostRef → Program .count)

namespace TypeEntry

/-- The base of a declared type that names none. -/
def defaultBase : DeclaredKind → TypeId
  | .reference | .interface => .object
  | .value | .enumeration => .valueType

/-- A type without members. -/
def make (name : String) (kind : DeclaredKind) : TypeEntry where
  name; kind
  base := defaultBase kind
  interfaces := []
  properties := []
  fields := []
  methods := []
  indexers := []
  explicitProperties := []
  explicitMethods := []
  explicitIndexers := []
  constructors := []
  constants := []
  defaultInstance := none
  count := none

def hash (e : TypeEntry) : TypeHash := .ofName e.name

def withBase (e : TypeEntry) (base : TypeId) : TypeEntry := { e with base }

/-- Adds an interface, unless the type has it already. -/
def implementing (e : TypeEntry) (interface : TypeId) : TypeEntry :=
  if e.interfaces.contains interface then e
  else { e with interfaces := e.interfaces ++ [interface] }

/-- Adds a property under its own name. -/
def withProperty (e : TypeEntry) (p : Property) : TypeEntry :=
  { e with properties := e.properties ++ [p] }

/-- Adds a property that implements an interface explicitly. -/
def withExplicitProperty (e : TypeEntry) (interface : TypeId) (p : Property) : TypeEntry :=
  let e := e.implementing interface
  { e with explicitProperties := e.explicitProperties ++ [p.forInterface interface] }

/-- Adds a field. -/
def withField (e : TypeEntry) (f : Field) : TypeEntry := { e with fields := e.fields ++ [f] }

/-- Adds an overload under its own name. -/
def withMethod (e : TypeEntry) (m : Method) : TypeEntry := { e with methods := e.methods ++ [m] }

/-- Adds an overload that implements an interface explicitly. -/
def withExplicitMethod (e : TypeEntry) (interface : TypeId) (m : Method) : TypeEntry :=
  let e := e.implementing interface
  { e with explicitMethods := e.explicitMethods ++ [m.forInterface interface] }

/-- Adds an indexer, among the explicit ones if it implements an interface. -/
def withIndexer (e : TypeEntry) (i : Indexer) : TypeEntry :=
  match i.interface with
  | some interface =>
      let e := e.implementing interface
      { e with explicitIndexers := e.explicitIndexers ++ [i] }
  | none => { e with indexers := e.indexers ++ [i] }

/-- Adds a constructor. -/
def withConstructor (e : TypeEntry) (c : Constructor) : TypeEntry :=
  { e with constructors := e.constructors ++ [c] }

/-- Adds a constant of an enumeration. -/
def withConstant (e : TypeEntry) (c : Constant) : TypeEntry :=
  { e with constants := e.constants ++ [c] }

/-- Declares how the default instance is made. -/
def withDefaultInstance (e : TypeEntry) (make : Program .storage) : TypeEntry :=
  { e with defaultInstance := some make }

/-- Declares how the items of an instance are counted. -/
def withCount (e : TypeEntry) (count : HostRef → Program .count) : TypeEntry :=
  { e with count := some count }

end TypeEntry

end Membrane
