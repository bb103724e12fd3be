import Membrane.Hash.TypeHash
import Membrane.Name
import Membrane.Program

/-! # Members of host types

What a host type declares: properties, fields, methods, indexers, constructors and, for
enumerations, constants. Each entry keeps its declared name for diagnostics and the normalized key
by which it is found. The bodies are programs.
-/

namespace Membrane

/-- A parameter of a method or constructor. A parameter with a default may be omitted. -/
structure Parameter where
  type : TypeId
  default : Option (Program .value)

namespace Parameter

/-- A parameter that must be given. -/
def required (type : TypeId) : Parameter := ⟨type, none⟩

/-- A parameter that takes the value of `default` when it is omitted. -/
def optional (type : TypeId) (default : Program .value) : Parameter := ⟨type, some default⟩

/-- A parameter with a default may be left out. -/
def isOptional (p : Parameter) : Bool := p.default.isSome

end Parameter

/-- The number of arguments that a parameter list requires. -/
def requiredArity (params : List Parameter) : Nat := (params.filter (!·.isOptional)).length

/-- A member that is read and written by bodies, either of which may be missing. -/
structure Property where
  name : String
  key : String
  type : TypeId
  isStatic : Bool
  get : Option Getter
  set : Option Setter
  /-- The interface that the property implements explicitly. -/
  interface : Option TypeId

namespace Property

/-- A property of instances. -/
def make (name : String) (type : TypeId) (get : Option Getter) (set : Option Setter) : Property :=
  ⟨name, Name.normalize name, type, false, get, set, none⟩

def asStatic (p : Property) : Property := { p with isStatic := true }

/-- The property as an explicit implementation of one of the interface. -/
def forInterface (p : Property) (interface : TypeId) : Property :=
  { p with interface := some interface }

def isReadable (p : Property) : Bool := p.get.isSome

def isWritable (p : Property) : Bool := p.set.isSome

end Property

/-- A data member; without a writing body it is read-only. -/
structure Field where
  name : String
  key : String
  type : TypeId
  isStatic : Bool
  get : Getter
  set : Option Setter

namespace Field

def make (name : String) (type : TypeId) (get : Getter) (set : Option Setter) : Field :=
  ⟨name, Name.normalize name, type, false, get, set⟩

def asStatic (f : Field) : Field := { f with isStatic := true }

def isWritable (f : Field) : Bool := f.set.isSome

end Field

/-- One overload of a method. -/
structure Method where
  name : String
  key : String
  signature : TypeHash
  params : List Parameter
  isStatic : Bool
  body : HostCall → Program .value
  interface : Option TypeId

namespace Method

/-- A method of the type with hash `owner`; `hashOf` gives the hashes of the parameter types. -/
def make (owner : TypeHash) (hashOf : TypeId → TypeHash) (name : String) (params : List Parameter)
    (body : HostCall → Program .value) : Method :=
  ⟨name, Name.normalize name, .ofSignature owner name (params.map (hashOf ·.type)), params, false,
    body, none⟩

def asStatic (m : Method) : Method := { m with isStatic := true }

def forInterface (m : Method) (interface : TypeId) : Method :=
  { m with interface := some interface }

/-- Both overloads take the same parameter types. -/
def sameParameters (m n : Method) : Bool := m.params.map (·.type) == n.params.map (·.type)

end Method

/-- A public constructor. -/
structure Constructor where
  signature : TypeHash
  params : List Parameter
  body : HostCall → Program .storage

/-- The name that constructors have in signatures. -/
def Constructor.signatureName : String := ".ctor"

/-- A constructor, with the hash of its signature. -/
def Constructor.make (owner : TypeHash) (hashOf : TypeId → TypeHash) (params : List Parameter)
    (body : HostCall → Program .storage) : Constructor :=
  ⟨.ofSignature owner Constructor.signatureName (params.map (hashOf ·.type)), params, body⟩

/-- Access to the elements of an instance by key. -/
structure Indexer where
  keyType : TypeId
  valueType : TypeId
  get : Option (HostRef → HostValue → Program .value)
  set : Option (HostRef → HostValue → HostValue → Program .nothing)
  interface : Option TypeId

namespace Indexer

def make (key value : TypeId) (get : Option (HostRef → HostValue → Program .value))
    (set : Option (HostRef → HostValue → HostValue → Program .nothing)) : Indexer :=
  ⟨key, value, get, set, none⟩

def forInterface (i : Indexer) (interface : TypeId) : Indexer :=
  { i with interface := some interface }

def isWritable (i : Indexer) : Bool := i.set.isSome

end Indexer

/-- A named constant of an enumeration. -/
structure Constant where
  name : String
  key : String
  value : Sized .int64

/-- A constant of an enumeration. -/
def Constant.make (name : String) (value : Sized .int64) : Constant :=
  ⟨name, Name.normalize name, value⟩

end Membrane
