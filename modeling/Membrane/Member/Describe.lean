import Membrane.Engine
import Membrane.Store.Describe

/-! # Diagnostic texts of members and engines -/

namespace Membrane

/-- A record in diagnostics: its name, and its fields in braces. An open record has more fields than
it shows. -/
def describeRecord (name : String) (fields : List (String × String)) (isOpen : Bool) : String :=
  let shown := fields.map fun (field, text) => s!"{field}: {text}"
  let all := if isOpen then shown ++ [".."] else shown
  name ++ " \x7b " ++ ", ".intercalate all ++ " \x7d"

namespace TypeHash

/-- The diagnostic text of a hash. -/
def describe (h : TypeHash) : String := s!"TypeHash({h.display})"

end TypeHash

/-- The diagnostic text of property attributes. -/
def Flags.describe (flags : Flags) : String :=
  let names := (if flags.writable then ["WRITABLE"] else []) ++
    (if flags.enumerable then ["ENUMERABLE"] else []) ++
    (if flags.configurable then ["CONFIGURABLE"] else [])
  let shown := if names.isEmpty then "0x0" else " | ".intercalate names
  s!"PropertyFlags({shown})"

namespace Registry

/-- The diagnostic text of a type. -/
def describeType (types : Registry) (t : TypeId) : String := s!"HostType({types.name t})"

/-- The diagnostic text of a parameter; an optional one has a question mark. -/
def describeParameter (types : Registry) (p : Parameter) : String :=
  types.name p.type ++ if p.isOptional then "?" else ""

/-- The diagnostic text of a parameter list. -/
def describeParameters (types : Registry) (params : List Parameter) : String :=
  Store.describeList (params.map types.describeParameter)

/-- The diagnostic text of a property. -/
def describeProperty (types : Registry) (p : Property) : String :=
  describeRecord "PropertyEntry" [
    ("name", Quoted.quote p.name),
    ("ty", types.describeType p.type),
    ("is_static", toString p.isStatic),
    ("readable", toString p.isReadable),
    ("writable", toString p.isWritable),
    ("interface", (p.interface.map fun t => s!"Some({Quoted.quote (types.name t)})").getD "None")]
    false

/-- The diagnostic text of a field. -/
def describeField (types : Registry) (f : Field) : String :=
  describeRecord "FieldEntry" [
    ("name", Quoted.quote f.name),
    ("ty", types.describeType f.type),
    ("is_static", toString f.isStatic),
    ("writable", toString f.isWritable)] false

/-- The diagnostic text of an overload. -/
def describeMethod (types : Registry) (m : Method) : String :=
  describeRecord "MethodEntry" [
    ("name", Quoted.quote m.name),
    ("params", types.describeParameters m.params),
    ("is_static", toString m.isStatic)] true

/-- The diagnostic text of an indexer. -/
def describeIndexer (types : Registry) (i : Indexer) : String :=
  describeRecord "IndexerEntry" [
    ("key_type", types.describeType i.keyType),
    ("value_type", types.describeType i.valueType),
    ("writable", toString i.isWritable)] true

/-- The diagnostic text of a constructor. -/
def describeConstructor (types : Registry) (c : Constructor) : String :=
  describeRecord "ConstructorEntry" [("params", types.describeParameters c.params)] true

/-- The diagnostic texts of the members that a type itself declares. -/
def describeMembers (types : Registry) (t : TypeId) : List String :=
  (types.own t TypeEntry.properties).map types.describeProperty ++
    (types.own t TypeEntry.fields).map types.describeField ++
    (types.own t TypeEntry.methods).map types.describeMethod ++
    (types.own t TypeEntry.indexers).map types.describeIndexer ++
    (types.own t TypeEntry.constructors).map types.describeConstructor

/-- The diagnostic text of a handle to an instance. -/
def describeHandle (types : Registry) (ref : HostRef) : String :=
  describeRecord "HostRef" [("ty", Quoted.quote (types.name ref.type))] true

end Registry

namespace Options

/-- The diagnostic text of an engine's options. -/
def describe (o : Options) : String :=
  describeRecord "InteropOptions" [
    ("strict", toString o.strict),
    ("expando_members", toString o.expando),
    ("isolated_cache", toString o.isolated)] false

end Options

/-- The diagnostic text of an engine. -/
def Engine.describe (E : Engine) (s : Store) : String :=
  describeRecord "Engine" [
    ("options", E.options.describe),
    ("cached_members", toString s.cache.size)] true

/-- The diagnostic text of a plain value slot. -/
def Store.describeSlot (s : Store) (types : Registry) (value : ScriptValue) (flags : Flags) :
    String :=
  describeRecord "DataDescriptor" [
    ("value", s.describeScript types value),
    ("flags", flags.describe)] false

end Membrane
