import Membrane.HostType.Registry

/-! # Member resolution

`Registry.resolve` finds the member that a key denotes on a type. On an instance the first of these
decides, along the chain from the type to its bases:

1. for keys that spell no index: a property, a field, the group of methods of that name;
2. an indexer;
3. for keys that spell no index: the one explicit property of that name, the group of explicit
   methods of that name;
4. the one explicit indexer.

On the type itself only its own static properties, fields and methods count. An enumeration has its
constants and nothing else.
-/

namespace Membrane

/-- Which members a lookup is for. -/
inductive MemberScope where
  /-- Members of an instance. -/
  | onInstance
  /-- Static members of a type. -/
  | onType
  deriving DecidableEq, Repr

/-- The overloads of one name. -/
structure MethodGroup where
  owner : TypeId
  name : String
  methods : List Method

/-- What a key denotes. -/
inductive ResolvedMember where
  | field (f : Field)
  | property (p : Property)
  | methodGroup (group : MethodGroup)
  | indexer (i : Indexer)
  | constant (n : Sized .int64)
  | undefined

namespace ResolvedMember

def isUndefined : ResolvedMember → Bool
  | .undefined => true
  | _ => false

/-- The sort of member, in words. -/
def kindName : ResolvedMember → String
  | .field _ => "field"
  | .property _ => "property"
  | .methodGroup _ => "method group"
  | .indexer _ => "indexer"
  | .constant _ => "enum constant"
  | .undefined => "undefined"

end ResolvedMember

namespace Registry

/-- The members along the chain of a type, most derived first. -/
def onChain {α : Type} (types : Registry) (t : TypeId) (members : TypeEntry → List α) : List α :=
  (types.ancestry t).flatMap fun a => ((types.entry? a).map members).getD []

/-- The members that a type itself declares. -/
def own {α : Type} (types : Registry) (t : TypeId) (members : TypeEntry → List α) : List α :=
  ((types.entry? t).map members).getD []

/-- The only element of a list. -/
def only? {α : Type} : List α → Option α
  | [a] => some a
  | _ => none

/-- The overloads in a list, without those whose parameter types an earlier one has. -/
def visibleOverloads (methods : List Method) : List Method :=
  methods.foldl
    (fun kept m => if kept.any (·.sameParameters m) then kept else kept ++ [m]) []

/-- The method group of a list of overloads, if there are any. -/
def group? (t : TypeId) : List Method → Option ResolvedMember
  | [] => none
  | m :: rest => some (.methodGroup ⟨t, m.name, m :: rest⟩)

/-- A property, field or method group of that key. -/
def named? (types : Registry) (t : TypeId) (key : String) : Option ResolvedMember :=
  ((types.onChain t TypeEntry.properties).find? (·.key == key)).map ResolvedMember.property <|>
  ((types.onChain t TypeEntry.fields).find? (·.key == key)).map ResolvedMember.field <|>
  group? t (visibleOverloads ((types.onChain t TypeEntry.methods).filter (·.key == key)))

/-- The first indexer. -/
def indexer? (types : Registry) (t : TypeId) : Option ResolvedMember :=
  (types.onChain t TypeEntry.indexers).head?.map ResolvedMember.indexer

/-- An explicit property or method group of that key. -/
def explicitlyNamed? (types : Registry) (t : TypeId) (key : String) : Option ResolvedMember :=
  (only? ((types.onChain t TypeEntry.explicitProperties).filter (·.key == key))).map
    ResolvedMember.property <|>
  group? t (visibleOverloads ((types.onChain t TypeEntry.explicitMethods).filter (·.key == key)))

/-- The one explicit indexer. -/
def explicitIndexer? (types : Registry) (t : TypeId) : Option ResolvedMember :=
  (only? (types.onChain t TypeEntry.explicitIndexers)).map ResolvedMember.indexer

/-- The member of an instance that a key denotes. -/
def resolveInstance (types : Registry) (t : TypeId) (key : String) : ResolvedMember :=
  let unlessIndex (found : Option ResolvedMember) := if Name.isIndex key then none else found
  (unlessIndex (types.named? t key) <|> types.indexer? t <|>
    unlessIndex (types.explicitlyNamed? t key) <|> types.explicitIndexer? t).getD .undefined

/-- The static property, field or method group of that key that a type itself declares. -/
def static? (types : Registry) (t : TypeId) (key : String) : Option ResolvedMember :=
  ((types.own t TypeEntry.properties).find? fun p => p.isStatic && p.key == key).map
    ResolvedMember.property <|>
  ((types.own t TypeEntry.fields).find? fun f => f.isStatic && f.key == key).map
    ResolvedMember.field <|>
  group? t ((types.own t TypeEntry.methods).filter fun m => m.isStatic && m.key == key)

/-- The static member of a type that a key denotes. -/
def resolveStatic (types : Registry) (t : TypeId) (key : String) : ResolvedMember :=
  if Name.isIndex key then .undefined else (types.static? t key).getD .undefined

/-- The member that a key denotes. -/
def resolve (types : Registry) (t : TypeId) (key : String) (scope : MemberScope) :
    ResolvedMember :=
  if types.isEnumeration t then ((types.constant? t key).map .constant).getD .undefined
  else match scope with
    | .onInstance => types.resolveInstance t key
    | .onType => types.resolveStatic t key

end Registry

end Membrane
