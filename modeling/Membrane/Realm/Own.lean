import Membrane.Realm.Descriptor

/-! # Own properties

`Engine.ownProperty` finds the descriptor of an object's own property. Arrays make one for their
length and for each element. Wrappers and type references go by the normalized name: the first
request for a name that was never used resolves it to a host member and binds the member in the
slot, so that later requests find it there; the elements of an indexer are not bound. A deleted name
stays absent.
-/

namespace Membrane.Engine

/-- The member of a type that a key denotes, by way of the cache. -/
def resolve (E : Engine) (s : Store) (t : TypeId) (key : String) (scope : MemberScope) :
    ResolvedMember × Store :=
  let (member, cache) := s.cache.resolve E.types t key scope
  (member, { s with cache })

/-- Binds a descriptor in a slot. -/
def bind (s : Store) (id : ObjectId) (key : String) (d : Descriptor) : Option Handle × Store :=
  (some ⟨d, some (id, key)⟩, s.modifySlots id (·.setLive key d))

/-- Binds the member of an instance that a name denotes. -/
def bindInstance (E : Engine) (s : Store) (id : ObjectId) (target : HostRef) (name key : String) :
    Option Handle × Store :=
  match E.resolve s target.type key .onInstance with
  | (.field f, s) => bind s id key (.field f (some target))
  | (.property p, s) => bind s id key (.property p (some target) none)
  | (.methodGroup group, s) =>
      let (f, s) := s.bindMethods id key group (some target)
      bind s id key (.data f ⟨true, true, false⟩)
  -- not bound: the indexer sees every spelling of the name for itself
  | (.indexer i, s) => (some ⟨.index i target name, none⟩, s)
  | (.constant _, s) | (.undefined, s) => (none, s)

/-- Binds the static member or constant of a type that a key denotes. -/
def bindStatic (E : Engine) (s : Store) (id : ObjectId) (type : TypeId) (key : String) :
    Option Handle × Store :=
  match E.resolve s type key .onType with
  | (.constant n, s) => bind s id key (.data (.number (.ofInt n.val)) .none)
  | (.property p, s) => bind s id key (.property p none none)
  | (.field f, s) => bind s id key (.field f none)
  | (.methodGroup group, s) =>
      let (f, s) := s.bindMethods id key group none
      bind s id key (.data f .none)
  | (.indexer _, s) | (.undefined, s) => (none, s)

/-- The slot of a normalized name, bound by `bindUnset` if it was never used. -/
def hostSlot (s : Store) (id : ObjectId) (key : String)
    (bindUnset : Store → Option Handle × Store) : Option Handle × Store :=
  match (s.slots id).state key with
  | some (.live d) => (some ⟨d, some (id, key)⟩, s)
  | some .deleted => (some ⟨.absent, none⟩, s)
  | none => bindUnset s

/-- The descriptor in a slot of an object's own table. -/
def tableSlot (s : Store) (id : ObjectId) (name : String) : Option Handle :=
  ((s.slots id).get? name).map (⟨·, some (id, name)⟩)

/-- The descriptor of an own property. -/
def ownProperty (E : Engine) (s : Store) (id : ObjectId) (name : String) :
    Option Handle × Store :=
  match s.sort? id with
  | some (.array elements) =>
      if name == "length" then
        (some ⟨.data (.number (.ofInt elements.size)) ⟨true, false, false⟩, none⟩, s)
      else match Name.index? name with
        | some i => (elements[i]?.map fun v => ⟨.plain v, none⟩, s)
        | none => (tableSlot s id name, s)
  | some (.wrapper target) =>
      let key := Name.normalize name
      hostSlot s id key (E.bindInstance · id target name key)
  | some (.typeReference type) =>
      let key := Name.normalize name
      hostSlot s id key (E.bindStatic · id type key)
  | _ => (tableSlot s id name, s)

/-- Gives out the descriptor of an own property, so that it can be defined under other names as well.
What a write can change of it is shared from then on with the slot that it was found in. -/
def handOut (E : Engine) (s : Store) (id : ObjectId) (name : String) : Option Descriptor × Store :=
  match E.ownProperty s id name with
  | (none, s) => (none, s)
  | (some h, s) =>
      match h.descriptor.sharedIn s.heap.cells.length with
      | none => (some h.descriptor, s)
      | some (d, contents) =>
          let s := (s.addCell contents).2
          match h.home with
          | some (owner, key) => (some d, s.modifySlots owner (·.setLive key d))
          | none => (some d, s)

/-- The names of an object's own properties that are there already: first the elements of an array,
then the live slots in the order of their first use. -/
def ownNames (s : Store) (id : ObjectId) : List String :=
  match s.elements? id with
  | some elements => (List.range elements.size).map toString ++ (s.slots id).liveNames
  | none => (s.slots id).liveNames

end Membrane.Engine
