import Membrane.Member.Cache
import Membrane.Object.Heap
import Membrane.View

/-! # The store

Everything that a step of a script can change: the script objects, the host instances with their
storage and borrow state, the static variables, the resolution cache, the global variables, and the
log of calls.
-/

namespace Membrane

/-- How an instance is held at the moment: by how many calls together, or by one alone. -/
structure BorrowState where
  shared : Nat
  exclusive : Bool
  deriving DecidableEq, Repr

/-- Held by no call. -/
def BorrowState.free : BorrowState := ⟨0, false⟩

namespace BorrowState

/-- A call may hold the instance in this mode beside those that hold it already. -/
def admits (b : BorrowState) : BorrowMode → Bool
  | .shared => !b.exclusive
  | .exclusive => !b.exclusive && b.shared == 0

/-- One more call holds the instance. -/
def acquire (b : BorrowState) : BorrowMode → BorrowState
  | .shared => { b with shared := b.shared + 1 }
  | .exclusive => { b with exclusive := true }

/-- The call that held the instance last lets it go. -/
def release (b : BorrowState) : BorrowMode → BorrowState
  | .shared => { b with shared := b.shared - 1 }
  | .exclusive => { b with exclusive := false }

/-- Taking a mark back undoes setting it. -/
theorem release_acquire {b : BorrowState} {mode : BorrowMode} (h : b.admits mode) :
    (b.acquire mode).release mode = b := by
  obtain ⟨shared, exclusive⟩ := b
  cases mode <;> cases exclusive <;> simp_all [admits, acquire, release]

end BorrowState

/-- A host instance. -/
structure Instance where
  type : TypeId
  storage : Storage
  borrow : BorrowState

/-- Everything that a step of a script can change. -/
structure Store where
  heap : Heap
  instances : Array Instance
  statics : List (StaticKey × HostValue)
  cache : ResolutionCache
  globals : List (String × ScriptValue)
  calls : Array CallRecord
  labels : Labels

namespace Store

/-- The object that ends every prototype chain. -/
def objectPrototype : ObjectId := .created 0

/-- The prototype of functions. -/
def functionPrototype : ObjectId := .created 1

/-- The prototype of arrays. -/
def arrayPrototype : ObjectId := .created 2

/-- The store that a script starts with: nothing but the three prototypes. -/
def initial : Store where
  heap := ⟨#[.make .plain none, .make .plain (some objectPrototype),
    .make .plain (some objectPrototype)], [], []⟩
  instances := #[]
  statics := []
  cache := .empty
  globals := []
  calls := #[]
  labels := .empty

/-! ### Objects -/

def object? (s : Store) (id : ObjectId) : Option ScriptObject := s.heap.object? id

/-- The sort of an object. -/
def sort? (s : Store) (id : ObjectId) : Option ObjectSort := (s.object? id).map ScriptObject.sort

/-- The elements of a script array. -/
def elements? (s : Store) (id : ObjectId) : Option (Array ScriptValue) :=
  match s.sort? id with
  | some (.array elements) => some elements
  | _ => none

/-- The instance behind a wrapper. -/
def hostTarget? (s : Store) (id : ObjectId) : Option HostRef :=
  match s.sort? id with
  | some (.wrapper target) => some target
  | _ => none

/-- The type behind a type reference. -/
def referencedType? (s : Store) (id : ObjectId) : Option TypeId :=
  match s.sort? id with
  | some (.typeReference type) => some type
  | _ => none

/-- Functions, method groups and type references can be called. -/
def isCallable (s : Store) (id : ObjectId) : Bool :=
  match s.sort? id with
  | some (.function ..) | some (.methods ..) | some (.typeReference _) => true
  | _ => false

/-- The class that diagnostics give an object. -/
def className (s : Store) (types : Registry) (id : ObjectId) : String :=
  match s.sort? id with
  | some .plain | none => "Object"
  | some (.array _) => "Array"
  | some (.function ..) => "Function"
  | some (.methods group _) => group.name
  | some (.wrapper target) => types.name target.type
  | some (.typeReference type) => types.name type

/-- An object can be read as a sequence. -/
def isArrayLike (s : Store) (types : Registry) (id : ObjectId) : Bool :=
  match s.sort? id with
  | some (.array _) => true
  | some (.wrapper target) => types.isCountable target.type
  | _ => false

/-- The tag of a value, as `typeof` gives it. -/
def typeTag (s : Store) : ScriptValue → String
  | .undefined => "undefined"
  | .null => "null"
  | .boolean _ => "boolean"
  | .number _ => "number"
  | .string _ => "string"
  | .object id => if s.isCallable id then "function" else "object"

/-- The own slots of an object. -/
def slots (s : Store) (id : ObjectId) : SlotTable Descriptor :=
  ((s.object? id).map ScriptObject.slots).getD .empty

/-- Changes one object. -/
def modifyObject (s : Store) (id : ObjectId) (f : ScriptObject → ScriptObject) : Store :=
  { s with heap := s.heap.modify id f }

/-- Changes the own slots of an object. -/
def modifySlots (s : Store) (id : ObjectId)
    (f : SlotTable Descriptor → SlotTable Descriptor) : Store :=
  s.modifyObject id fun o => { o with slots := f o.slots }

/-- Changes the elements of a script array. -/
def setElements (s : Store) (id : ObjectId) (elements : Array ScriptValue) : Store :=
  s.modifyObject id fun o => { o with sort := .array elements }

/-- Changes the contents of a cell. -/
def setCell (s : Store) (index : Nat) (contents : Option ScriptValue) : Store :=
  { s with heap := s.heap.setCell index contents }

/-- Adds a cell. -/
def addCell (s : Store) (contents : Option ScriptValue) : Nat × Store :=
  let (cell, heap) := s.heap.addCell contents
  (cell, { s with heap })

/-- Adds an object. -/
def create (s : Store) (o : ScriptObject) : ObjectId × Store :=
  let (id, heap) := s.heap.create o
  (id, { s with heap })

/-- The sort of an object is read from it. -/
theorem sort?_of_object? {s : Store} {id : ObjectId} {o : ScriptObject} (ho : s.object? id = some o) :
    s.sort? id = some o.sort := by
  rw [sort?, ho, Option.map_some]

/-- The slots of an object are read from it. -/
theorem slots_of_object? {s : Store} {id : ObjectId} {o : ScriptObject}
    (ho : s.object? id = some o) : s.slots id = o.slots := by
  rw [slots, ho, Option.map_some, Option.getD_some]

/-- Changing the slots of an object leaves the others. -/
theorem object?_modifySlots_of_ne (s : Store) {id other : ObjectId}
    (f : SlotTable Descriptor → SlotTable Descriptor) (hne : other ≠ id) :
    (s.modifySlots id f).object? other = s.object? other :=
  s.heap.object?_modify_of_ne _ hne

/-- Slots can change, but an object stays of its sort. -/
theorem sort?_modifySlots (s : Store) (id other : ObjectId)
    (f : SlotTable Descriptor → SlotTable Descriptor) :
    (s.modifySlots id f).sort? other = s.sort? other := by
  by_cases h : other = id
  · subst h
    show ((s.heap.modify other _).object? other).map ScriptObject.sort = _
    rw [Heap.object?_modify_self, Option.map_map]
    rfl
  · show ((s.modifySlots id f).object? other).map ScriptObject.sort = _
    rw [object?_modifySlots_of_ne s f h]
    rfl

/-- The slots of an object that are changed. -/
theorem slots_modifySlots_self (s : Store) {id : ObjectId}
    (f : SlotTable Descriptor → SlotTable Descriptor) (hid : (s.object? id).isSome) :
    (s.modifySlots id f).slots id = f (s.slots id) := by
  obtain ⟨o, ho⟩ := Option.isSome_iff_exists.1 hid
  have hmodified : (s.modifySlots id f).object? id = some { o with slots := f o.slots } := by
    show (s.heap.modify id _).object? id = _
    rw [Heap.object?_modify_self, show s.heap.object? id = some o from ho]
    rfl
  simp only [slots, hmodified, ho, Option.map_some, Option.getD_some]

/-! ### Instances -/

/-- Adds an instance. -/
def newInstance (s : Store) (type : TypeId) (storage : Storage) : HostRef × Store :=
  (⟨type, s.instances.size⟩, { s with instances := s.instances.push ⟨type, storage, .free⟩ })

/-- Changes one instance. -/
def modifyInstance (s : Store) (id : Nat) (f : Instance → Instance) : Store :=
  { s with instances := s.instances.modify id f }

/-- The instance if a call may hold it in a mode and it has the expected layout; otherwise the
refusal. An instance that is held by another call is refused before its layout is looked at. -/
def borrow (s : Store) (types : Registry) (ref : HostRef) (layout : String) (mode : BorrowMode) :
    Except HostError Instance :=
  match s.instances[ref.id]? with
  | none => .error (.busy (types.name ref.type))
  | some i =>
      -- busy comes first, even if the layout would not fit either
      if !i.borrow.admits mode then .error (.busy (types.name ref.type))
      else if i.storage.layout != layout then
        .error (.targetMismatch layout (types.name ref.type))
      else .ok i

/-! ### Variables -/

def readStatic (s : Store) (key : StaticKey) : Option HostValue := s.statics.lookup key

def writeStatic (s : Store) (key : StaticKey) (v : HostValue) : Store :=
  { s with statics := (key, v) :: s.statics.filter (·.1 != key) }

/-- A global variable; undefined if it was never set. -/
def global (s : Store) (name : String) : ScriptValue := (s.globals.lookup name).getD .undefined

def setGlobal (s : Store) (name : String) (v : ScriptValue) : Store :=
  { s with globals := (name, v) :: s.globals.filter (·.1 != name) }

end Store

end Membrane
