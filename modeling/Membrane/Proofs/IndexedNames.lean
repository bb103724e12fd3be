import Membrane.Proofs.Absence
import Membrane.Proofs.Definitions
import Membrane.Proofs.Homogenize
import Membrane.Proofs.Reachability
import Membrane.Proofs.ReadOnly
import Membrane.Proofs.RoundTrip
import Membrane.Proofs.WrittenBack

/-!
# Names that an indexer answers

On an instance whose type has nothing but one indexer every name is a key, spelled as the script spells
it, and no name is bound to a slot. But what is deleted is the normalized name, so all its spellings
with it, and a value that is written to a deleted name stands in the one slot that they share
(`Realm.indexed_names`).

## Key results

- `Store.fromHost_adding`: script forms add the same objects to all stores with as many objects
- `Indexer.OverMap`: an indexer that looks its keys up in a map, as typed accessors do
  (`Indexer.overMap_of_dictionary`)
- `Realm.get_key`, `Realm.put_key`: reads and writes of names that were never used
- `Realm.delete_key`, `Realm.put_deleted`: deletions, and writes to what was deleted
- `Realm.indexed_names`: writes and deletions under one name, and reads under another
-/

namespace Membrane

/-! ### Script forms -/

namespace Store

variable {s t : Store}

/-- The store with more objects. -/
def adding (s : Store) (objects : Array ScriptObject) : Store :=
  { s with heap := { s.heap with created := s.heap.created ++ objects } }

/-- No objects are added. -/
theorem adding_empty (s : Store) : s.adding #[] = s := by
  simp [adding]

/-- Objects are added one after another. -/
theorem adding_adding (s : Store) (objects others : Array ScriptObject) :
    (s.adding objects).adding others = s.adding (objects ++ others) := by
  simp [adding, Array.append_assoc]

/-- A new object comes after those that there are. -/
theorem create_eq (s : Store) (o : ScriptObject) :
    s.create o = (.created s.heap.created.size, s.adding #[o]) := by
  simp [create, Heap.create, adding]

mutual

/-- The script form of a value adds objects, and which ones depends on nothing but the number of objects
that there are. -/
theorem fromHost_adding (types : Registry) :
    ∀ (s t : Store) (v : HostValue), t.heap.created.size = s.heap.created.size →
      ∃ form objects, s.fromHost types v = (form, s.adding objects) ∧
        t.fromHost types v = (form, t.adding objects)
  | s, t, .undefined, _ | s, t, .null, _ | s, t, .bool _, _ | s, t, .integer .., _
  | s, t, .float _, _ | s, t, .double _, _ | s, t, .string _, _ | s, t, .constant .., _
  | s, t, .script _, _ => by
    unfold fromHost
    exact ⟨_, #[], by rw [adding_empty], by rw [adding_empty]⟩
  | s, t, .object ref, hsize => by
    unfold fromHost
    simp only [wrap, create_eq, hsize]
    exact ⟨_, _, rfl, rfl⟩
  | s, t, .hostType type, hsize => by
    unfold fromHost
    -- a reference comes with the prototype of its instances, which is created first
    simp only [typeReference, create_eq, adding_adding]
    refine ⟨_, _, rfl, ?_⟩
    simp [adding, hsize]
  | s, t, .array elementType items, hsize => by
    unfold fromHost
    obtain ⟨forms, objects, hs, ht⟩ := fromHostAll_adding types s t items hsize
    simp only [hs, ht, newArray, create_eq, adding_adding]
    refine ⟨_, _, rfl, ?_⟩
    simp [adding, hsize]

/-- The script forms of values add objects likewise. -/
theorem fromHostAll_adding (types : Registry) :
    ∀ (s t : Store) (vs : List HostValue), t.heap.created.size = s.heap.created.size →
      ∃ forms objects, s.fromHostAll types vs = (forms, s.adding objects) ∧
        t.fromHostAll types vs = (forms, t.adding objects)
  | s, t, [], _ => by
    unfold fromHostAll
    exact ⟨_, #[], by rw [adding_empty], by rw [adding_empty]⟩
  | s, t, v :: rest, hsize => by
    obtain ⟨form, objects, hs, ht⟩ := fromHost_adding types s t v hsize
    have hsize' : (t.adding objects).heap.created.size = (s.adding objects).heap.created.size := by
      simp [adding, hsize]
    -- both stores have grown alike, so the rest gets the same identities
    obtain ⟨forms, others, hs', ht'⟩ := fromHostAll_adding types _ _ rest hsize'
    simp only [fromHostAll, hs, ht, hs', ht', adding_adding]
    exact ⟨_, _, rfl, rfl⟩

end

/-- The script form of a value adds objects at most. -/
theorem fromHost_snd (types : Registry) (s : Store) (v : HostValue) :
    ∃ objects, (s.fromHost types v).2 = s.adding objects := by
  obtain ⟨form, objects, hform, -⟩ := fromHost_adding types s s v rfl
  exact ⟨objects, by rw [hform]⟩

end Store

/-! ### Indexers over maps -/

/-- A type that has, along its chain, nothing but one indexer. -/
structure Registry.HasOnlyIndexer (types : Registry) (t : TypeId) (i : Indexer) : Prop where
  enumeration : types.isEnumeration t = false
  properties : types.onChain t TypeEntry.properties = []
  fields : types.onChain t TypeEntry.fields = []
  methods : types.onChain t TypeEntry.methods = []
  indexers : types.onChain t TypeEntry.indexers = [i]

/-- Every name of an instance denotes the indexer. -/
theorem Registry.HasOnlyIndexer.resolve {types : Registry} {t : TypeId} {i : Indexer}
    (h : types.HasOnlyIndexer t i) (key : String) :
    types.resolve t key .onInstance = .indexer i := by
  have hnamed : types.named? t key = none := by
    simp [Registry.named?, h.properties, h.fields, h.methods, Registry.visibleOverloads,
      Registry.group?]
  simp [Registry.resolve, h.enumeration, Registry.resolveInstance, hnamed, Registry.indexer?,
    h.indexers]

/-- The stores differ in the objects of the scripts and in the cache at most. -/
def Store.SameHost (s t : Store) : Prop := ∃ heap cache, t = { s with heap, cache }

/-- An indexer that looks its keys up in a map of the host: a read changes nothing, and depends on
nothing but what the host has; a write changes nothing but what the host has, and leaves the values of
the other keys as they are. -/
structure Indexer.OverMap (R : Realm) (i : Indexer) (target : HostRef) : Prop where
  keyType : i.keyType = .string
  get_store : ∀ get ∈ i.get, ∀ key s, (R.run (get target (.string key)) s).2 = s
  get_host : ∀ get ∈ i.get, ∀ key s t, s.SameHost t →
    (R.run (get target (.string key)) t).1 = (R.run (get target (.string key)) s).1
  set_script : ∀ set ∈ i.set, ∀ key v s, (R.run (set target (.string key) v) s).2.heap = s.heap ∧
    (R.run (set target (.string key) v) s).2.cache = s.cache
  set_other : ∀ get ∈ i.get, ∀ set ∈ i.set, ∀ key other v s, other ≠ key →
    (R.run (get target (.string other)) (R.run (set target (.string key) v) s).2).1 =
      (R.run (get target (.string other)) s).1

/-- What the cache holds is of no consequence for the elements. -/
theorem Indexer.OverMap.get_cache {R : Realm} {i : Indexer} {target : HostRef}
    (h : i.OverMap R target) {get : HostRef → HostValue → Program .value} (hget : get ∈ i.get)
    (key : String) (s : Store) (cache : ResolutionCache) :
    (R.run (get target (.string key)) { s with cache }).1 =
      (R.run (get target (.string key)) s).1 :=
  h.get_host get hget key s { s with cache } ⟨s.heap, cache, rfl⟩

/-! ### Dictionaries -/

/-- An instance whose contents change is shared as before. -/
theorem Store.borrow_modifyInstance {types : Registry} {s : Store} {ref : HostRef} {layout : String}
    {mode : BorrowMode} {held : Instance} {storage : Storage}
    (hheld : s.borrow types ref layout mode = .ok held) (hinstance : s.instances[ref.id]? = some held)
    (hlayout : storage.layout = held.storage.layout) :
    (s.modifyInstance ref.id fun j => { j with storage }).borrow types ref layout mode =
      .ok { held with storage } := by
  simp only [borrow, hinstance] at hheld
  simp only [borrow, modifyInstance, Array.getElem?_modify, if_true, hinstance, Option.map_some,
    hlayout]
  -- the mark and the layout are what a hold looks at, and neither has changed
  split at hheld
  · cases hheld
  · next hadmits =>
    split at hheld
    · cases hheld
    · next hsame => rw [if_neg hadmits, if_neg hsame]

namespace Realm

/-- What an entry of a dictionary gives when it is read. -/
def entryRead (R : Realm) (c : Carrier) (key : String) :
    Except HostError (Option HostValue) → Outcome HostError HostValue
  | .error e => .error e
  | .ok none => .error (.keyNotFound key)
  | .ok (some v) =>
      match R.types.extract c v with
      | .ok r => .ok (c.wrap r)
      | .error e => .panicked (.text e.message)

/-- A body that looks at an instance goes on with its storage, or with the refusal to show it. -/
theorem run_peek (R : Realm) {y : Yield} (ref : HostRef) (layout : String)
    (next : Except HostError Storage → Program y) (s : Store) :
    R.run (.ask (.peek ref layout) next) s =
      R.run (next ((s.borrow R.types ref layout .shared).map (·.storage))) s := by
  simp only [run, answer, peek, Action.bind_apply, Action.capture_apply, Action.getStore]
  cases s.borrow R.types ref layout .shared <;> rfl

/-- A key that is a text is looked up in the dictionary of the instance. -/
theorem run_elementGetter (R : Realm) (layout : String) (c : Carrier) (target : HostRef)
    (key : String) (s : Store) :
    R.run (Accessor.elementGetter layout .string c target (.string key)) s =
      (R.entryRead c key
        ((s.borrow R.types target layout .shared).map (·.storage.dict.find? key)), s) := by
  rw [Accessor.elementGetter, run_extract,
    show R.types.extract .string (.string key) = .ok key from rfl]
  simp only [Accessor.placeOf, Carrier.wrap, HostValue.asInt?]
  rw [run_peek]
  cases s.borrow R.types target layout .shared with
  | error e => rfl
  | ok held =>
    simp only [Except.map, Accessor.lookup]
    cases held.storage.dict.find? key with
    -- a key that is missing is an error of its own
    | none => rfl
    | some v =>
      show R.run (.reread c v) s = _
      rw [Program.reread, run_extract]
      simp only [entryRead]
      cases R.types.extract c v <;> rfl

/-- A write under a key that is a text binds the key in the dictionary at most. -/
theorem run_elementSetter (R : Realm) (layout : String) (c : Carrier) (target : HostRef)
    (key : String) (v : HostValue) (s : Store) :
    (R.run (Accessor.elementSetter layout .string c target (.string key) v) s).2 = s ∨
      ∃ held x, s.borrow R.types target layout .exclusive = .ok held ∧
        (R.run (Accessor.elementSetter layout .string c target (.string key) v) s).2 =
          s.modifyInstance target.id fun j =>
            { j with storage := { held.storage with dict := held.storage.dict.insert key x } } := by
  rw [Accessor.elementSetter, run_extract,
    show R.types.extract .string (.string key) = .ok key from rfl]
  simp only [run_extract]
  cases R.types.extract c v with
  | error e => exact .inl rfl
  | ok x =>
    simp only [Accessor.placeOf, Carrier.wrap, HostValue.asInt?]
    rw [run_update rfl fun _ => rfl]
    simp only [update, Action.bind_apply, Action.getStore]
    cases s.borrow R.types target layout .exclusive with
    | error e => exact .inl rfl
    -- the entry of the key is the only one that is written
    | ok held => exact .inr ⟨held, c.wrap x, rfl, rfl⟩

end Realm

/-- Typed accessors look their keys up in the dictionary of the instance. -/
theorem Indexer.overMap_of_dictionary (R : Realm) {i : Indexer} {layout : String} {c : Carrier}
    (hkey : i.keyType = .string) (hget : i.get = some (Accessor.elementGetter layout .string c))
    (hset : ∀ set ∈ i.set, set = Accessor.elementSetter layout .string c) (target : HostRef) :
    i.OverMap R target where
  keyType := hkey
  get_store get hmem key s := by
    obtain rfl : Accessor.elementGetter layout .string c = get := by simpa [hget] using hmem
    rw [R.run_elementGetter]
  get_host get hmem key s t := by
    rintro ⟨heap, cache, rfl⟩
    obtain rfl : Accessor.elementGetter layout .string c = get := by simpa [hget] using hmem
    rw [R.run_elementGetter, R.run_elementGetter]
    rfl
  -- a write reaches the instance alone, so no object and no slot is changed
  set_script set hmem key v s := by
    obtain rfl := hset set hmem
    obtain hsame | ⟨held, x, -, hmodified⟩ := R.run_elementSetter layout c target key v s
    · rw [hsame]
      exact ⟨rfl, rfl⟩
    · rw [hmodified]
      exact ⟨rfl, rfl⟩
  set_other get hmem set hmem' key other v s hne := by
    obtain rfl : Accessor.elementGetter layout .string c = get := by simpa [hget] using hmem
    obtain rfl := hset set hmem'
    obtain hsame | ⟨held, x, hheld, hmodified⟩ := R.run_elementSetter layout c target key v s
    · rw [hsame]
    · obtain ⟨hshared, hinstance⟩ := Store.borrow_shared hheld
      -- what is written can be shared afterwards, as it could be held alone before
      let bound : Storage := { held.storage with dict := held.storage.dict.insert key x }
      have hbound : (s.modifyInstance target.id fun j => { j with storage := bound }).borrow R.types
          target layout .shared = .ok { held with storage := bound } :=
        Store.borrow_modifyInstance hshared hinstance rfl
      have hentry : bound.dict.find? other = held.storage.dict.find? other :=
        TextMap.find?_insert_of_ne _ _ hne
      rw [hmodified, R.run_elementGetter, R.run_elementGetter, hshared, hbound]
      simp only [Except.map, hentry]

/-- The only indexer of a type of maps. -/
def mapIndexer : Indexer :=
  .make .string .string (some (Accessor.elementGetter "Map" .string .string))
    (some (Accessor.elementSetter "Map" .string .string))

/-- A type of maps. -/
def mapType : Registry :=
  (Registry.empty.declare ((TypeEntry.make "Map" .reference).withIndexer mapIndexer)).2

/-- A map with two keys that differ in letter case alone. -/
def mapInstance : Store :=
  (Store.initial.newInstance (.declared 0)
    { Storage.empty "Map" with dict := .ofList [("Foo", .string "upper"), ("foo", .string "lower")] }).2

/-- The map has its indexer and nothing else. -/
theorem hasOnlyIndexer_mapType : mapType.HasOnlyIndexer (.declared 0) mapIndexer :=
  ⟨rfl, rfl, rfl, rfl, rfl⟩

/-! ### Reads and writes of elements -/

namespace Realm

open Action

variable {R : Realm} {i : Indexer} {target : HostRef} {s t : Store} {id : ObjectId}
  {name : String}

/-- A text is its own key. -/
theorem indexKey_of_string (R : Realm) (hkey : i.keyType = .string) (name : String) :
    R.indexKey i name = .ok (.string name) := by
  have hassignable : R.types.isAssignable .string .string = true := by
    simp [Registry.isAssignable, Registry.ancestry, Registry.ancestryWithin]
  rw [indexKey, hkey]
  exact Registry.coerce_of_isAssignable rfl hassignable

/-- How an element is read, by how its body ends. -/
theorem readIndexed_eq (R : Realm) {get : Action HostError HostValue}
    {outcome : Outcome HostError HostValue} (hget : get s = (outcome, t)) :
    R.readIndexed get s = match outcome with
      | .ok v => R.fromHost v t
      | .error (.keyNotFound _) => (.ok .undefined, t)
      | .error e => (.error (.host e), t)
      | .panicked payload => (.error (.host (.panicked payload.message)), t)
      | .exhausted => (.exhausted, t) := by
  simp only [readIndexed, bind_apply, capture_apply, contained, hget]
  cases outcome with
  -- a missing key is answered, every other error is passed on
  | error e => cases e <;> rfl
  | _ => rfl

/-- Elements that are read alike by the bodies are read alike by scripts, where there are as many
objects. -/
theorem read_key_congr (hmap : i.OverMap R target) (hsize : t.heap.created.size = s.heap.created.size)
    (hrun : ∀ get ∈ i.get, (R.run (get target (.string name)) t).1 =
      (R.run (get target (.string name)) s).1) :
    (R.read (.index i target name) t).1 = (R.read (.index i target name) s).1 := by
  simp only [read, R.indexKey_of_string hmap.keyType]
  cases hget : i.get with
  | none => rfl
  | some get =>
    dsimp only
    -- both runs of the getter leave their stores as they are
    obtain ⟨outcome, hs, ht⟩ : ∃ outcome, R.run (get target (.string name)) s = (outcome, s) ∧
        R.run (get target (.string name)) t = (outcome, t) :=
      ⟨_, Prod.ext rfl (hmap.get_store get hget name s),
        Prod.ext (hrun get hget) (hmap.get_store get hget name t)⟩
    rw [R.readIndexed_eq hs, R.readIndexed_eq ht]
    cases outcome with
    | ok v =>
      obtain ⟨form, objects, hs', ht'⟩ := Store.fromHost_adding R.types s t v hsize
      simp only [fromHost, Action.state, hs', ht']
    | error e => cases e <;> rfl
    | panicked payload => rfl
    | exhausted => rfl

/-- A write of an element runs the writing body at its key at most. -/
theorem write_key_cases (R : Realm) (hkey : i.keyType = .string) (value : ScriptValue) (s : Store) :
    (R.write (.index i target name) value s).2 = s ∨ ∃ set ∈ i.set, ∃ v,
      (R.write (.index i target name) value s).2 = (R.run (set target (.string name) v) s).2 := by
  cases hset : i.set with
  | none =>
    simp only [write, hset]
    exact .inl rfl
  | some set =>
    have hwrite : R.write (.index i target name) value = (do
        let v ← (R.convertTo value i.valueType).mapError BridgeError.conversion
        guarded (R.run (set target (.string name) v))
        return .index i target name) := by
      simp only [write, hset, R.indexKey_of_string hkey]
      rfl
    rw [hwrite, bind_apply, Action.mapError]
    -- a conversion changes nothing; only where it succeeds is the setter entered
    cases hconvert : R.convertTo value i.valueType s with
    | mk outcome u =>
      obtain rfl : u = s := by rw [← R.store_convertTo value i.valueType s, hconvert]
      cases outcome with
      | ok v =>
        refine .inr ⟨set, rfl, v, ?_⟩
        simp only [bind_apply, guarded, Action.mapError, contained]
        cases R.run (set target (.string name) v) u with
        | mk outcome u' => cases outcome <;> rfl
      | _ => exact .inl rfl

/-- A write through the indexer leaves what its setter leaves, if it is entered. -/
theorem putThrough_key_cases (R : Realm) (hkey : i.keyType = .string) (value : ScriptValue)
    (strict : Bool) (s : Store) :
    (R.putThrough ⟨.index i target name, none⟩ name value strict s).2 = s ∨ ∃ set ∈ i.set, ∃ v,
      (R.putThrough ⟨.index i target name, none⟩ name value strict s).2 =
        (R.run (set target (.string name) v) s).2 := by
  cases hwritable : (Descriptor.index i target name).isWritable with
  | true =>
    have hstore : (R.putThrough ⟨.index i target name, none⟩ name value strict s).2 =
        (R.write (.index i target name) value s).2 := by
      simp only [putThrough, hwritable, if_true, writeThrough, bind_apply]
      cases R.write (.index i target name) value s with
      | mk outcome u => cases outcome <;> rfl
    -- such a descriptor stands in no slot, so nothing is put back
    rw [hstore]
    exact R.write_key_cases hkey value s
  | false =>
    simp only [putThrough, hwritable]
    cases strict <;> exact .inl rfl

end Realm

/-! ### Names that are no slots -/

namespace Store

variable {types : Registry} {s t : Store} {id : ObjectId} {target : HostRef}

/-- What stands for an instance is a host object. -/
theorem isHostObject_of_hostTarget? (htarget : s.hostTarget? id = some target) :
    s.isHostObject id := by
  simp [isHostObject, hostTarget?_eq_some_iff.1 htarget]

/-- A change of slots leaves what a wrapper stands for. -/
theorem hostTarget?_modifySlots (f : SlotTable Descriptor → SlotTable Descriptor)
    (htarget : s.hostTarget? id = some target) :
    (s.modifySlots id f).hostTarget? id = some target := by
  rw [hostTarget?_eq_some_iff, s.sort?_modifySlots]
  exact hostTarget?_eq_some_iff.1 htarget

/-- A store that differs in nothing of the scripts but the cache. -/
theorem changesOnly_of_heap (hheap : t.heap = s.heap) (hs : s.cache.Sound types)
    (ht : t.cache.Sound types) : ChangesOnly types id s t where
  others p _ := by simp only [object?, hheap]
  prototype p := by rw [hheap]
  cache type key scope := by rw [hs.resolve_fst, ht.resolve_fst]

end Store

namespace Realm

open Action

variable {R : Realm} {i : Indexer} {target : HostRef} {s t : Store} {id : ObjectId}
  {name : String}

/-- A name that was never used is the key of an element. -/
theorem ownProperty_key (E : Engine) (htarget : s.hostTarget? id = some target)
    (hcache : s.cache.Sound E.types)
    (hresolve : E.types.resolve target.type (Name.normalize name) .onInstance = .indexer i)
    (hunset : (s.slots id).state (Name.normalize name) = none) :
    ∃ cache : ResolutionCache, cache.Sound E.types ∧
      E.ownProperty s id name = (some ⟨.index i target name, none⟩, { s with cache }) := by
  have hsort := Store.hostTarget?_eq_some_iff.1 htarget
  have hmember : (s.cache.resolve E.types target.type (Name.normalize name) .onInstance).1 =
      .indexer i := by
    rw [hcache.resolve_fst, hresolve]
  refine ⟨_, hcache.resolve_snd target.type (Name.normalize name) .onInstance, ?_⟩
  simp only [Engine.ownProperty, hsort, Engine.hostSlot, hunset, Engine.bindInstance, Engine.resolve]
  -- the cache answers the indexer, whatever it holds
  generalize s.cache.resolve E.types target.type (Name.normalize name) .onInstance = r at hmember
  obtain ⟨member, cache⟩ := r
  cases hmember
  rfl

/-- A name that was never used is read as the element at this key. -/
theorem get_key (R : Realm) (htarget : s.hostTarget? id = some target)
    (hcache : s.cache.Sound R.types)
    (hresolve : R.types.resolve target.type (Name.normalize name) .onInstance = .indexer i)
    (hunset : (s.slots id).state (Name.normalize name) = none) :
    ∃ cache : ResolutionCache, cache.Sound R.types ∧
      R.get id name s = R.read (.index i target name) { s with cache } := by
  obtain ⟨cache, hsound, hown⟩ := ownProperty_key R.toEngine htarget hcache hresolve hunset
  refine ⟨cache, hsound, ?_⟩
  show R.getFrom name (id :: (s.heap.chain id).tail) s = _
  simp only [getFrom, bind_apply, present, own, Action.state, hown, pure_apply]
  rfl

/-- A name is looked for behind an object, and nothing is found if nothing there has it. -/
def LooksBehind (R : Realm) (id : ObjectId) (name : String) (s : Store) : Prop :=
  R.get id name s = R.getFrom name (s.heap.chain id).tail s ∧
    (R.toEngine.NothingBehind s id name → (R.get id name s).1 = .ok .undefined)

/-- A deleted name is looked for behind the wrapper. -/
theorem looksBehind_of_deleted (R : Realm) (htarget : s.hostTarget? id = some target)
    (hdeleted : (s.slots id).state (Name.normalize name) = some .deleted) :
    R.LooksBehind id name s := by
  have hhost := Store.isHostObject_of_hostTarget? htarget
  have hown := Engine.ownProperty_of_state (E := R.toEngine) hhost hdeleted
  have hget := Engine.get_of_absent R hown
  have hself : R.toEngine.lacks s id name := by
    rw [Engine.lacks, hown]
    rfl
  -- a deleted slot is passed over, so nothing of the object itself is found
  refine ⟨hget, fun hbehind => ?_⟩
  obtain ⟨cache, hnothing, -⟩ := R.getFrom_of_lacks (hbehind.lacks hself)
  show (R.getFrom name (id :: (s.heap.chain id).tail) s).1 = _
  rw [hnothing]

/-- A write to a name that was never used changes nothing but what the host has, and leaves the elements
at the other keys as they are. -/
theorem put_key (R : Realm) (htarget : s.hostTarget? id = some target)
    (hcache : s.cache.Sound R.types) (honly : R.types.HasOnlyIndexer target.type i)
    (hmap : i.OverMap R target) (hunset : (s.slots id).state (Name.normalize name) = none)
    (value : ScriptValue) (strict : Bool) :
    let t := (R.put id name value strict s).2
    t.heap = s.heap ∧ t.cache.Sound R.types ∧ ∀ get ∈ i.get, ∀ other, other ≠ name →
      (R.run (get target (.string other)) t).1 = (R.run (get target (.string other)) s).1 := by
  have hhost := Store.isHostObject_of_hostTarget? htarget
  have hlive : ¬ (s.slots id).isDeleted (Name.normalize name) := by
    simp [SlotTable.isDeleted_of_unused hunset]
  obtain ⟨cache, hsound, hown⟩ := ownProperty_key R.toEngine htarget hcache (honly.resolve _) hunset
  have hput : R.put id name value strict s =
      R.putThrough ⟨.index i target name, none⟩ name value strict { s with cache } := by
    rw [Tracked.put_of_host R hhost, Tracked.hostPut_of_own R value strict hlive, hown]
    rfl
  -- the setter changes the instance alone, and there only the entry of this key
  rw [hput]
  obtain hsame | ⟨set, hset, v, hrun⟩ :=
    R.putThrough_key_cases hmap.keyType value strict { s with cache }
  · rw [hsame]
    exact ⟨rfl, hsound, fun get hget other _ => hmap.get_cache hget other s cache⟩
  · obtain ⟨hheap, hkept⟩ := hmap.set_script set hset name v { s with cache }
    rw [hrun]
    refine ⟨hheap, by rw [hkept]; exact hsound, fun get hget other hne => ?_⟩
    rw [hmap.set_other get hget set hset name other v _ hne, hmap.get_cache hget other s cache]

/-! ### Two names -/

/-- A name of a wrapper reads as before: one that was deleted goes on to be looked for behind the
wrapper, and every other gives what it gave. -/
def ReadsAlike (R : Realm) (id : ObjectId) (name : String) (s t : Store) : Prop :=
  if (s.slots id).isDeleted (Name.normalize name) then
    R.LooksBehind id name s ∧ R.LooksBehind id name t
  else (R.get id name t).1 = (R.get id name s).1

/-- A name reads as before if its slot and its element are what they were. -/
theorem readsAlike (htarget : s.hostTarget? id = some target) (hcache : s.cache.Sound R.types)
    (honly : R.types.HasOnlyIndexer target.type i) (hmap : i.OverMap R target)
    (hfree : (s.slots id).get? (Name.normalize name) = none)
    (htarget' : t.hostTarget? id = some target) (hcache' : t.cache.Sound R.types)
    (hsize : t.heap.created.size = s.heap.created.size)
    (hstate : (t.slots id).state (Name.normalize name) = (s.slots id).state (Name.normalize name))
    (hrun : ∀ get ∈ i.get, (R.run (get target (.string name)) t).1 =
      (R.run (get target (.string name)) s).1) : R.ReadsAlike id name s t := by
  unfold ReadsAlike
  obtain hunused | hslot := SlotTable.state_of_get?_none hfree
  · -- both reads go to the indexer, each with what it has put into the cache
    have hlive : ¬ (s.slots id).isDeleted (Name.normalize name) := by
      simp [SlotTable.isDeleted_of_unused hunused]
    obtain ⟨cache, -, hs⟩ := R.get_key htarget hcache (honly.resolve _) hunused
    obtain ⟨cache', -, ht⟩ := R.get_key htarget' hcache' (honly.resolve _) (hstate.trans hunused)
    rw [if_neg hlive, hs, ht]
    refine read_key_congr (s := { s with cache }) (t := { t with cache := cache' }) hmap hsize
      fun get hget => ?_
    rw [hmap.get_cache hget name t cache', hmap.get_cache hget name s cache]
    exact hrun get hget
  · have hdeleted : (s.slots id).isDeleted (Name.normalize name) = true :=
      SlotTable.isDeleted_of_state hslot
    rw [if_pos hdeleted]
    exact ⟨R.looksBehind_of_deleted htarget hslot,
      R.looksBehind_of_deleted htarget' (hstate.trans hslot)⟩

/-- A change of the wrapper's slots leaves the other names as they are. -/
theorem readsAlike_modifySlots (htarget : s.hostTarget? id = some target)
    (hcache : s.cache.Sound R.types) (honly : R.types.HasOnlyIndexer target.type i)
    (hmap : i.OverMap R target) (hfree : (s.slots id).get? (Name.normalize name) = none)
    {f : SlotTable Descriptor → SlotTable Descriptor}
    (hstate : ((s.modifySlots id f).slots id).state (Name.normalize name) =
      (s.slots id).state (Name.normalize name)) : R.ReadsAlike id name s (s.modifySlots id f) :=
  readsAlike htarget hcache honly hmap hfree (Store.hostTarget?_modifySlots f htarget) hcache
    (Engine.size_modifySlots s id f) hstate
    fun get hget => hmap.get_host get hget name s _ ⟨_, s.cache, rfl⟩

/-- A deletion of a name deletes all its spellings, and leaves every other name as it is. -/
theorem delete_key (R : Realm) (htarget : s.hostTarget? id = some target)
    (hcache : s.cache.Sound R.types) (honly : R.types.HasOnlyIndexer target.type i)
    (hmap : i.OverMap R target) {a b : String} (hb : (s.slots id).get? (Name.normalize b) = none)
    (strict : Bool) :
    let t := (R.delete id a strict s).2
    (if Name.normalize a = Name.normalize b then R.LooksBehind id b t else R.ReadsAlike id b s t) ∧
      Store.ChangesOnly R.types id s t := by
  intro t
  have hhost := Store.isHostObject_of_hostTarget? htarget
  have hdelete : t = s.modifySlots id (·.markDeleted (Name.normalize a)) :=
    congrArg Prod.snd (Tracked.delete_of_host R hhost a strict)
  rw [hdelete]
  refine ⟨?_, Store.changesOnly_modifyObject _ _ fun _ => rfl⟩
  -- one slot for both spellings, or a slot that the deletion leaves alone
  split
  · next hsame =>
    have hstate : ((s.modifySlots id (·.markDeleted (Name.normalize a))).slots id).state
        (Name.normalize b) = some .deleted := by
      rw [Store.slots_modifySlots_self s _ (Store.isSome_of_isHostObject hhost), ← hsame,
        SlotTable.state_markDeleted]
    exact R.looksBehind_of_deleted (Store.hostTarget?_modifySlots _ htarget) hstate
  · next hother =>
    exact readsAlike_modifySlots htarget hcache honly hmap hb
      (Store.state_markDeleted_other s id (Ne.symm hother))

/-- A write to a deleted name binds all its spellings to the value, and leaves every other name as it
is. -/
theorem put_deleted (R : Realm) (htarget : s.hostTarget? id = some target)
    (hcache : s.cache.Sound R.types) (honly : R.types.HasOnlyIndexer target.type i)
    (hmap : i.OverMap R target) {a b : String} (hdeleted : (s.slots id).isDeleted (Name.normalize a))
    (hb : (s.slots id).get? (Name.normalize b) = none) (value : ScriptValue) (strict : Bool) :
    let t := (R.put id a value strict s).2
    (if Name.normalize a = Name.normalize b then R.get id b t = (.ok value, t)
      else R.ReadsAlike id b s t) ∧ Store.ChangesOnly R.types id s t := by
  intro t
  have hhost := Store.isHostObject_of_hostTarget? htarget
  have hput : t = s.modifySlots id (·.setLive (Name.normalize a) (.plain value)) := by
    show (R.put id a value strict s).2 = _
    rw [Tracked.put_of_host R hhost, Tracked.hostPut_of_deleted R value strict hdeleted]
  rw [hput]
  refine ⟨?_, Store.changesOnly_modifyObject _ _ fun _ => rfl⟩
  -- a deleted slot takes the value, and every name with that slot finds it
  split
  · next hsame =>
    have hstate : ((s.modifySlots id (·.setLive (Name.normalize a) (.plain value))).slots id).state
        (Name.normalize b) = some (.live (.plain value)) := by
      rw [Store.slots_modifySlots_self s _ (Store.isSome_of_isHostObject hhost), ← hsame,
        SlotTable.state_setLive]
    have hhost' : (s.modifySlots id
        (·.setLive (Name.normalize a) (.plain value))).isHostObject id :=
      Store.isHostObject_of_hostTarget? (Store.hostTarget?_modifySlots _ htarget)
    rw [R.get_of_own (Engine.ownProperty_of_state (E := R.toEngine) hhost' hstate) rfl]
    rfl
  · next hother =>
    exact readsAlike_modifySlots htarget hcache honly hmap hb
      (Store.state_setLive_other s id (Ne.symm hother) _)

/-- Two names, neither of which is bound to a slot, of a wrapper that is come to in whatever way. A
deletion under one of them deletes all its spellings, and these are looked for behind the wrapper from
then on; a value that is written to a deleted name is read under all its spellings. Apart from that
neither a write nor a deletion under one name changes what is read under the other, whether they differ
in letter case alone or not; and neither shows behind the wrapper. -/
theorem indexed_names (E : Engine) (depth : ℕ) {s₀ s : Store} {id : ObjectId} {target : HostRef}
    {i : Indexer} (hstart : s₀.cache.Sound E.types) (hleads : E.LeadsTo s₀ s)
    (htarget : s.hostTarget? id = some target) (honly : E.types.HasOnlyIndexer target.type i)
    (hmap : i.OverMap (E.realm depth) target) {a b : String} (hne : a ≠ b)
    (ha : (s.slots id).get? (Name.normalize a) = none)
    (hb : (s.slots id).get? (Name.normalize b) = none) (value : ScriptValue) (strict : Bool) :
    let R := E.realm depth
    let deleted := (R.delete id a strict s).2
    let put := (R.put id a value strict s).2
    ((if Name.normalize a = Name.normalize b then R.LooksBehind id b deleted
        else R.ReadsAlike id b s deleted) ∧ Store.ChangesOnly E.types id s deleted) ∧
      (if Name.normalize a = Name.normalize b ∧ (s.slots id).isDeleted (Name.normalize a) then
        R.get id b put = (.ok value, put)
      else R.ReadsAlike id b s put) ∧ Store.ChangesOnly E.types id s put := by
  intro R deleted put
  have hcache : s.cache.Sound E.types := hleads.sound hstart
  refine ⟨R.delete_key htarget hcache honly hmap hb strict, ?_⟩
  obtain hunused | hslot := SlotTable.state_of_get?_none ha
  · -- the value goes to the host, and nothing that scripts have is changed
    have hlive : ¬ (s.slots id).isDeleted (Name.normalize a) := by
      simp [SlotTable.isDeleted_of_unused hunused]
    obtain ⟨hheap, hsound, hothers⟩ := R.put_key htarget hcache honly hmap hunused value strict
    have hheap : put.heap = s.heap := hheap
    have hslots : put.slots id = s.slots id := by
      simp only [Store.slots, Store.object?, hheap]
    have htarget' : put.hostTarget? id = some target := by
      rw [← htarget]
      simp only [Store.hostTarget?, Store.sort?, Store.object?, hheap]
    rw [if_neg fun h => hlive h.2]
    exact ⟨readsAlike htarget hcache honly hmap hb htarget' hsound (by rw [hheap]) (by rw [hslots])
      fun get hget => hothers get hget b (Ne.symm hne), Store.changesOnly_of_heap hheap hcache hsound⟩
  · have hdeleted : (s.slots id).isDeleted (Name.normalize a) := SlotTable.isDeleted_of_state hslot
    simp only [hdeleted, and_true]
    exact R.put_deleted htarget hcache honly hmap hdeleted hb value strict

/-- The two keys of the map, of which one is written and deleted. -/
theorem indexed_names_of_map :
    let E : Engine := ⟨mapType, .default, .byCost⟩
    let R := E.realm 0
    let id := ObjectId.created 3
    let target : HostRef := ⟨.declared 0, 0⟩
    let s := (mapInstance.wrap mapType target).2
    (E.LeadsTo mapInstance s ∧ s.hostTarget? id = some target ∧ mapIndexer.OverMap R target) ∧
      (R.get id "foo" (R.put id "Foo" (.string "new") true s).2).1 = (R.get id "foo" s).1 ∧
      R.LooksBehind id "foo" (R.delete id "Foo" true s).2 := by
  intro E R id target s
  have hleads : E.LeadsTo mapInstance s :=
    .single (.create (Store.wrapperOf mapType target) mapInstance)
  have hmap : mapIndexer.OverMap R target :=
    mapIndexer.overMap_of_dictionary R rfl rfl (fun set hset => (Option.some.inj hset).symm) target
  have hsame : Name.normalize "Foo" = Name.normalize "foo" := by decide +kernel
  have htarget : s.hostTarget? id = some target := rfl
  obtain ⟨⟨hdeleted, -⟩, hput, -⟩ := indexed_names E 0 (ResolutionCache.sound_empty _) hleads htarget
    hasOnlyIndexer_mapType hmap (by decide : "Foo" ≠ "foo") rfl rfl (.string "new") true
  -- nothing of the wrapper has been used yet
  have hunset (name : String) : ¬ (s.slots id).isDeleted name := Bool.false_ne_true
  refine ⟨⟨hleads, htarget, hmap⟩, ?_, ?_⟩
  · rw [if_neg fun h => hunset _ h.2, ReadsAlike, if_neg (hunset _)] at hput
    exact hput
  · rwa [if_pos hsame] at hdeleted

/-- The spellings of a name do not always keep apart: a deletion of one deletes the other, and so does a
write to a deleted name show under the other. -/
theorem names_with_one_slot :
    let R := Engine.realm ⟨mapType, .default, .byCost⟩ 0
    let id := ObjectId.created 3
    let s := (mapInstance.wrap mapType ⟨.declared 0, 0⟩).2
    let s' := (R.delete id "foo" true s).2
    mapType.HasOnlyIndexer (.declared 0) mapIndexer ∧
      (R.get id "foo" s).1 = .ok (.string "lower") ∧
      (R.get id "foo" (R.delete id "Foo" true s).2).1 = .ok .undefined ∧
      (s'.slots id).get? (Name.normalize "foo") = none ∧ (R.get id "foo" s').1 = .ok .undefined ∧
      (R.get id "foo" (R.put id "Foo" (.string "new") true s').2).1 = .ok (.string "new") := by
  intro R id s s'
  refine ⟨hasOnlyIndexer_mapType, ?_, ?_, ?_, ?_, ?_⟩ <;> rfl

end Realm

end Membrane
