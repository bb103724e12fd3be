import Membrane.Proofs.EndlessConversion
import Membrane.Proofs.OwnProperties
import Membrane.Proofs.SequenceRoundTrip

/-!
# Grounded values and programs

The function for a host method has its identity from the slot that it stands in, but it is made when
the slot is first asked for. Until then nothing refers to it: scripts and host code come by an
identity in no other way than by being given it. A value is *grounded* in a store if the functions
that it refers to are there, and a program is grounded if it asks for nothing and results in nothing
that is not, as long as what it is given is grounded in the store of that moment.

What is grounded stays so while the store grows (`Store.Grows`). The members of a registry are
grounded if their bodies are, in whatever the store has grown to, for all that they can be called
with there (`Registry.GroundedIn`).

## Key results

- `Program.GroundedIn.mono` and its siblings: what is grounded stays grounded
- `HostValue.GroundedIn.coerce`, `Carrier.grounded_of_extract`: conversions refer to nothing new
- `Registry.GroundedIn.resolve`: the members that a registry resolves to
-/

namespace Membrane

/-- The slot of a wrapper or type reference is in use. -/
def Store.Used (s : Store) (id : ObjectId) (key : String) : Prop :=
  s.isHostObject id ∧ ((s.slots id).state key).isSome

/-- Objects stay, none of them becomes a host object, and slots that are in use stay in use. -/
structure Store.Grows (s t : Store) : Prop where
  born : ∀ id, (s.object? id).isSome → (t.object? id).isSome
  host : ∀ id, (s.object? id).isSome → t.isHostObject id → s.isHostObject id
  used : ∀ id key, s.Used id key → t.Used id key

namespace Store.Grows

variable {s t u : Store}

/-- A store has grown to itself. -/
theorem refl (s : Store) : s.Grows s := ⟨fun _ h => h, fun _ _ h => h, fun _ _ h => h⟩

/-- Growth goes on. -/
theorem trans (h : s.Grows t) (h' : t.Grows u) : s.Grows u where
  born id hid := h'.born id (h.born id hid)
  host id hid hhost := h.host id hid (h'.host id (h.born id hid) hhost)
  used id key hused := h'.used id key (h.used id key hused)

end Store.Grows

/-! ### Values -/

/-- The identity is not that of a function that is still to be made. -/
def ObjectId.GroundedIn (s : Store) : ObjectId → Prop
  | .created _ => True
  | .bound owner key => (s.object? (.bound owner key)).isSome

/-- An object that the value refers to is there. -/
def ScriptValue.GroundedIn (s : Store) : ScriptValue → Prop
  | .object id => id.GroundedIn s
  | _ => True

mutual

/-- So are those in a script value that the host has, and in the entries of an array. -/
def HostValue.GroundedIn (s : Store) : HostValue → Prop
  | .array _ items => HostValue.AllGroundedIn s items
  | .script v => v.GroundedIn s
  | _ => True

/-- Every entry is grounded. -/
def HostValue.AllGroundedIn (s : Store) : List HostValue → Prop
  | [] => True
  | v :: rest => HostValue.GroundedIn s v ∧ HostValue.AllGroundedIn s rest

end

/-- Everything in the storage is grounded. -/
structure Storage.GroundedIn (s : Store) (storage : Storage) : Prop where
  slots : ∀ entry ∈ storage.slots.entries, entry.2.GroundedIn s
  items : ∀ v ∈ storage.items, v.GroundedIn s
  dict : ∀ entry ∈ storage.dict.entries, entry.2.GroundedIn s

section Values

variable {s t : Store} {types : Registry}

/-- An object that is there stays. -/
theorem ObjectId.GroundedIn.mono {id : ObjectId} (h : id.GroundedIn s) (hgrows : s.Grows t) :
    id.GroundedIn t := by
  cases id with
  | created index => trivial
  | bound owner key => exact hgrows.born _ h

/-- A grounded script value stays so. -/
theorem ScriptValue.GroundedIn.mono {v : ScriptValue} (h : v.GroundedIn s) (hgrows : s.Grows t) :
    v.GroundedIn t := by
  cases v with
  | object id => exact ObjectId.GroundedIn.mono h hgrows
  | _ => trivial

namespace HostValue

/-- Every entry, by membership. -/
theorem allGroundedIn_iff {items : List HostValue} :
    AllGroundedIn s items ↔ ∀ v ∈ items, v.GroundedIn s := by
  induction items with
  | nil => simp [AllGroundedIn]
  | cons v rest ih => simp [AllGroundedIn, ih]

mutual

/-- A grounded host value stays so. -/
theorem GroundedIn.mono (hgrows : s.Grows t) :
    ∀ {v : HostValue}, v.GroundedIn s → v.GroundedIn t
  | .array _ _, h => by
    unfold GroundedIn at h ⊢
    exact AllGroundedIn.mono hgrows h
  | .script _, h => by
    unfold GroundedIn at h ⊢
    exact ScriptValue.GroundedIn.mono h hgrows
  | .undefined, _ | .null, _ | .bool _, _ | .integer .., _ | .float _, _ | .double _, _
  | .string _, _ | .constant .., _ | .object _, _ | .hostType _, _ => by
    unfold GroundedIn
    trivial

/-- And so do the entries of an array. -/
theorem AllGroundedIn.mono (hgrows : s.Grows t) :
    ∀ {items : List HostValue}, AllGroundedIn s items → AllGroundedIn t items
  | [], _ => by
    unfold AllGroundedIn
    trivial
  | _ :: _, h => by
    unfold AllGroundedIn at h ⊢
    exact ⟨GroundedIn.mono hgrows h.1, AllGroundedIn.mono hgrows h.2⟩

end

/-- An array is grounded with its entries. -/
theorem groundedIn_array {type : TypeId} {items : List HostValue} :
    (array type items).GroundedIn s ↔ ∀ v ∈ items, v.GroundedIn s := by
  rw [GroundedIn, allGroundedIn_iff]

/-- A script value that the host has is grounded as the script value is. -/
theorem groundedIn_script {v : ScriptValue} : (script v).GroundedIn s ↔ v.GroundedIn s := by
  rw [GroundedIn]

/-- Bools, numbers and texts refer to no object. -/
theorem groundedIn_of_primitiveKind? {v : HostValue} {kind : PrimitiveKind}
    (h : v.primitiveKind? = some kind) : v.GroundedIn s := by
  cases v with
  | array => cases h
  | script => cases h
  | _ =>
    unfold GroundedIn
    trivial

/-- A coercion gives the value itself or one without objects. -/
theorem GroundedIn.coerce {v w : HostValue} {target : TypeId} (h : v.GroundedIn s)
    (hcoerce : types.coerce v target = .ok w) : w.GroundedIn s := by
  cases Registry.coerced_of_coerce hcoerce with
  | null => exact h
  | kept => exact h
  | primitive hnumber hw =>
    exact groundedIn_of_primitiveKind? (Registry.primitiveKind?_of_ofNumeric hw)
  | constant =>
    unfold GroundedIn
    trivial
  | text =>
    unfold GroundedIn
    trivial

/-- Entries that are brought to one type are as grounded as before. -/
theorem groundedIn_homogenize {items : List HostValue} (h : ∀ v ∈ items, v.GroundedIn s) :
    (types.homogenize items).toValue.GroundedIn s := by
  unfold Registry.homogenize
  dsimp only
  split
  · exact groundedIn_array.2 h
  · split
    · next converted hconverted =>
      refine groundedIn_array.2 fun w hw => ?_
      -- every entry of the result is the coercion of one of the entries
      have hmap := mapM_eq_ok_iff.1 hconverted
      have hmem : Except.ok w ∈ items.map (types.coerce · (types.sequenceType items)) := by
        rw [hmap]
        exact List.mem_map_of_mem hw
      obtain ⟨v, hv, hcoerce⟩ := List.mem_map.1 hmem
      exact (h v hv).coerce hcoerce
    · exact groundedIn_array.2 h

end HostValue

/-- Grounded contents stay so. -/
theorem Storage.GroundedIn.mono {storage : Storage} (h : storage.GroundedIn s)
    (hgrows : s.Grows t) : storage.GroundedIn t where
  slots entry hentry := (h.slots entry hentry).mono hgrows
  items v hv := (h.items v hv).mono hgrows
  dict entry hentry := (h.dict entry hentry).mono hgrows

/-- A variable that is read from a grounded value has a grounded host form. -/
theorem Carrier.grounded_of_extract {c : Carrier} {v : HostValue} {r : c.Rep} (h : v.GroundedIn s)
    (hextract : types.extract c v = .ok r) : (c.wrap r).GroundedIn s := by
  -- only the carriers of host values and script values can bring an object along
  induction c generalizing v with
  | integer k => exact HostValue.groundedIn_of_primitiveKind? rfl
  | float => exact HostValue.groundedIn_of_primitiveKind? rfl
  | double => exact HostValue.groundedIn_of_primitiveKind? rfl
  | bool => exact HostValue.groundedIn_of_primitiveKind? rfl
  | string => simp [wrap, HostValue.GroundedIn]
  | host =>
    cases hextract
    exact h
  | script =>
    refine HostValue.groundedIn_script.2 ?_
    unfold Registry.extract at hextract
    split at hextract
    · cases hextract
      exact HostValue.groundedIn_script.1 h
    · cases hextract
      trivial
    · cases hextract
      trivial
    · cases hextract
  | optional c ih =>
    cases r with
    | none => simp [wrap, HostValue.GroundedIn]
    | some r =>
      unfold Registry.extract at hextract
      split at hextract
      · cases hextract
      · cases hextract
      · cases hinner : types.extract c v with
        | error e =>
          rw [hinner] at hextract
          cases hextract
        | ok r' =>
          rw [hinner] at hextract
          cases hextract
          exact ih h hinner
  | list c ih =>
    refine HostValue.groundedIn_array.2 fun w hw => ?_
    obtain ⟨r', hr', rfl⟩ := List.mem_map.1 hw
    unfold Registry.extract at hextract
    split at hextract
    · next type items =>
      -- every entry of the list was extracted from an item of the array
      have hmap := mapM_eq_ok_iff.1 hextract
      have hmem : Except.ok r' ∈ items.map (types.extract c) := by
        rw [hmap]
        exact List.mem_map_of_mem hr'
      obtain ⟨v, hv, hvextract⟩ := List.mem_map.1 hmem
      exact ih (HostValue.groundedIn_array.1 h v hv) hvextract
    · cases hextract

end Values

/-! ### Entries, queries and programs -/

/-- The values that an entry into the engine is made with are grounded. -/
def Hook.GroundedIn (s : Store) : Hook → Prop
  | .getMember base _ => base.GroundedIn s
  | .setMember base _ value => base.GroundedIn s ∧ value.GroundedIn s
  | .deleteMember base _ => base.GroundedIn s
  | .defineData base _ value _ => base.GroundedIn s ∧ value.GroundedIn s
  | .call callee this args => callee.GroundedIn s ∧ this.GroundedIn s ∧ ∀ a ∈ args, a.GroundedIn s
  | .callMethod base _ args => base.GroundedIn s ∧ ∀ a ∈ args, a.GroundedIn s
  | .construct callee args => callee.GroundedIn s ∧ ∀ a ∈ args, a.GroundedIn s
  | .instanceOf value callee => value.GroundedIn s ∧ callee.GroundedIn s
  | .arrayLike base => base.GroundedIn s

/-- What an entry into the engine answers is grounded. -/
def Hook.AnswerGroundedIn (s : Store) : (hook : Hook) → hook.Answer → Prop
  | .getMember .., v | .call .., v | .callMethod .., v | .construct .., v =>
      ScriptValue.GroundedIn s v
  | .arrayLike _, vs => ∀ v ∈ vs, ScriptValue.GroundedIn s v
  | .setMember .., _ | .deleteMember .., _ | .defineData .., _ | .instanceOf .., _ => True

/-- The values that are asked about are grounded, and a change of an instance makes grounded
contents of grounded ones. -/
def Query.GroundedIn (s : Store) : Query → Prop
  | .enter hook => hook.GroundedIn s
  | .fromHost v | .coerce v _ | .extract _ v | .describe v | .writeStatic _ v => v.GroundedIn s
  | .toHost v _ | .convertTo v _ | .hostTarget v => v.GroundedIn s
  | .newObject prototype => ∀ p ∈ prototype, p.GroundedIn s
  | .newArray elements => ∀ v ∈ elements, v.GroundedIn s
  | .newInstance _ storage => storage.GroundedIn s
  | .update _ _ change => ∀ t, s.Grows t → ∀ storage, storage.GroundedIn t →
      ∀ changed, change storage = .ok changed → changed.GroundedIn t
  | .record _ _ args => ∀ v ∈ args, v.GroundedIn s
  | .wrap _ | .typeReference _ | .global _ | .peek .. | .readStatic _ => True

/-- The answer to a query is grounded, if it is no refusal. -/
def Query.AnswerGroundedIn (s : Store) : (query : Query) → query.Answer → Prop
  | .enter hook, r => ∀ a, r = .ok a → hook.AnswerGroundedIn s a
  | .fromHost _, v | .newObject _, v | .newArray _, v | .wrap _, v | .typeReference _, v
  | .global _, v => ScriptValue.GroundedIn s v
  | .toHost .., r | .convertTo .., r | .coerce .., r => ∀ v, r = .ok v → HostValue.GroundedIn s v
  | .extract c _, r => ∀ x, r = .ok x → (c.wrap x).GroundedIn s
  | .peek .., r => ∀ storage, r = .ok storage → Storage.GroundedIn s storage
  | .readStatic _, content => ∀ v ∈ content, HostValue.GroundedIn s v
  | .newInstance .., _ | .hostTarget _, _ | .describe _, _ | .update .., _ | .writeStatic .., _
  | .record .., _ => True

/-- The result of a program is grounded. -/
def Yield.GroundedIn (s : Store) : (y : Yield) → y.Result → Prop
  | .value, v => HostValue.GroundedIn s v
  | .storage, contents => Storage.GroundedIn s contents
  | .script, v => ScriptValue.GroundedIn s v
  | .nothing, _ | .count, _ => True

/-- The program refers to no function that is still to be made, as long as the answers that it gets
do not, in whatever the store has grown to by then. -/
def Program.GroundedIn {y : Yield} : Program y → Store → Prop
  | .done result, s => y.GroundedIn s result
  | .fail _, _ => True
  | .panic _, _ => True
  | .ask query next, s => query.GroundedIn s ∧
      ∀ t, s.Grows t → ∀ a, query.AnswerGroundedIn t a → (next a).GroundedIn t
  | .hold _ _ _ inside next, s => inside.GroundedIn s ∧
      ∀ t, s.Grows t → ∀ r, (∀ v, r = .ok v → v.GroundedIn t) → (next r).GroundedIn t
  | .makeFunction _ body next, s =>
      (∀ t, s.Grows t → ∀ this args, this.GroundedIn t → (∀ a ∈ args, a.GroundedIn t) →
        (body this args).GroundedIn t) ∧
      ∀ t, s.Grows t → ∀ f, f.GroundedIn t → (next f).GroundedIn t

section Programs

variable {s t : Store}

/-- A grounded entry stays so. -/
theorem Hook.GroundedIn.mono {hook : Hook} (h : hook.GroundedIn s) (hgrows : s.Grows t) :
    hook.GroundedIn t := by
  have hargs {args : List ScriptValue} (h : ∀ a ∈ args, a.GroundedIn s) :
      ∀ a ∈ args, a.GroundedIn t := fun a ha => (h a ha).mono hgrows
  -- by the hook: every object that it carries is still there
  cases hook with
  | getMember base name => exact ScriptValue.GroundedIn.mono h hgrows
  | setMember base name value => exact ⟨h.1.mono hgrows, h.2.mono hgrows⟩
  | deleteMember base name => exact ObjectId.GroundedIn.mono h hgrows
  | defineData base name value flags => exact ⟨h.1.mono hgrows, h.2.mono hgrows⟩
  | call callee this args => exact ⟨h.1.mono hgrows, h.2.1.mono hgrows, hargs h.2.2⟩
  | callMethod base name args => exact ⟨h.1.mono hgrows, hargs h.2⟩
  | construct callee args => exact ⟨h.1.mono hgrows, hargs h.2⟩
  | instanceOf value callee => exact ⟨h.1.mono hgrows, h.2.mono hgrows⟩
  | arrayLike base => exact ObjectId.GroundedIn.mono h hgrows

/-- A grounded question stays so. -/
theorem Query.GroundedIn.mono {query : Query} (h : query.GroundedIn s) (hgrows : s.Grows t) :
    query.GroundedIn t := by
  -- by the query: every object that it carries is still there
  cases query with
  | enter hook => exact Hook.GroundedIn.mono h hgrows
  | fromHost v => exact HostValue.GroundedIn.mono hgrows h
  | coerce v target => exact HostValue.GroundedIn.mono hgrows h
  | extract c v => exact HostValue.GroundedIn.mono hgrows h
  | describe v => exact HostValue.GroundedIn.mono hgrows h
  | writeStatic key v => exact HostValue.GroundedIn.mono hgrows h
  | toHost v target => exact ScriptValue.GroundedIn.mono h hgrows
  | convertTo v target => exact ScriptValue.GroundedIn.mono h hgrows
  | hostTarget v => exact ScriptValue.GroundedIn.mono h hgrows
  | newObject prototype => exact fun p hp => (h p hp).mono hgrows
  | newArray elements => exact fun v hv => (h v hv).mono hgrows
  | newInstance type storage => exact Storage.GroundedIn.mono h hgrows
  | update ref layout change => exact fun u hu => h u (hgrows.trans hu)
  | record label this args => exact fun v hv => (h v hv).mono hgrows
  | _ => trivial

/-- A grounded program stays so. -/
theorem Program.GroundedIn.mono {y : Yield} {p : Program y} (h : p.GroundedIn s)
    (hgrows : s.Grows t) : p.GroundedIn t := by
  -- what comes after an answer is grounded in every larger store, so only the part that runs inside
  -- a hold calls for the hypothesis
  induction p with
  | done result =>
    rename_i y
    cases y with
    | value => exact HostValue.GroundedIn.mono hgrows h
    | nothing => trivial
    | storage => exact Storage.GroundedIn.mono h hgrows
    | count => trivial
    | script => exact ScriptValue.GroundedIn.mono h hgrows
  | fail cause => trivial
  | panic payload => trivial
  | ask query next _ => exact ⟨h.1.mono hgrows, fun u hu => h.2 u (hgrows.trans hu)⟩
  | hold ref layout mode inside next ihInside _ =>
    exact ⟨ihInside h.1, fun u hu => h.2 u (hgrows.trans hu)⟩
  | makeFunction name body next _ _ =>
    exact ⟨fun u hu => h.1 u (hgrows.trans hu), fun u hu => h.2 u (hgrows.trans hu)⟩

end Programs

/-! ### Members -/

/-- The getter refers to nothing that is still to be made. -/
def Getter.GroundedIn (s : Store) (get : Getter) : Prop := ∀ target, (get target).GroundedIn s

/-- The setter is grounded wherever the value is. -/
def Setter.GroundedIn (s : Store) (set : Setter) : Prop :=
  ∀ t, s.Grows t → ∀ target v, v.GroundedIn t → (set target v).GroundedIn t

/-- The body of a method or constructor is grounded wherever the arguments are. -/
def HostCall.GroundedBody {y : Yield} (s : Store) (body : HostCall → Program y) : Prop :=
  ∀ t, s.Grows t → ∀ call, (∀ v ∈ call.args, v.GroundedIn t) → (body call).GroundedIn t

/-- The default of the parameter is grounded. -/
def Parameter.GroundedIn (s : Store) (p : Parameter) : Prop :=
  ∀ default ∈ p.default, default.GroundedIn s

/-- The getter and the setter of the property are grounded. -/
structure Property.GroundedIn (s : Store) (p : Property) : Prop where
  get : ∀ get ∈ p.get, Getter.GroundedIn s get
  set : ∀ set ∈ p.set, Setter.GroundedIn s set

/-- The accessors of the field are grounded. -/
structure Field.GroundedIn (s : Store) (f : Field) : Prop where
  get : Getter.GroundedIn s f.get
  set : ∀ set ∈ f.set, Setter.GroundedIn s set

/-- The body of the method and the defaults of its parameters are grounded. -/
structure Method.GroundedIn (s : Store) (m : Method) : Prop where
  params : ∀ p ∈ m.params, p.GroundedIn s
  body : HostCall.GroundedBody s m.body

/-- The body of the constructor and the defaults of its parameters are grounded. -/
structure Constructor.GroundedIn (s : Store) (c : Constructor) : Prop where
  params : ∀ p ∈ c.params, p.GroundedIn s
  body : HostCall.GroundedBody s c.body

/-- The accessors of the indexer are grounded wherever key and value are. -/
structure Indexer.GroundedIn (s : Store) (i : Indexer) : Prop where
  get : ∀ get ∈ i.get, ∀ t, s.Grows t → ∀ target k, k.GroundedIn t → (get target k).GroundedIn t
  set : ∀ set ∈ i.set, ∀ t, s.Grows t → ∀ target k v, k.GroundedIn t → v.GroundedIn t →
    (set target k v).GroundedIn t

/-- Every body that a type declares refers to what it is given, and to what is there already. -/
structure TypeEntry.GroundedIn (s : Store) (e : TypeEntry) : Prop where
  properties : ∀ p ∈ e.properties, p.GroundedIn s
  fields : ∀ f ∈ e.fields, f.GroundedIn s
  methods : ∀ m ∈ e.methods, m.GroundedIn s
  indexers : ∀ i ∈ e.indexers, i.GroundedIn s
  explicitProperties : ∀ p ∈ e.explicitProperties, p.GroundedIn s
  explicitMethods : ∀ m ∈ e.explicitMethods, m.GroundedIn s
  explicitIndexers : ∀ i ∈ e.explicitIndexers, i.GroundedIn s
  constructors : ∀ c ∈ e.constructors, c.GroundedIn s
  defaultInstance : ∀ make ∈ e.defaultInstance, make.GroundedIn s
  count : ∀ count ∈ e.count, ∀ target, (count target).GroundedIn s

/-- No host code refers to a function that is still to be made. -/
def Registry.GroundedIn (s : Store) (types : Registry) : Prop :=
  ∀ t e, types.entry? t = some e → e.GroundedIn s

/-- The bodies of the member that a key is resolved to are grounded. -/
def ResolvedMember.GroundedIn (s : Store) : ResolvedMember → Prop
  | .field f => f.GroundedIn s
  | .property p => p.GroundedIn s
  | .methodGroup group => ∀ m ∈ group.methods, m.GroundedIn s
  | .indexer i => i.GroundedIn s
  | .constant _ | .undefined => True

section Members

variable {s t : Store}

/-- A grounded getter stays so. -/
theorem Getter.GroundedIn.mono {get : Getter} (h : Getter.GroundedIn s get) (hgrows : s.Grows t) :
    Getter.GroundedIn t get := fun target => (h target).mono hgrows

/-- A grounded setter stays so. -/
theorem Setter.GroundedIn.mono {set : Setter} (h : Setter.GroundedIn s set) (hgrows : s.Grows t) :
    Setter.GroundedIn t set := fun u hu => h u (hgrows.trans hu)

/-- A grounded body stays so. -/
theorem HostCall.GroundedBody.mono {y : Yield} {body : HostCall → Program y}
    (h : HostCall.GroundedBody s body) (hgrows : s.Grows t) : HostCall.GroundedBody t body :=
  fun u hu => h u (hgrows.trans hu)

/-- A grounded parameter stays so. -/
theorem Parameter.GroundedIn.mono {p : Parameter} (h : p.GroundedIn s) (hgrows : s.Grows t) :
    p.GroundedIn t := fun default hdefault => (h default hdefault).mono hgrows

/-- A grounded property stays so. -/
theorem Property.GroundedIn.mono {p : Property} (h : p.GroundedIn s) (hgrows : s.Grows t) :
    p.GroundedIn t where
  get get hget := (h.get get hget).mono hgrows
  set set hset := (h.set set hset).mono hgrows

/-- A grounded field stays so. -/
theorem Field.GroundedIn.mono {f : Field} (h : f.GroundedIn s) (hgrows : s.Grows t) :
    f.GroundedIn t where
  get := h.get.mono hgrows
  set set hset := (h.set set hset).mono hgrows

/-- A grounded method stays so. -/
theorem Method.GroundedIn.mono {m : Method} (h : m.GroundedIn s) (hgrows : s.Grows t) :
    m.GroundedIn t where
  params p hp := (h.params p hp).mono hgrows
  body := h.body.mono hgrows

/-- A grounded constructor stays so. -/
theorem Constructor.GroundedIn.mono {c : Constructor} (h : c.GroundedIn s) (hgrows : s.Grows t) :
    c.GroundedIn t where
  params p hp := (h.params p hp).mono hgrows
  body := h.body.mono hgrows

/-- A grounded indexer stays so. -/
theorem Indexer.GroundedIn.mono {i : Indexer} (h : i.GroundedIn s) (hgrows : s.Grows t) :
    i.GroundedIn t where
  get get hget u hu := h.get get hget u (hgrows.trans hu)
  set set hset u hu := h.set set hset u (hgrows.trans hu)

/-- A type with grounded members keeps them grounded. -/
theorem TypeEntry.GroundedIn.mono {e : TypeEntry} (h : e.GroundedIn s) (hgrows : s.Grows t) :
    e.GroundedIn t where
  properties p hp := (h.properties p hp).mono hgrows
  fields f hf := (h.fields f hf).mono hgrows
  methods m hm := (h.methods m hm).mono hgrows
  indexers i hi := (h.indexers i hi).mono hgrows
  explicitProperties p hp := (h.explicitProperties p hp).mono hgrows
  explicitMethods m hm := (h.explicitMethods m hm).mono hgrows
  explicitIndexers i hi := (h.explicitIndexers i hi).mono hgrows
  constructors c hc := (h.constructors c hc).mono hgrows
  defaultInstance make hmake := (h.defaultInstance make hmake).mono hgrows
  count count hcount target := (h.count count hcount target).mono hgrows

/-- And so does a registry. -/
theorem Registry.GroundedIn.mono {types : Registry} (h : types.GroundedIn s)
    (hgrows : s.Grows t) : types.GroundedIn t :=
  fun type e he => (h type e he).mono hgrows

end Members

namespace Registry.GroundedIn

variable {types : Registry} {s : Store}

/-- What every type says of its members holds of the members on a chain. -/
private theorem onChain {α : Type} {members : TypeEntry → List α} {P : α → Prop}
    (hentry : ∀ t e, types.entry? t = some e → ∀ a ∈ members e, P a) (t : TypeId) :
    ∀ a ∈ types.onChain t members, P a := by
  intro a ha
  obtain ⟨b, -, hb⟩ := List.mem_flatMap.1 ha
  cases he : types.entry? b with
  | none => simp [he] at hb
  | some e => exact hentry b e he a (by simpa [he] using hb)

/-- And of those of the type itself. -/
private theorem own {α : Type} {members : TypeEntry → List α} {P : α → Prop}
    (hentry : ∀ t e, types.entry? t = some e → ∀ a ∈ members e, P a) (t : TypeId) :
    ∀ a ∈ types.own t members, P a := by
  intro a ha
  unfold Registry.own at ha
  cases he : types.entry? t with
  | none => simp [he] at ha
  | some e => exact hentry t e he a (by simpa [he] using ha)

/-- The overloads that are visible are some of those that there are. -/
theorem mem_of_mem_visibleOverloads {methods : List Method} {m : Method}
    (hm : m ∈ visibleOverloads methods) : m ∈ methods := by
  -- of any list of kept overloads, since the fold starts with none and adds to them
  suffices h : ∀ (rest kept : List Method), m ∈ rest.foldl
      (fun kept m => if kept.any (·.sameParameters m) then kept else kept ++ [m]) kept →
      m ∈ kept ∨ m ∈ rest by
    simpa using h methods [] hm
  intro rest
  induction rest with
  | nil => exact fun kept h => .inl h
  | cons first rest ih =>
    intro kept h
    rw [List.foldl_cons] at h
    obtain hkept | hrest := ih _ h
    · split at hkept
      · exact .inl hkept
      · obtain hkept | hfirst := List.mem_append.1 hkept
        · exact .inl hkept
        · exact .inr (List.mem_cons.2 (.inl (List.mem_singleton.1 hfirst)))
    · exact .inr (List.mem_cons_of_mem _ hrest)

/-- A group has the methods that it was made of. -/
private theorem group {t : TypeId} {methods : List Method} (h : ∀ m ∈ methods, m.GroundedIn s)
    {member : ResolvedMember} (hmember : group? t methods = some member) : member.GroundedIn s := by
  cases methods with
  | nil => cases hmember
  | cons m rest =>
    cases hmember
    exact h

/-- The first of two members that is found. -/
private theorem orElse {a b : Option ResolvedMember} (ha : ∀ member ∈ a, member.GroundedIn s)
    (hb : ∀ member ∈ b, member.GroundedIn s) : ∀ member ∈ (a <|> b), member.GroundedIn s := by
  cases a with
  | none => exact hb
  | some member => exact ha

/-- No member at all is grounded. -/
private theorem getD {a : Option ResolvedMember} (ha : ∀ member ∈ a, member.GroundedIn s) :
    (a.getD .undefined).GroundedIn s := by
  cases a with
  | none => trivial
  | some member => exact ha member rfl

/-- The only entry of a list is in it. -/
private theorem mem_of_only? {α : Type} {l : List α} {a : α} (h : only? l = some a) : a ∈ l := by
  unfold only? at h
  split at h
  · cases h
    exact List.mem_singleton.2 rfl
  · cases h

variable (h : types.GroundedIn s) (t : TypeId) (key : String)
include h

/-- A member that is found under its name. -/
private theorem named : ∀ member ∈ types.named? t key, member.GroundedIn s := by
  refine orElse ?_ (orElse ?_ ?_)
  · -- the first property, else the first field
    rintro _ hmember
    obtain ⟨p, hp, rfl⟩ := Option.map_eq_some_iff.1 hmember
    exact onChain (fun t e he => (h t e he).properties) t p (List.mem_of_find?_eq_some hp)
  · rintro _ hmember
    obtain ⟨f, hf, rfl⟩ := Option.map_eq_some_iff.1 hmember
    exact onChain (fun t e he => (h t e he).fields) t f (List.mem_of_find?_eq_some hf)
  · intro member hmember
    refine group (fun m hm => ?_) hmember
    have hmem := (List.mem_filter.1 (mem_of_mem_visibleOverloads hm)).1
    exact onChain (fun t e he => (h t e he).methods) t m hmem

/-- A member that is found as an explicit one. -/
private theorem explicitlyNamed : ∀ member ∈ types.explicitlyNamed? t key, member.GroundedIn s := by
  refine orElse ?_ ?_
  · rintro _ hmember
    obtain ⟨p, hp, rfl⟩ := Option.map_eq_some_iff.1 hmember
    have hmem := (List.mem_filter.1 (mem_of_only? hp)).1
    exact onChain (fun t e he => (h t e he).explicitProperties) t p hmem
  · intro member hmember
    refine group (fun m hm => ?_) hmember
    have hmem := (List.mem_filter.1 (mem_of_mem_visibleOverloads hm)).1
    exact onChain (fun t e he => (h t e he).explicitMethods) t m hmem

/-- The indexer that is found. -/
private theorem indexer : ∀ member ∈ types.indexer? t, member.GroundedIn s := by
  rintro _ hmember
  obtain ⟨i, hi, rfl⟩ := Option.map_eq_some_iff.1 hmember
  exact onChain (fun t e he => (h t e he).indexers) t i (List.mem_of_head? hi)

/-- The explicit indexer that is found. -/
private theorem explicitIndexer : ∀ member ∈ types.explicitIndexer? t, member.GroundedIn s := by
  rintro _ hmember
  obtain ⟨i, hi, rfl⟩ := Option.map_eq_some_iff.1 hmember
  exact onChain (fun t e he => (h t e he).explicitIndexers) t i (mem_of_only? hi)

/-- A static member that is found. -/
private theorem static : ∀ member ∈ types.static? t key, member.GroundedIn s := by
  refine orElse ?_ (orElse ?_ ?_)
  · rintro _ hmember
    obtain ⟨p, hp, rfl⟩ := Option.map_eq_some_iff.1 hmember
    exact own (fun t e he => (h t e he).properties) t p (List.mem_of_find?_eq_some hp)
  · rintro _ hmember
    obtain ⟨f, hf, rfl⟩ := Option.map_eq_some_iff.1 hmember
    exact own (fun t e he => (h t e he).fields) t f (List.mem_of_find?_eq_some hf)
  · intro member hmember
    refine group (fun m hm => ?_) hmember
    exact own (fun t e he => (h t e he).methods) t m (List.mem_filter.1 hm).1

/-- What a key is resolved to is a member that some type declares, or a group of such. -/
theorem resolve (scope : MemberScope) : (types.resolve t key scope).GroundedIn s := by
  -- an index is never looked up among the named members
  have hunless {a : Option ResolvedMember} (ha : ∀ member ∈ a, member.GroundedIn s) :
      ∀ member ∈ (if Name.isIndex key then none else a), member.GroundedIn s := by
    split
    · exact fun _ hmember => nomatch hmember
    · exact ha
  unfold Registry.resolve
  split
  · refine getD fun member hmember => ?_
    obtain ⟨n, -, rfl⟩ := Option.map_eq_some_iff.1 hmember
    trivial
  · cases scope with
    | onInstance =>
      exact getD (orElse (hunless (named h t key)) (orElse (indexer h t)
        (orElse (hunless (explicitlyNamed h t key)) (explicitIndexer h t))))
    | onType =>
      show (types.resolveStatic t key).GroundedIn s
      unfold Registry.resolveStatic
      split
      · trivial
      · exact getD (static h t key)

end Registry.GroundedIn

end Membrane
