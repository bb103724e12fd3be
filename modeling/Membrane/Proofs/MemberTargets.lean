import Membrane.Member.Accessor
import Membrane.Proofs.BoundMembers

/-!
# Members meet their targets

Properties and fields of instances have bodies that refuse to run without an instance, and static ones
have bodies that look at no target (`TypeEntry.Built`). Every getter and setter that an entry runs
belongs to a property or field that the entry has opened (`Realm.Runs.opens`), and what it opens is
bound to what fits it. So the refusal is never come to.

## Key results

- `Engine.members_meet_targets`: type references bind their own static members alone, and bodies of
  instance members run with an instance
-/

namespace Membrane

/-! ### Typed members -/

/-- Reads an instance, and refuses to read without one. -/
def Getter.ofInstance (read : HostRef → Program .value) : Getter := fun this =>
  .withInstance this id read

/-- Reads a static variable. -/
def Getter.ofType (read : Program .value) : Getter := fun _ => read

/-- Goes on with a variable that is extracted from a value. -/
def Program.extracting (c : Carrier) (v : HostValue) (next : c.Rep → Program .nothing) :
    Program .nothing :=
  .ask (.extract c v) fun
    | .error e => .fail (.conversion e)
    | .ok r => next r

/-- Writes to an instance, and refuses to write without one; the value is looked at first. -/
def Setter.ofInstance (c : Carrier) (write : HostRef → c.Rep → Program .nothing) : Setter :=
  fun this v => .extracting c v fun r => .withInstance this id (write · r)

/-- Writes to a static variable. -/
def Setter.ofType (c : Carrier) (write : c.Rep → Program .nothing) : Setter :=
  fun _ v => .extracting c v write

/-- The bodies of a property or field, which is an instance member or a static one. -/
inductive TypedBodies : (isStatic : Bool) → Option Getter → Option Setter → Prop where
  | readable (read : HostRef → Program .value) : TypedBodies false (some (.ofInstance read)) none
  | writable (read : HostRef → Program .value) (c : Carrier)
      (write : HostRef → c.Rep → Program .nothing) :
      TypedBodies false (some (.ofInstance read)) (some (.ofInstance c write))
  | staticReadable (read : Program .value) : TypedBodies true (some (.ofType read)) none
  | staticWritable (read : Program .value) (c : Carrier) (write : c.Rep → Program .nothing) :
      TypedBodies true (some (.ofType read)) (some (.ofType c write))

/-- The bodies over a slot of an instance. -/
theorem typedBodies_slot (layout : String) (c : Carrier) (slot : String) (writable : Bool) :
    TypedBodies false (some (Accessor.slotBodies layout c slot writable).1)
      (Accessor.slotBodies layout c slot writable).2 := by
  cases writable with
  | false => exact .readable _
  | true => exact .writable _ c _

/-- The bodies over static storage. -/
theorem typedBodies_static (c : Carrier) (key : StaticKey) (writable : Bool) :
    TypedBodies true (some (Accessor.staticBodies c key writable).1)
      (Accessor.staticBodies c key writable).2 := by
  cases writable with
  | false => exact .staticReadable _
  | true => exact .staticWritable _ c _

namespace TypeEntry

/-- A type that is built step by step, with typed bodies for its properties and fields. -/
inductive Built : TypeEntry → Prop where
  | make (name : String) (kind : DeclaredKind) : Built (.make name kind)
  | base {e : TypeEntry} (he : Built e) (base : TypeId) : Built (e.withBase base)
  | interface {e : TypeEntry} (he : Built e) (interface : TypeId) : Built (e.implementing interface)
  -- accessors are typed: a static body ignores its target, the other kind demands one
  | property {e : TypeEntry} (he : Built e) {p : Property}
      (hbodies : TypedBodies p.isStatic p.get p.set) : Built (e.withProperty p)
  | explicitProperty {e : TypeEntry} (he : Built e) (interface : TypeId) {p : Property}
      (hbodies : TypedBodies p.isStatic p.get p.set) : Built (e.withExplicitProperty interface p)
  | field {e : TypeEntry} (he : Built e) {f : Field}
      (hbodies : TypedBodies f.isStatic (some f.get) f.set) : Built (e.withField f)
  -- methods, indexers and constructors have no accessor that a type reference could bind
  | method {e : TypeEntry} (he : Built e) (m : Method) : Built (e.withMethod m)
  | explicitMethod {e : TypeEntry} (he : Built e) (interface : TypeId) (m : Method) :
      Built (e.withExplicitMethod interface m)
  | indexer {e : TypeEntry} (he : Built e) (i : Indexer) : Built (e.withIndexer i)
  | constructor {e : TypeEntry} (he : Built e) (c : Constructor) : Built (e.withConstructor c)
  | constant {e : TypeEntry} (he : Built e) (c : Constant) : Built (e.withConstant c)
  | defaultInstance {e : TypeEntry} (he : Built e) (make : Program .storage) :
      Built (e.withDefaultInstance make)
  | count {e : TypeEntry} (he : Built e) (count : HostRef → Program .count) :
      Built (e.withCount count)

/-- All properties and fields have typed bodies. -/
structure HasTypedBodies (e : TypeEntry) : Prop where
  properties : ∀ p ∈ e.properties, TypedBodies p.isStatic p.get p.set
  explicitProperties : ∀ p ∈ e.explicitProperties, TypedBodies p.isStatic p.get p.set
  fields : ∀ f ∈ e.fields, TypedBodies f.isStatic (some f.get) f.set

/-- An interface adds no members. -/
theorem HasTypedBodies.implementing {e : TypeEntry} (he : e.HasTypedBodies) (interface : TypeId) :
    (e.implementing interface).HasTypedBodies := by
  unfold TypeEntry.implementing
  split
  · exact he
  · exact ⟨he.properties, he.explicitProperties, he.fields⟩

/-- One entry more at the end. -/
private theorem forall_mem_concat {α : Type} {P : α → Prop} {l : List α} {a : α}
    (hl : ∀ b ∈ l, P b) (ha : P a) : ∀ b ∈ l ++ [a], P b := by
  simpa [or_imp, forall_and] using ⟨hl, ha⟩

/-- A type that is built has typed bodies for its properties and fields. -/
theorem Built.hasTypedBodies {e : TypeEntry} (he : e.Built) : e.HasTypedBodies := by
  induction he with
  | make name kind =>
    exact ⟨fun _ hp => absurd hp List.not_mem_nil, fun _ hp => absurd hp List.not_mem_nil,
      fun _ hf => absurd hf List.not_mem_nil⟩
  | interface _ interface ih => exact ih.implementing interface
  | property _ hbodies ih =>
    exact ⟨forall_mem_concat ih.properties hbodies, ih.explicitProperties, ih.fields⟩
  -- what is explicit lists its interface, which adds no members
  | explicitProperty _ interface hbodies ih =>
    have ih := ih.implementing interface
    exact ⟨ih.properties, forall_mem_concat ih.explicitProperties hbodies, ih.fields⟩
  | field _ hbodies ih =>
    exact ⟨ih.properties, ih.explicitProperties, forall_mem_concat ih.fields hbodies⟩
  | explicitMethod _ interface m ih =>
    have ih := ih.implementing interface
    exact ⟨ih.properties, ih.explicitProperties, ih.fields⟩
  | indexer _ i ih =>
    unfold withIndexer
    split
    · next interface _ =>
      have ih := ih.implementing interface
      exact ⟨ih.properties, ih.explicitProperties, ih.fields⟩
    · exact ⟨ih.properties, ih.explicitProperties, ih.fields⟩
  | base _ _ ih | method _ _ ih | constructor _ _ ih | constant _ _ ih | defaultInstance _ _ ih
  | count _ _ ih => exact ⟨ih.properties, ih.explicitProperties, ih.fields⟩

end TypeEntry

namespace Registry

/-- All types are built with typed bodies for their properties and fields. -/
def Built (types : Registry) : Prop := ∀ t e, types.entry? t = some e → e.Built

variable {types : Registry} {t : TypeId}

/-- A registry without types is built. -/
theorem built_empty : empty.Built := by
  intro t e hentry
  cases t <;> cases hentry

/-- A built registry with one more built type is built. -/
theorem Built.declare (hbuilt : types.Built) {e : TypeEntry} (he : e.Built) :
    (types.declare e).2.Built := by
  intro t e' hentry
  cases t with
  | declared index =>
    have hpush := Array.getElem?_push.symm.trans hentry
    split at hpush
    · cases hpush
      exact he
    · exact hbuilt (.declared index) e' hpush
  | _ => cases hentry

/-- A member of a type is declared by its entry. -/
private theorem exists_entry_of_mem_own {α : Type} {members : TypeEntry → List α} {a : α}
    (ha : a ∈ types.own t members) : ∃ e, types.entry? t = some e ∧ a ∈ members e := by
  unfold own at ha
  cases hentry : types.entry? t with
  | none => simp [hentry] at ha
  | some e =>
    rw [hentry] at ha
    exact ⟨e, rfl, ha⟩

/-- A member on a chain is declared by the entry of an ancestor. -/
private theorem exists_entry_of_mem_onChain {α : Type} {members : TypeEntry → List α} {a : α}
    (ha : a ∈ types.onChain t members) : ∃ b e, types.entry? b = some e ∧ a ∈ members e := by
  obtain ⟨b, -, ha⟩ := List.mem_flatMap.1 ha
  exact ⟨b, exists_entry_of_mem_own ha⟩

end Registry

/-! ### Bound members -/

/-- A property or field as a slot binds it: its bodies, and the target that they are run with. -/
structure BoundMember where
  isStatic : Bool
  get : Option Getter
  set : Option Setter
  target : Option HostRef

/-- The property or field that a descriptor is bound to. -/
def Descriptor.member? : Descriptor → Option BoundMember
  | .property p target _ | .sharedProperty p target _ => some ⟨p.isStatic, p.get, p.set, target⟩
  | .field f target => some ⟨f.isStatic, some f.get, f.set, target⟩
  | _ => none

namespace BoundMember

/-- The member has typed bodies, and an instance for its target unless it is static. -/
structure MeetsTarget (m : BoundMember) : Prop where
  bodies : TypedBodies m.isStatic m.get m.set
  target : m.isStatic = false → m.target.isSome

/-- The job is a getter or setter of the member. -/
inductive Runs (m : BoundMember) : Job → Prop where
  | get {g : Getter} (hget : m.get = some g) : Runs m ⟨.getter, g m.target⟩
  | set {g : Setter} (hset : m.set = some g) (v : HostValue) : Runs m ⟨.setter, g m.target v⟩

/-- The job is what a getter or setter of the member comes to past the look at its target: that of an
instance member has an instance, so that it does not come to the refusal. -/
inductive Enters : BoundMember → Job → Prop where
  | read (read : HostRef → Program .value) (set : Option Setter) (ref : HostRef) :
      Enters ⟨false, some (.ofInstance read), set, some ref⟩ ⟨.getter, read ref⟩
  | readStatic (read : Program .value) (set : Option Setter) (target : Option HostRef) :
      Enters ⟨true, some (.ofType read), set, target⟩ ⟨.getter, read⟩
  | write (get : Option Getter) (c : Carrier) (write : HostRef → c.Rep → Program .nothing)
      (ref : HostRef) (v : HostValue) :
      Enters ⟨false, get, some (.ofInstance c write), some ref⟩
        ⟨.setter, .extracting c v (write ref)⟩
  | writeStatic (get : Option Getter) (c : Carrier) (write : c.Rep → Program .nothing)
      (target : Option HostRef) (v : HostValue) :
      Enters ⟨true, get, some (.ofType c write), target⟩ ⟨.setter, .extracting c v write⟩

/-- A member that meets its target runs its bodies past the look at it. -/
theorem MeetsTarget.enters {m : BoundMember} (hm : m.MeetsTarget) {job : Job} (hruns : m.Runs job) :
    m.Enters job := by
  obtain ⟨isStatic, get, set, target⟩ := m
  obtain ⟨hbodies, htarget⟩ := hm
  -- bodies of instance members look for the instance, those of static ones do not look
  have hinstance (hstatic : isStatic = false) : ∃ ref, target = some ref :=
    Option.isSome_iff_exists.1 (htarget hstatic)
  cases hruns with
  | get hget =>
    cases hget
    cases hbodies with
    | readable read | writable read c write =>
      obtain ⟨ref, rfl⟩ := hinstance rfl
      exact .read read _ ref
    | staticReadable read | staticWritable read c write => exact .readStatic read _ target
  | set hset v =>
    cases hset
    cases hbodies with
    | writable read c write =>
      obtain ⟨ref, rfl⟩ := hinstance rfl
      exact .write _ c write ref v
    | staticWritable read c write => exact .writeStatic _ c write target v

end BoundMember

section

variable {types : Registry} (hbuilt : types.Built) {key : String}
include hbuilt

/-- The properties of an instance have typed bodies, wherever on the chain of its type they stand. -/
private theorem Registry.Offers.meetsTarget {ref : HostRef} {p : Property}
    (hp : types.Offers ref.type key (.property p)) :
    BoundMember.MeetsTarget ⟨p.isStatic, p.get, p.set, some ref⟩ := by
  refine ⟨?_, fun _ => rfl⟩
  obtain hp | hp := hp.1
  · obtain ⟨t, e, he, hp⟩ := Registry.exists_entry_of_mem_onChain hp
    exact (hbuilt t e he).hasTypedBodies.properties _ hp
  · obtain ⟨t, e, he, hp⟩ := Registry.exists_entry_of_mem_onChain hp
    exact (hbuilt t e he).hasTypedBodies.explicitProperties _ hp

/-- The properties that a type declares as static are no instance members. -/
private theorem Registry.DeclaresStatic.meetsTarget {type : TypeId} {p : Property}
    (hp : types.DeclaresStatic type key (.property p)) :
    BoundMember.MeetsTarget ⟨p.isStatic, p.get, p.set, none⟩ := by
  obtain ⟨e, he, hmem⟩ := Registry.exists_entry_of_mem_own hp.1
  refine ⟨(hbuilt _ e he).hasTypedBodies.properties _ hmem, fun hinstance => ?_⟩
  exact absurd (hinstance.symm.trans hp.2.1) Bool.false_ne_true

/-- What a lookup binds meets its target, if the types are built. -/
theorem Descriptor.Binds.meetsTarget {host : HostRef ⊕ TypeId} {d : Descriptor}
    (hd : d.Binds types key host) {m : BoundMember} (hm : d.member? = some m) : m.MeetsTarget := by
  cases hd with
  | count => cases hm
  | property hp | sharedProperty hp =>
    cases hm
    exact hp.meetsTarget hbuilt
  | staticProperty hp | sharedStaticProperty hp =>
    cases hm
    exact hp.meetsTarget hbuilt
  | field hf =>
    cases hm
    obtain ⟨t, e, he, hf⟩ := Registry.exists_entry_of_mem_onChain hf.1
    exact ⟨(hbuilt t e he).hasTypedBodies.fields _ hf, fun _ => rfl⟩
  | staticField hf =>
    cases hm
    obtain ⟨e, he, hmem⟩ := Registry.exists_entry_of_mem_own hf.1
    refine ⟨(hbuilt _ e he).hasTypedBodies.fields _ hmem, fun hinstance => ?_⟩
    -- a static field asks for no target
    exact absurd (hinstance.symm.trans hf.2.1) Bool.false_ne_true

/-- A binding meets its target wherever it is defined again, since it takes its target along. -/
theorem Registry.HandsOut.meetsTarget {d : Descriptor} (hd : types.HandsOut d) {m : BoundMember}
    (hm : d.member? = some m) : m.MeetsTarget := by
  cases hd with
  | bound hbinds => exact hbinds.meetsTarget hbuilt hm
  | element => cases hm
  | script hscript =>
    cases d with
    | field | property | sharedProperty => cases hscript
    | _ => cases hm

/-- What fits an object meets its target, if the types are built. -/
theorem Descriptor.Fits.meetsTarget {host : Option (HostRef ⊕ TypeId)} {d : Descriptor}
    (hd : d.Fits types key host) {m : BoundMember} (hm : d.member? = some m) : m.MeetsTarget := by
  cases hd with
  | value => cases hm
  | sharedValue => cases hm
  | bound hbinds => exact hbinds.meetsTarget hbuilt hm
  | defined hout => exact hout.meetsTarget hbuilt hm

end

/-! ### What entries open -/

/-- What is run for this purpose reads or writes a property or field. -/
def Purpose.isAccess : Purpose → Bool
  | .getter | .setter => true
  | _ => false

namespace Realm

/-- One of the elements of the object, read in order, is found to be the descriptor. -/
inductive FindsElement (R : Realm) (id : ObjectId) :
    List Nat → Store → Descriptor → Store → Prop where
  | here {i rest s d t} (hfinds : R.Finds (toString i) (s.heap.chain id) s d t) :
      FindsElement R id (i :: rest) s d t
  | later {i rest s v t d u} (hread : R.get id (toString i) s = (.ok v, t))
      (hrest : FindsElement R id rest t d u) : FindsElement R id (i :: rest) s d u

/-- An entry into the engine on the store `s` opens the descriptor when the store is `t`: it reads what
stands there, or writes to it. -/
inductive Opens (R : Realm) : Hook → Store → Descriptor → Store → Prop where
  | getMember {id name s d t} (hfinds : R.Finds name (s.heap.chain id) s d t) :
      Opens R (.getMember (.object id) name) s d t
  | setMember {id name value s h t}
      (hfound : (R.present id name : Action BridgeError _) s = (.ok (some h), t))
      (hwritable : h.descriptor.isWritable) : Opens R (.setMember id name value) s h.descriptor t
  | callMethod {id name args s d t} (hfinds : R.Finds name (s.heap.chain id) s d t) :
      Opens R (.callMethod (.object id) name args) s d t
  -- the test of an instance reads the prototype like any other member
  | instanceOf {id callee s d t} (hcallable : s.isCallable callee)
      (hother : s.isExactInstance callee (.object id) = false)
      (hfinds : R.Finds "prototype" (s.heap.chain callee) s d t) :
      Opens R (.instanceOf (.object id) (.object callee)) s d t
  | length {id s d t} (hsequence : s.isArrayLike R.types id)
      (hfinds : R.Finds "length" (s.heap.chain id) s d t) : Opens R (.arrayLike id) s d t
  | element {id s length t x d u} (hsequence : s.isArrayLike R.types id)
      (hlength : R.get id "length" s = (.ok length, t)) (hnumber : length.number? = some x)
      (hshort : x.exceeds longestSequence = false)
      (helement : R.FindsElement id (List.range x.positivePart) t d u) :
      Opens R (.arrayLike id) s d u

variable {R : Realm} {hook : Hook} {s t : Store} {job : Job} {d : Descriptor}

/-- What a read runs as an access is the getter of the member that is bound. -/
private theorem ReadsBy.runs (h : R.ReadsBy s d job) (haccess : job.purpose.isAccess) :
    ∃ m, d.member? = some m ∧ m.Runs job := by
  cases h with
  | field => exact ⟨_, rfl, .get rfl⟩
  | property hget | sharedProperty _ hget => exact ⟨_, rfl, .get hget⟩
  | accessor => cases haccess
  | count => cases haccess
  | index => cases haccess

/-- What a write runs as an access is the setter of the member that is bound. -/
private theorem WritesBy.runs {value : ScriptValue} (h : R.WritesBy value s d job)
    (haccess : job.purpose.isAccess) : ∃ m, d.member? = some m ∧ m.Runs job := by
  cases h with
  | field hset => exact ⟨_, rfl, .set hset _⟩
  | property hset | sharedProperty hset => exact ⟨_, rfl, .set hset _⟩
  | index => cases haccess

/-- A read that runs an access has found a member for it. -/
private theorem Reads.opens {id : ObjectId} {name : String} (h : R.Reads id name s job t)
    (haccess : job.purpose.isAccess) :
    ∃ d, R.Finds name (s.heap.chain id) s d t ∧ ∃ m, d.member? = some m ∧ m.Runs job := by
  obtain ⟨d, hfinds, hreads⟩ := h
  exact ⟨d, hfinds, hreads.runs haccess⟩

/-- So has a read of elements. -/
private theorem ReadsElements.opens {id : ObjectId} {indices : List Nat}
    (h : R.ReadsElements id indices s job t) (haccess : job.purpose.isAccess) :
    ∃ d, R.FindsElement id indices s d t ∧ ∃ m, d.member? = some m ∧ m.Runs job := by
  induction h with
  | here hread =>
    obtain ⟨d, hfinds, hruns⟩ := Reads.opens hread haccess
    exact ⟨d, .here hfinds, hruns⟩
  | later hread _ ih =>
    obtain ⟨d, hfinds, hruns⟩ := ih haccess
    exact ⟨d, .later hread hfinds, hruns⟩

/-- A default of an argument is no access. -/
private theorem SuppliedBy.not_access {params : List Parameter} {args : List ScriptValue}
    (h : R.SuppliedBy params args s job t) : job.purpose.isAccess = false := by
  induction h with
  | default => rfl
  | afterDefault _ _ _ ih => exact ih
  | afterArgument _ _ ih => exact ih

/-- An overload is no access, and neither are its defaults. -/
private theorem Tries.not_access {y : Yield} {α : Type} {purpose : Purpose} {this : Option HostRef}
    {args : List ScriptValue} {attempt : Candidate y → Action BridgeError α}
    {candidates : List (Candidate y)} (h : R.Tries purpose this args attempt candidates s job t)
    (hpurpose : purpose.isAccess = false) : job.purpose.isAccess = false := by
  induction h with
  | argument hsupplied => exact hsupplied.not_access
  | body => exact hpurpose
  | later _ _ ih => exact ih

/-- A construction is no access. -/
private theorem Constructs.not_access {type : TypeId} {args : List ScriptValue}
    (h : R.Constructs type args s job t) : job.purpose.isAccess = false := by
  cases h with
  | default => rfl
  | overload _ htry => exact htry.not_access rfl

/-- A call is no access. -/
private theorem Calls.not_access {callee : ObjectId} {this : ScriptValue} {args : List ScriptValue}
    (h : R.Calls callee this args s job t) : job.purpose.isAccess = false := by
  cases h with
  | function => rfl
  | methods _ htry => exact htry.not_access rfl
  | type _ hnew => exact hnew.not_access

/-- The getters and setters that an entry runs are those of properties and fields that it opens. -/
theorem Runs.opens (h : R.Runs hook s job t) (haccess : job.purpose.isAccess) :
    ∃ d, R.Opens hook s d t ∧ ∃ m, d.member? = some m ∧ m.Runs job := by
  cases h with
  | getMember hread =>
    obtain ⟨d, hfinds, hruns⟩ := hread.opens haccess
    exact ⟨d, .getMember hfinds, hruns⟩
  | setMember hfound hwritable hwrite =>
    exact ⟨_, .setMember hfound hwritable, hwrite.runs haccess⟩
  | lookUp hread =>
    obtain ⟨d, hfinds, hruns⟩ := hread.opens haccess
    exact ⟨d, .callMethod hfinds, hruns⟩
  | instanceOf hcallable hother hread =>
    obtain ⟨d, hfinds, hruns⟩ := hread.opens haccess
    exact ⟨d, .instanceOf hcallable hother hfinds, hruns⟩
  | length hsequence hread =>
    obtain ⟨d, hfinds, hruns⟩ := hread.opens haccess
    exact ⟨d, .length hsequence hfinds, hruns⟩
  | element hsequence hlength hnumber hshort hread =>
    obtain ⟨d, helement, hruns⟩ := hread.opens haccess
    exact ⟨d, .element hsequence hlength hnumber hshort helement, hruns⟩
  -- calls run methods, constructors, defaults and functions
  | call _ hcall | callMethod _ _ hcall => rw [hcall.not_access] at haccess; cases haccess
  | construct _ hnew => rw [hnew.not_access] at haccess; cases haccess

end Realm

/-! ### Members meet their targets -/

/-- What a request finds meets its target, if the types are built. -/
theorem Handle.Fits.meetsTarget {types : Registry} (hbuilt : types.Built) {id : ObjectId}
    {host : Option (HostRef ⊕ TypeId)} {h : Handle} (hh : h.Fits types id host) {m : BoundMember}
    (hm : h.descriptor.member? = some m) : m.MeetsTarget := by
  cases hh with
  | slot hd => exact hd.meetsTarget hbuilt hm
  | deleted => cases hm
  | element => cases hm
  | indexed => cases hm

namespace Realm

variable {R : Realm} {hook : Hook} {s t : Store} {d : Descriptor} {m : BoundMember}

/-- What is present fits the object that it is found on. -/
private theorem fits_of_present {id : ObjectId} {name : String} {h : Handle} (hs : s.Aligned R.types)
    (hfound : (R.present id name : Action BridgeError _) s = (.ok (some h), t)) :
    h.Fits R.types id (s.host? id) := by
  have hown : (R.toEngine.ownProperty s id name).1.filter (!·.descriptor.isAbsent) = some h :=
    Outcome.ok.inj (Prod.mk.inj hfound).1
  exact hs.found (Option.filter_eq_some_iff.1 hown).1

section

variable (hR : R.Rule Engine.noSlot (Store.StaysAligned R.types)) (hbuilt : R.types.Built)
include hR hbuilt

/-- What is found along a prototype chain meets its target. -/
private theorem Finds.meetsTarget {name : String} {chain : List ObjectId} (hs : s.Aligned R.types)
    (hfinds : R.Finds name chain s d t) (hm : d.member? = some m) : m.MeetsTarget := by
  induction hfinds with
  | here hfound => exact (fits_of_present hs hfound).meetsTarget hbuilt hm
  -- requests further up the chain are made on the store that the missing ones left
  | next hmissing _ ih =>
    exact ih (((hR.present_keeps _ _).of_eq hmissing).aligned hs) hm

/-- What is found for an element meets its target. -/
private theorem FindsElement.meetsTarget {id : ObjectId} {indices : List Nat} (hs : s.Aligned R.types)
    (hfinds : R.FindsElement id indices s d t) (hm : d.member? = some m) : m.MeetsTarget := by
  induction hfinds with
  | here hfinds => exact Finds.meetsTarget hR hbuilt hs hfinds hm
  | later hread _ ih => exact ih (((hR.get_keeps _ _).of_eq hread).aligned hs) hm

/-- What an entry opens meets its target. -/
theorem Opens.meetsTarget (hs : s.Aligned R.types) (hopens : R.Opens hook s d t)
    (hm : d.member? = some m) : m.MeetsTarget := by
  cases hopens with
  | getMember hfinds | callMethod hfinds | instanceOf _ _ hfinds | length _ hfinds =>
    exact hfinds.meetsTarget hR hbuilt hs hm
  | setMember hfound => exact (fits_of_present hs hfound).meetsTarget hbuilt hm
  | element _ hlength _ _ helement =>
    exact helement.meetsTarget hR hbuilt (((hR.get_keeps _ _).of_eq hlength).aligned hs) hm

end

end Realm

/-- What the first request for a key of a type reference binds: a constant of the type, or static
members that the type itself declares, without an instance. In the store `t` there is the function for
static methods. -/
inductive Registry.BindsStatic (types : Registry) (type : TypeId) (key : String) (t : Store) :
    Descriptor → Prop where
  | constant {n : Sized .int64} (hn : types.DeclaresStatic type key (.constant n)) :
      BindsStatic types type key t (.data (.number (.ofInt n.val)) .none)
  | property {p : Property} (hp : types.DeclaresStatic type key (.property p)) :
      BindsStatic types type key t (.property p none none)
  | field {f : Field} (hf : types.DeclaresStatic type key (.field f)) :
      BindsStatic types type key t (.field f none)
  | methods {f : ObjectId} {group : MethodGroup}
      (hgroup : types.DeclaresStatic type key (.methodGroup group))
      (hsort : t.sort? f = some (.methods group none)) :
      BindsStatic types type key t (.data (.object f) .none)

namespace Engine

open Store

/-- Static and instance members are kept apart on the store. -/
structure KeepsApart (E : Engine) (s : Store) : Prop where
  /-- What a type reference binds is static, and declared by its own type. -/
  binds : ∀ id type name h t, s.sort? id = some (.typeReference type) →
    (s.slots id).state (Name.normalize name) = none → E.ownProperty s id name = (some h, t) →
    h.home = some (id, Name.normalize name) ∧
      E.types.BindsStatic type (Name.normalize name) t h.descriptor
  /-- So it never has anything but that, and what scripts put in the place of deleted names. -/
  finds : ∀ id type name h, s.sort? id = some (.typeReference type) →
    (E.ownProperty s id name).1 = some h →
    h = ⟨.absent, none⟩ ∨ ∃ d, h = ⟨d, some (id, Name.normalize name)⟩ ∧
      d.Fits E.types (Name.normalize name) (some (.inr type))
  /-- Functions for methods belong to a wrapper, and have its instance for their target, or to a type
  reference, and have none. -/
  functions : ∀ f group target, s.sort? f = some (.methods group target) →
    ∃ index key host, f = .bound index key ∧ s.host? (.created index) = some host ∧
      group.Fits E.types key host target
  /-- What an entry opens is a static member, or it has an instance. -/
  opens : ∀ depth hook d t m, (E.realm depth).Opens hook s d t → d.member? = some m →
    m.MeetsTarget
  /-- The getters and setters that an entry runs are past the look at their targets. -/
  enters : ∀ depth hook job t, (E.realm depth).Runs hook s job t → job.purpose.isAccess →
    ∃ d m, (E.realm depth).Opens hook s d t ∧ d.member? = some m ∧ m.Enters job

variable {E : Engine} {s t : Store} {id : ObjectId} {type : TypeId} {name : String} {h : Handle}

/-- What a type reference binds at first sight. -/
private theorem bindsStatic_ownProperty (hs : s.Aligned E.types)
    (htype : s.sort? id = some (.typeReference type))
    (hunset : (s.slots id).state (Name.normalize name) = none)
    (hown : E.ownProperty s id name = (some h, t)) :
    h.home = some (id, Name.normalize name) ∧
      E.types.BindsStatic type (Name.normalize name) t h.descriptor := by
  obtain ⟨index, rfl, -⟩ := hs.founded.reference htype
  have hhost : s.isHostObject (.created (index + 4)) := isHostObject_iff.2 (.inr ⟨type, htype⟩)
  obtain ⟨cache, -, hfirst⟩ := ownProperty_of_unset hs.cache htype hhost hunset
  rw [hfirst] at hown
  -- every member that a lookup on the type can give is bound without an instance
  have hmember := E.types.declaresStatic_resolve type (Name.normalize name)
  simp only [Registry.foresee, Registry.unbound] at hown
  generalize E.types.resolve type (Name.normalize name) .onType = member at hown hmember
  cases member with
  | constant n =>
    cases hown
    exact ⟨rfl, .constant hmember⟩
  | property p =>
    cases hown
    exact ⟨rfl, .property hmember⟩
  | field f =>
    cases hown
    exact ⟨rfl, .field hmember⟩
  | methodGroup group =>
    cases hown
    refine ⟨rfl, .methods hmember ?_⟩
    exact sort?_of_object? (object?_advance_function (s := { s with cache }) rfl)
  | indexer i => exact hmember.elim
  | undefined => cases hown

/-- Whatever a type reference has under a name. -/
private theorem fits_ownProperty (hs : s.Aligned E.types) (htype : s.sort? id = some (.typeReference type))
    (hown : (E.ownProperty s id name).1 = some h) :
    h = ⟨.absent, none⟩ ∨ ∃ d, h = ⟨d, some (id, Name.normalize name)⟩ ∧
      d.Fits E.types (Name.normalize name) (some (.inr type)) := by
  have hhost := host?_eq_inr_iff.2 htype
  have hhome := home_of_host (isHostObject_iff.2 (.inr ⟨type, htype⟩)) hown
  have hfits := hs.found hown
  rw [hhost] at hfits
  -- a type reference has neither elements nor an indexer
  cases hfits with
  | slot hd =>
    obtain hhome | ⟨hhome, -⟩ := hhome
    · cases hhome
      exact .inr ⟨_, rfl, hd⟩
    · cases hhome
  | deleted => exact .inl rfl
  | element hnone => cases hnone
  | indexed hnone => cases hnone

/-- An aligned store keeps static members and members of instances apart. -/
private theorem keepsApart_of_aligned (hbuilt : E.types.Built) (hs : s.Aligned E.types) :
    E.KeepsApart s where
  binds id type name h t htype hunset hown := bindsStatic_ownProperty hs htype hunset hown
  finds id type name h htype hown := fits_ownProperty hs htype hown
  functions f group target hsort := by
    -- a function for methods stands in a slot of its owner, whose members it calls
    obtain ⟨o, ho, hmethods⟩ := Option.map_eq_some_iff.1 hsort
    obtain ⟨index, key, owner, host, hid, howner, hhost, hfits⟩ :=
      (hs.bound f o ho).function group target hmethods
    exact ⟨index, key, host, hid, (host?_of_object? howner).trans hhost, hfits⟩
  opens depth hook d t m hopens hm :=
    hopens.meetsTarget (E.aligned_rule.realm depth) hbuilt hs hm
  enters depth hook job t hruns haccess := by
    obtain ⟨d, hopens, m, hm, hjob⟩ := hruns.opens haccess
    have hmeets := hopens.meetsTarget (E.aligned_rule.realm depth) hbuilt hs hm
    exact ⟨d, m, hopens, hm, hmeets.enters hjob⟩

/-- **Static and instance members never mix up their targets.** Let all types be built with typed
bodies for their properties and fields. Whatever has happened, and at every point inside an entry, a
type reference binds nothing but constants and static members of its own type, and every property or
field that is read or written is static or has an instance, so that no getter or setter comes to the
refusal of a missing instance. -/
theorem members_meet_targets (E : Engine) (hbuilt : E.types.Built) {s : Store}
    (hs : E.Becomes noSlot .initial s) :
    E.KeepsApart s ∧ ∀ depth hook d held y (program : Program y) t,
      E.Inside (fun _ => True) depth hook s d held program t → E.KeepsApart t := by
  have haligned := hs.aligned
  refine ⟨keepsApart_of_aligned hbuilt haligned, fun depth hook d held y program t hinside => ?_⟩
  have hkeeps := E.aligned_rule.inside (fun _ _ _ => .of_heap_eq rfl fun hcache => hcache) hinside
  exact keepsApart_of_aligned hbuilt (hkeeps.aligned haligned)

/-- A type with a level, which its instances have, and a count, which it has itself. -/
def gauge : TypeEntry :=
  let (readLevel, writeLevel) := Accessor.slotBodies "Gauge" (.integer .int32) "level" true
  let (readCount, writeCount) := Accessor.staticBodies (.integer .int32) (.declared 0, "count") false
  ((TypeEntry.make "Gauge" .reference).withProperty
    (.make "Level" (.primitive (.integer .int32)) (some readLevel) writeLevel)).withProperty
    (Property.make "Count" (.primitive (.integer .int32)) (some readCount) writeCount).asStatic

/-- A type that derives from it and has a unit itself. -/
def meter : TypeEntry :=
  let (readUnit, writeUnit) := Accessor.staticBodies .string (.declared 1, "unit") true
  ((TypeEntry.make "Meter" .reference).withBase (.declared 0)).withField
    (Field.make "Unit" .string readUnit writeUnit).asStatic

/-- A type with members of both kinds, and one that inherits from it. -/
def gauges : Registry := ((Registry.empty.declare gauge).2.declare meter).2

/-- It is built step by step. -/
theorem built_gauges : gauges.Built := by
  have hgauge : gauge.Built :=
    .property (.property (.make "Gauge" .reference) (typedBodies_slot _ _ _ true))
      (typedBodies_static _ _ false)
  have hmeter : meter.Built :=
    .field (.base (.make "Meter" .reference) (.declared 0)) (typedBodies_static _ _ true)
  exact (Registry.built_empty.declare hgauge).declare hmeter

/-- Makes a type reference to the derived type and a wrapper of an instance of it, and reads the unit
of the one and the level of the other. -/
def survey : Program .script :=
  .ask (.typeReference (.declared 1)) fun type =>
    .ask (.enter (.getMember type "unit")) fun _ =>
      .ask (.newInstance (.declared 1) (.empty "Gauge")) fun ref =>
        .ask (.wrap ref) fun wrapper =>
          .ask (.enter (.getMember wrapper "level")) fun _ => .done wrapper

/-- The type reference has the unit without an instance, and neither the inherited count nor the level;
the wrapper has the level of its instance. -/
theorem meter_has_unit_alone :
    let E : Engine := ⟨gauges, .default, .byCost⟩
    let s := ((E.realm 2).run survey .initial).2
    let found (index : Nat) (name : String) :=
      (E.ownProperty s (.created index) name).1.map fun h => h.descriptor.member?.map (·.target)
    E.types.Built ∧ E.Becomes noSlot .initial s ∧ E.KeepsApart s ∧
      found 4 "Unit" = some (some none) ∧ found 4 "Count" = none ∧ found 4 "Level" = none ∧
      found 5 "Level" = some (some (some ⟨.declared 1, 0⟩)) := by
  intro E s found
  have hs : E.Becomes noSlot .initial s :=
    .single (.run 2 survey .initial (congrArg (Realm.run · survey _) (E.sparing_noSlot 2)))
  refine ⟨built_gauges, hs, (members_meet_targets E built_gauges hs).1, ?_⟩
  -- what is left is about this one store, and is evaluated
  clear hs
  decide +kernel +revert

end Engine

end Membrane
