import Membrane.Proofs.Definitions
import Membrane.Proofs.PrototypeChains
import Membrane.Proofs.RoundTrip

/-!
# What is an instance of a type reference

As long as a type reference has its own object in its slot `prototype`, it has two sorts of
instances: wrappers of instances of exactly its type, and objects that were made on top of that
object. No wrapper is among the latter, since the one prototype of a wrapper is older than any type
reference.

## Key results

- `Engine.instanceOf_exact`: what `instanceof` answers for a type reference whose slot `prototype` was
  never deleted, and that every prototype chain comes to an end
-/

namespace Membrane

/-- The exact instances of a type reference are the wrappers of instances of its type. -/
theorem Store.isExactInstance_iff {s : Store} {callee : ObjectId} {type : TypeId}
    (htype : s.referencedType? callee = some type) (value : ScriptValue) :
    s.isExactInstance callee value ↔
      ∃ v ref, value = .object v ∧ s.hostTarget? v = some ref ∧ ref.type = type := by
  simp only [isExactInstance, htype]
  cases value with
  | object v =>
    -- an object that stands for no instance has no type to compare
    cases htarget : s.hostTarget? v with
    | none => simp [ScriptValue.object?, htarget]
    | some ref => simp [ScriptValue.object?, htarget]
  | _ => simp [ScriptValue.object?]

/-- Behind a wrapper stands the last prototype, and nothing else. -/
theorem Heap.Founded.above_wrapper {spared : ObjectId → String → Bool} {s : Store} {id p : ObjectId}
    (hs : s.heap.Founded spared) {target : HostRef} (htarget : s.hostTarget? id = some target)
    (habove : Relation.TransGen s.heap.Links id p) : p = Store.objectPrototype := by
  obtain ⟨o, ho, hsort⟩ := Option.map_eq_some_iff.1 (Store.hostTarget?_eq_some_iff.1 htarget)
  obtain ⟨q, hlink, hrest⟩ := Relation.TransGen.head'_iff.1 habove
  have hlinked : s.heap.prototype? id = some Store.objectPrototype := by
    rw [Heap.prototype?, show s.heap.object? id = some o from ho, Option.bind_some]
    exact (hs.made id o ho).wrapper target hsort
  cases hlinked.symm.trans hlink
  -- the last prototype is the oldest object, so nothing stands behind it
  obtain rfl | ⟨r, hlink', -⟩ := Relation.ReflTransGen.cases_head_iff.1 hrest
  · rfl
  · obtain ⟨q, hq, hprototype⟩ := Option.bind_eq_some_iff.1 hlink'
    exact absurd ((hs.made _ q hq).older r hprototype) (Nat.not_lt_zero _)

namespace Realm

open Action Store

variable {R : Realm} {s : Store} {callee p : ObjectId} {type : TypeId}

/-- A type reference with an object in its slot `prototype` tests values that are no instances of its
type by that object. -/
theorem instanceOf_typeReference (R : Realm) (htype : s.referencedType? callee = some type)
    (hslot : (s.slots callee).state "prototype" = some (.live (.data (.object p) .none)))
    (value : ScriptValue) :
    R.instanceOf value (.object callee) s =
      (.ok (s.isExactInstance callee value ||
        value.object?.any fun id => (s.heap.chain id).tail.contains p), s) := by
  have hsort := referencedType?_eq_some_iff.1 htype
  have hname : Name.normalize "prototype" = "prototype" := rfl
  -- the slot was never written, so the read finds the prototype of the type
  have hget : R.get callee "prototype" s = (.ok (.object p), s) := by
    have hown : R.toEngine.ownProperty s callee "prototype" = _ :=
      Engine.ownProperty_of_state (isHostObject_iff.2 (.inr ⟨type, hsort⟩)) (hname ▸ hslot)
    exact get_of_own hown rfl
  have hcallable : s.isCallable callee = true := by rw [isCallable, hsort]
  show R.hasInstance callee value s = _
  rw [hasInstance_eq]
  cases hexact : s.isExactInstance callee value with
  | true => rfl
  | false =>
    simp only [Bool.false_eq_true, if_false, Bool.false_or]
    cases value with
    | object id =>
      simp only [ordinaryHasInstance, bind_apply, getStore, hcallable, Bool.not_true,
        Bool.false_eq_true, if_false, hget]
      rfl
    | _ =>
      simp only [ordinaryHasInstance, bind_apply, getStore, hcallable]
      rfl

end Realm

namespace Engine

/-- What `instanceof` answers for the type reference `callee` to `type`, which has the object `p` in
its slot `prototype`. A value is an instance if and only if it wraps an instance of the very type, or
`p` stands strictly above it in its prototype chain; of the wrappers only those of the very type are
instances, whatever the other types derive from or are called. -/
def TestsExactly (E : Engine) (s : Store) (callee : ObjectId) (type : TypeId) (p : ObjectId) : Prop :=
  ∀ depth value, ∃ answer,
    (E.realm depth).instanceOf value (.object callee) s = (.ok answer, s) ∧
    (answer = true ↔
      (∃ v ref, value = .object v ∧ s.hostTarget? v = some ref ∧ ref.type = type) ∨
      ∃ v, value = .object v ∧ Relation.TransGen s.heap.Links v p) ∧
    ∀ v ref, value = .object v → s.hostTarget? v = some ref → (answer = true ↔ ref.type = type)

variable {E : Engine} {s : Store} {callee p : ObjectId} {type : TypeId}

/-- The test against a type reference whose prototype is still in its slot. -/
private theorem testsExactly (hs : s.heap.Founded noSlot) (htype : s.referencedType? callee = some type)
    (hslot : (s.slots callee).state "prototype" = some (.live (.data (.object p) .none)))
    (hp : p ≠ Store.objectPrototype) : E.TestsExactly s callee type p := by
  intro depth value
  have habove (v : ObjectId) :
      p ∈ (s.heap.chain v).tail ↔ Relation.TransGen s.heap.Links v p :=
    (Heap.isChain_chain hs.older v).mem_tail_iff
  refine ⟨_, (E.realm depth).instanceOf_typeReference htype hslot value, ?_, ?_⟩
  · rw [Bool.or_eq_true, Store.isExactInstance_iff htype]
    refine or_congr_right ?_
    cases value with
    | object v => simpa [ScriptValue.object?] using habove v
    | _ => simp [ScriptValue.object?]
  · rintro v ref rfl htarget
    -- behind a wrapper there is only the last prototype, and `p` is another object
    have hnone : p ∉ (s.heap.chain v).tail := fun hmem =>
      hp (hs.above_wrapper htarget ((habove v).1 hmem))
    rw [ScriptValue.object?, Option.any_some, Bool.or_eq_true, List.contains_iff_mem,
      or_iff_left hnone, Store.isExactInstance_iff htype]
    constructor
    · rintro ⟨v', ref', hv, htarget', hsame⟩
      cases hv
      cases htarget.symm.trans htarget'
      exact hsame
    · exact fun hsame => ⟨v, ref, rfl, htarget, hsame⟩

/-- **`instanceof` is exact.** Whatever has happened, every prototype chain comes to an end, so that
the tests and reads which go along one do. A type reference that has never lost its slot `prototype`,
under any spelling, has the object there that was made for it and just before it, and by that object
and its type it tests exactly. The same holds at every point inside an entry, with the type references
that still have their objects. -/
theorem instanceOf_exact (E : Engine) (spared : ObjectId → String → Bool) {s : Store}
    (hs : E.Becomes spared .initial s) :
    (∀ id, s.heap.IsChain id (s.heap.chain id)) ∧
    (∀ id type, s.referencedType? id = some type → spared id "prototype" →
      ∃ index, id = .created (index + 1) ∧
        (s.slots id).get? "prototype" = some (.data (.object (.created index)) .none) ∧
        E.TestsExactly s id type (.created index)) ∧
    ∀ depth hook d held y (program : Program y) t,
      E.Inside (fun _ => True) depth hook s d held program t →
      (∀ id, t.heap.IsChain id (t.heap.chain id)) ∧
      ∀ index type, t.referencedType? (.created (index + 1)) = some type →
        (t.slots (.created (index + 1))).get? "prototype" =
          some (.data (.object (.created index)) .none) →
        E.TestsExactly t (.created (index + 1)) type (.created index) := by
  have hfounded := hs.founded
  refine ⟨Heap.isChain_chain hfounded.older, fun id type htype hspared => ?_,
    fun depth hook d held y program t hinside => ?_⟩
  · obtain ⟨index, rfl, hslot⟩ :=
      hfounded.reference (Store.referencedType?_eq_some_iff.1 htype)
    have hlive := hslot hspared
    refine ⟨index + 3, rfl, SlotTable.get?_eq_some_iff.2 hlive, ?_⟩
    exact testsExactly hfounded.unspared htype hlive (by simp [Store.objectPrototype])
  · have ht : t.heap.Founded noSlot :=
      ((E.founded_rule noSlot).inside (fun _ _ _ => .of_heap_eq rfl) hinside hfounded.unspared).1
    refine ⟨Heap.isChain_chain ht.older, fun index type htype hslot => ?_⟩
    refine testsExactly ht htype (SlotTable.get?_eq_some_iff.1 hslot) ?_
    obtain ⟨made, hid, -⟩ := ht.reference (Store.referencedType?_eq_some_iff.1 htype)
    -- type references have at least four objects before them
    rintro ⟨⟩
    cases hid

/-- A type, a type that derives from it, and another type of the same name. -/
def animals : Registry :=
  let (animal, types) := Registry.empty.declare (.make "Animal" .reference)
  let (_, types) := types.declare ((TypeEntry.make "Cat" .reference).withBase animal)
  (types.declare (.make "Animal" .reference)).2

/-- Makes a type reference to the first type, deletes a slot of it, and makes an object on top of its
own object and a wrapper of an instance of each type. -/
def menagerie : Program .script :=
  .ask (.typeReference (.declared 0)) fun animal =>
    .ask (.enter (.deleteMember (.created 4) "name")) fun _ =>
      .ask (.newObject (some (.created 3))) fun _ =>
        .ask (.newInstance (.declared 0) (.empty "")) fun first =>
          .ask (.wrap first) fun _ =>
            .ask (.newInstance (.declared 1) (.empty "")) fun cat =>
              .ask (.wrap cat) fun _ =>
                .ask (.newInstance (.declared 2) (.empty "")) fun namesake =>
                  .ask (.wrap namesake) fun _ => .done animal

/-- Instances of the type are the object and the first wrapper; the other wrappers are none. -/
theorem cat_and_namesake_are_no_animals :
    let E : Engine := ⟨animals, .default, .byCost⟩
    let spared := fun id key => id == .created 4 && key == "prototype"
    let s := ((E.realm 1).run menagerie .initial).2
    let test (v : Nat) :=
      ((E.realm 1).instanceOf (.object (.created v)) (.object (.created 4)) s).1
    E.Becomes spared .initial s ∧
      test 5 = .ok true ∧ test 6 = .ok true ∧ test 7 = .ok false ∧ test 8 = .ok false := by
  intro E spared s test
  have hs : E.Becomes spared .initial s := .single (.run 1 menagerie .initial rfl)
  obtain ⟨-, hexact, -⟩ := instanceOf_exact E spared hs
  obtain ⟨index, hid, -, htests⟩ := hexact (.created 4) (.declared 0) rfl rfl
  cases hid
  -- a wrapper has no prototype object of the reference above it, so the type decides
  have hwrapper (v : Nat) (ref : HostRef) (hv : s.hostTarget? (.created v) = some ref) :
      test v = .ok (ref.type == .declared 0) := by
    obtain ⟨answer, hanswer, -, hsame⟩ := htests 1 (.object (.created v))
    show ((E.realm 1).instanceOf _ _ s).1 = _
    rw [hanswer, Bool.eq_iff_iff.2 ((hsame _ ref rfl hv).trans beq_iff_eq.symm)]
  refine ⟨hs, ?_, hwrapper 6 ⟨.declared 0, 0⟩ rfl, hwrapper 7 ⟨.declared 1, 1⟩ rfl,
    hwrapper 8 ⟨.declared 2, 2⟩ rfl⟩
  obtain ⟨answer, hanswer, hiff, -⟩ := htests 1 (.object (.created 5))
  show ((E.realm 1).instanceOf _ _ s).1 = _
  rw [hanswer, hiff.2 (.inr ⟨_, rfl, .single rfl⟩)]

end Engine

end Membrane
