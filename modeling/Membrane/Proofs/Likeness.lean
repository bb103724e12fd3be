import Membrane.Overload.Ranking
import Membrane.Proofs.Lookahead

/-!
# Stores that are ahead look alike

Nothing that programs ask about a grounded value shows whether names were looked up: its sort, its
prototypes, its host form, what it costs to pass it to an overload, its texts and its entry in the
log are the same on a store and on one that is ahead. Answers refer to nothing that is still to be
made.

Two of these are granted a number of steps that depends on the number of objects, which may differ.
The natural host form does not depend on it (`Store.natural?_eq_some_iff`). For the views in the log
the number is ample: inside some distinct arrays as many steps suffice as there are other objects.

## Key results

- `Store.Ahead.chain`, `Store.Ahead.natural?`, `Store.Ahead.order`, `Store.Ahead.record`: what is
  the same on both sides
- `Store.Ahead.fromHost`: the script form of a host value
-/

namespace Membrane

/-- Functions that agree on the elements of a list give it the same results. -/
theorem mapM_congr {m : Type → Type} [Monad m] [LawfulMonad m] {α β : Type} {f g : α → m β}
    {l : List α} (h : ∀ a ∈ l, f a = g a) : l.mapM f = l.mapM g := by
  induction l with
  | nil => rfl
  | cons a rest ih =>
    rw [List.mapM_cons, List.mapM_cons, h a List.mem_cons_self,
      ih fun b hb => h b (List.mem_cons_of_mem a hb)]

namespace Store

variable {types : Registry} {s t : Store} {id : ObjectId} {v : ScriptValue}

/-! ### Objects -/

section Objects

variable (h : s.Ahead types t) (hid : id.GroundedIn s)
include h hid

/-- They agree on the elements of an array. -/
theorem Ahead.elements? : t.elements? id = s.elements? id := by
  simp only [Store.elements?, h.sort? hid]

/-- They agree on what a wrapper stands for. -/
theorem Ahead.hostTarget? : t.hostTarget? id = s.hostTarget? id := by
  simp only [Store.hostTarget?, h.sort? hid]

/-- They agree on the type that is referred to. -/
theorem Ahead.referencedType? : t.referencedType? id = s.referencedType? id := by
  simp only [Store.referencedType?, h.sort? hid]

/-- They agree on what can be called. -/
theorem Ahead.isCallable : t.isCallable id = s.isCallable id := by
  simp only [Store.isCallable, h.sort? hid]

/-- They agree on the names of classes. -/
theorem Ahead.className : t.className types id = s.className types id := by
  simp only [Store.className, h.sort? hid]

/-- They agree on what is like an array. -/
theorem Ahead.isArrayLike : t.isArrayLike types id = s.isArrayLike types id := by
  simp only [Store.isArrayLike, h.sort? hid]

/-- A prototype that is linked to is grounded, and the links are the same. -/
theorem Ahead.prototype? :
    t.heap.prototype? id = s.heap.prototype? id ∧
      ∀ p, s.heap.prototype? id = some p → p.GroundedIn s := by
  unfold Heap.prototype?
  obtain ⟨hs, ht⟩ | ⟨o, o', hs, ht, hahead⟩ := h.object? hid
  · rw [← Store.object?, ← Store.object?, hs, ht]
    refine ⟨rfl, ?_⟩
    rintro _ ⟨⟩
  · rw [← Store.object?, ← Store.object?, hs, ht]
    exact ⟨hahead.prototype, (h.grounded.objects id o hs).prototype⟩

/-- The prototype chain is the same, and all of it is grounded. -/
theorem Ahead.chain :
    t.heap.chain id = s.heap.chain id ∧ ∀ other ∈ s.heap.chain id, other.GroundedIn s := by
  -- the heaps may differ in size, so the steps are not tied to either
  suffices hwithin : ∀ steps id, id.GroundedIn s →
      t.heap.chainWithin steps id = s.heap.chainWithin steps id ∧
        ∀ other ∈ s.heap.chainWithin steps id, other.GroundedIn s from hwithin _ id hid
  intro steps
  induction steps with
  | zero => exact fun id _ => ⟨rfl, fun other hother => nomatch hother⟩
  | succ steps ih =>
    intro id hid
    obtain ⟨hsame, hground⟩ := h.prototype? hid
    simp only [Heap.chainWithin, hsame]
    cases hprototype : s.heap.prototype? id with
    | none => exact ⟨rfl, fun other hother => by rwa [List.mem_singleton.1 hother]⟩
    | some p =>
      obtain ⟨hrest, hgrounded⟩ := ih p (hground p hprototype)
      refine ⟨congrArg (id :: ·) hrest, fun other hother => ?_⟩
      obtain rfl | hother := List.mem_cons.1 hother
      · exact hid
      · exact hgrounded other hother

end Objects

/-- What an object holds by its sort is grounded. -/
theorem Grounded.sort (h : s.Grounded types) {sort : ObjectSort} (hsort : s.sort? id = some sort) :
    sort.GroundedIn s := by
  obtain ⟨o, ho, rfl⟩ := Option.map_eq_some_iff.1 hsort
  exact (h.objects id o ho).sort

/-! ### Values -/

section Values

variable (h : s.Ahead types t) (hv : v.GroundedIn s)
include h hv

/-- They agree on the type tag of a value. -/
theorem Ahead.typeTag : t.typeTag v = s.typeTag v := by
  cases v with
  | object id => simp only [Store.typeTag, h.isCallable hv]
  | _ => rfl

/-- They agree on the description of a value. -/
theorem Ahead.describeScript : t.describeScript types v = s.describeScript types v := by
  cases v with
  | object id => simp only [Store.describeScript, h.className hv]
  | _ => rfl

/-- They agree on the elements that a value holds. -/
theorem Ahead.arrayElements? : t.arrayElements? v = s.arrayElements? v := by
  cases v with
  | object id => exact h.elements? hv
  | _ => rfl

/-- They agree on the host form of what is no array, and it is grounded. -/
theorem Ahead.naturalScalar :
    t.naturalScalar v = s.naturalScalar v ∧ (s.naturalScalar v).GroundedIn s := by
  cases v with
  | object id =>
    simp only [Store.naturalScalar, h.sort? hv, true_and]
    -- a wrapper and a type reference give what holds no script object
    split
    · unfold HostValue.GroundedIn
      trivial
    · unfold HostValue.GroundedIn
      trivial
    · exact HostValue.groundedIn_script.2 hv
  | number x =>
    refine ⟨rfl, ?_⟩
    show (naturalNumber x).GroundedIn s
    -- a number gives a double or an integer
    obtain hdouble | ⟨n, hn, -⟩ := naturalNumber_cases x
    · rw [hdouble]
      exact HostValue.groundedIn_of_primitiveKind? rfl
    · rw [hn]
      exact HostValue.groundedIn_of_primitiveKind? rfl
  | _ =>
    refine ⟨rfl, ?_⟩
    unfold HostValue.GroundedIn
    trivial

/-- They agree on what a value can be shaped to. -/
theorem Ahead.acceptsShape (target : TypeId) :
    t.acceptsShape types v target = s.acceptsShape types v target := by
  cases v with
  | object id => simp only [Store.acceptsShape, h.sort? hv]
  | _ => rfl

/-- They agree on the cost of a conversion. -/
theorem Ahead.cost? (type : TypeId) : t.cost? types v type = s.cost? types v type := by
  cases v with
  | object id => simp only [Store.cost?, h.sort? hv]
  | _ => rfl

end Values

/-! ### Host forms -/

/-- The natural host form of a value is the same in a store that shows the same of everything that
the value is made of. -/
private theorem Natural.transfer {P : ScriptValue → Prop} {w : HostValue}
    (harray : ∀ v, P v → t.arrayElements? v = s.arrayElements? v)
    (hscalar : ∀ v, P v → t.naturalScalar v = s.naturalScalar v)
    (helements : ∀ v elements, P v → s.arrayElements? v = some elements → ∀ e ∈ elements, P e)
    (hnatural : s.Natural types v w) (hv : P v) : t.Natural types v w := by
  -- the elements have the property again, so each of them is transferred
  induction hnatural with
  | @scalar v hnone =>
    rw [← hscalar v hv]
    exact .scalar ((harray v hv).trans hnone)
  | @array v elements items hsome hsize _ ih =>
    refine .array ((harray v hv).trans hsome) hsize fun i e item he hitem => ?_
    exact ih i e item he hitem (helements v elements hv hsome e (Array.mem_of_getElem? he))

/-- The elements of an array of a grounded store are grounded. -/
private theorem Grounded.arrayElements (h : s.Grounded types) {elements : Array ScriptValue}
    (helements : s.arrayElements? v = some elements) : ∀ e ∈ elements, e.GroundedIn s := by
  cases v with
  | object id => exact h.sort (elements?_eq_some_iff.1 helements)
  | _ => cases helements

section HostForms

variable (h : s.Ahead types t)
include h

/-- They agree on the host form of a value. -/
theorem Ahead.natural? (hv : v.GroundedIn s) : t.natural? types v = s.natural? types v := by
  -- the heaps may differ in size, and so in the steps that are granted; the form itself does not
  apply Option.ext
  intro w
  rw [natural?_eq_some_iff, natural?_eq_some_iff]
  constructor
  · refine fun hnatural => hnatural.transfer (P := ScriptValue.GroundedIn s)
      (fun v hv => (h.arrayElements? hv).symm) (fun v hv => (h.naturalScalar hv).1.symm) ?_ hv
    intro v elements hv helements
    exact h.grounded.arrayElements ((h.arrayElements? hv).symm.trans helements)
  · exact fun hnatural => hnatural.transfer (P := ScriptValue.GroundedIn s)
      (fun v hv => h.arrayElements? hv) (fun v hv => (h.naturalScalar hv).1)
      (fun v elements _ helements => h.grounded.arrayElements helements) hv

/-- The host form of a grounded value is grounded. -/
private theorem Ahead.grounded_of_natural {w : HostValue} (hnatural : s.Natural types v w)
    (hv : v.GroundedIn s) : w.GroundedIn s := by
  induction hnatural with
  | scalar => exact (h.naturalScalar hv).2
  | @array v elements items helements hsize _ ih =>
    refine HostValue.groundedIn_homogenize fun item hitem => ?_
    obtain ⟨i, hi⟩ := List.getElem?_of_mem hitem
    have hlt : i < elements.size := by
      have := (List.getElem?_eq_some_iff.1 hi).1
      omega
    refine ih i elements[i] item (Array.getElem?_eq_getElem hlt) hi ?_
    exact h.grounded.arrayElements helements _ (Array.getElem_mem hlt)

/-- The same of the host form that is computed. -/
theorem Ahead.grounded_of_natural? {w : HostValue} (hv : v.GroundedIn s)
    (hnatural : s.natural? types v = some w) : w.GroundedIn s :=
  h.grounded_of_natural (natural?_eq_some_iff.1 hnatural) hv

/-- The lenient conversion. -/
theorem Ahead.convertTo? (hv : v.GroundedIn s) (target : TypeId) :
    t.convertTo? types v target = s.convertTo? types v target ∧
      ∀ w, s.convertTo? types v target = some (.ok w) → w.GroundedIn s := by
  simp only [Store.convertTo?, h.natural? hv, true_and]
  intro w hw
  split at hw
  · cases hw
    exact HostValue.groundedIn_script.2 hv
  · obtain ⟨u, hu, hcoerce⟩ := Option.map_eq_some_iff.1 hw
    exact (h.grounded_of_natural? hv hu).coerce hcoerce

/-- The strict conversion. -/
theorem Ahead.toHost? (hv : v.GroundedIn s) (target : Option TypeId) :
    t.toHost? types v target = s.toHost? types v target ∧
      ∀ w, s.toHost? types v target = some (.ok w) → w.GroundedIn s := by
  constructor
  · simp only [Store.toHost?, h.natural? hv, h.acceptsShape hv, Store.refuse, h.typeTag hv]
  · intro w hw
    -- only the host form, a script value as it is, or the coercion of the host form comes out
    unfold Store.toHost? at hw
    split at hw
    · obtain ⟨u, hu, hok⟩ := Option.map_eq_some_iff.1 hw
      cases hok
      exact h.grounded_of_natural? hv hu
    · cases hw
      exact HostValue.groundedIn_script.2 hv
    · split at hw
      · cases hw
      · obtain ⟨u, hu, hresult⟩ := Option.map_eq_some_iff.1 hw
        have hground := h.grounded_of_natural? hv hu
        split at hresult
        · exact hground.coerce hresult
        · cases hresult
          exact hground

/-- They agree on the description of a host value. -/
theorem Ahead.describe {w : HostValue} (hw : w.GroundedIn s) :
    t.describe types w = s.describe types w := by
  cases w with
  | script v => simp only [Store.describe, h.describeScript (HostValue.groundedIn_script.1 hw)]
  | _ => rfl

/-! ### Overloads -/

/-- The order in which the overloads of a call are tried. -/
theorem Ahead.order (ranker : Ranker) (candidates : List (List Parameter))
    {args : List ScriptValue} (hargs : ∀ a ∈ args, a.GroundedIn s) :
    ranker.order types t candidates args = ranker.order types s candidates args := by
  -- the ranking looks at the arguments through their costs alone
  have hcosts : ∀ params, t.costs? types params args = s.costs? types params args :=
    fun params => mapM_congr fun pair hpair => h.cost? (hargs _ (List.of_mem_zip hpair).1) _
  have hstanding : t.standing? types args = s.standing? types args := by
    funext candidate
    simp only [Store.standing?, hcosts]
  cases ranker with
  | byCost => simp only [Ranker.order, Store.rankByCost, hstanding]
  | fixed order => rfl

/-! ### The log -/

/-- They agree on how an object is shown. -/
private theorem Ahead.showObject (hid : id.GroundedIn s) :
    t.showObject types id = s.showObject types id := by
  simp only [Store.showObject, h.hostTarget? hid, h.className hid, h.isCallable hid,
    h.referencedType? hid]

omit h in
/-- Distinct arrays around another one are fewer than there are objects. -/
private theorem length_lt_of_arrays {outer : List ObjectId} (hnodup : outer.Nodup)
    (houter : ∀ other ∈ outer, (s.elements? other).isSome) (hid : (s.elements? id).isSome)
    (hnew : id ∉ outer) : outer.length < s.heap.count := by
  -- the arrays that are being shown are objects of the store, each of them once
  have hsubset : id :: outer ⊆ s.heap.ids := by
    intro other hother
    have harray : (s.elements? other).isSome := by
      obtain rfl | hother := List.mem_cons.1 hother
      · exact hid
      · exact houter other hother
    obtain ⟨elements, helements⟩ := Option.isSome_iff_exists.1 harray
    exact mem_ids_of_elements helements
  have hlength := (List.nodup_cons.2 ⟨hnew, hnodup⟩).length_le_of_subset hsubset
  rwa [Heap.length_ids, List.length_cons] at hlength

/-- What is shown of a value inside some distinct arrays, if the steps that are granted are ample on
both sides. -/
private theorem Ahead.showWithin (hv : v.GroundedIn s) {depth depth' : Nat} {outer : List ObjectId}
    (hnodup : outer.Nodup)
    (houter : ∀ id ∈ outer, id.GroundedIn s ∧ (s.elements? id).isSome)
    (hample : s.heap.count ≤ depth + outer.length)
    (hample' : t.heap.count ≤ depth' + outer.length) :
    t.showWithin types depth' outer v = s.showWithin types depth outer v := by
  -- an element has one array more around it, and one step less on either side
  induction depth generalizing depth' outer v with
  | zero =>
    cases v with
    | object id =>
      unfold Store.showWithin
      rw [h.showObject hv, h.elements? hv]
      cases helements : s.elements? id with
      | none => rfl
      | some elements =>
        -- with no step left the array must be one of those around it
        have haround : outer.contains id := by
          by_contra hnew
          have hlt := length_lt_of_arrays hnodup (fun other hother => (houter other hother).2)
            (by rw [helements]; rfl) (by simpa using hnew)
          omega
        simp only [haround, if_true]
    | _ =>
      unfold Store.showWithin
      rfl
  | succ depth ih =>
    cases v with
    | object id =>
      unfold Store.showWithin
      rw [h.showObject hv, h.elements? hv]
      cases helements : s.elements? id with
      | none => rfl
      | some elements =>
        by_cases haround : outer.contains id
        · simp only [haround, if_true]
        · -- the array is a new one, so the other side has a step left as well
          have hnew : id ∉ outer := by simpa using haround
          have hlt' := length_lt_of_arrays (s := t) hnodup
            (fun other hother => by
              rw [h.elements? (houter other hother).1]
              exact (houter other hother).2)
            (by rw [h.elements? hv, helements]; rfl) hnew
          cases depth' with
          | zero => omega
          | succ depth' =>
            have hmap : elements.toList.mapM (t.showWithin types depth' (id :: outer)) =
                elements.toList.mapM (s.showWithin types depth (id :: outer)) := by
              refine mapM_congr fun e he => ih ?_ (List.nodup_cons.2 ⟨hnew, hnodup⟩) ?_ ?_ ?_
              · exact h.grounded.arrayElements (v := .object id) helements e (Array.mem_def.2 he)
              · intro other hother
                obtain rfl | hother := List.mem_cons.1 hother
                · exact ⟨hv, by rw [helements]; rfl⟩
                · exact houter other hother
              · rw [List.length_cons]
                omega
              · rw [List.length_cons]
                omega
            simp only [haround, hmap]
    | _ =>
      unfold Store.showWithin
      rfl

/-- They agree on how a script value is shown. -/
private theorem Ahead.showScript (hv : v.GroundedIn s) :
    t.showScript types v = s.showScript types v :=
  h.showWithin hv .nil (fun _ hid => nomatch hid) (Nat.le_refl _) (Nat.le_refl _)

omit h in
mutual

/-- They agree on how a host value is shown. -/
private theorem Ahead.showHost (h : s.Ahead types t) :
    ∀ {w : HostValue}, w.GroundedIn s → t.showHost types w = s.showHost types w
  | .script v, hw => by
    simp only [Store.showHost, h.showScript (HostValue.groundedIn_script.1 hw)]
  | .array _ items, hw => by
    have hitems := Ahead.showHostAll h (HostValue.groundedIn_array.1 hw)
    simp only [Store.showHost, hitems]
  | .undefined, _ | .null, _ | .bool _, _ | .integer .., _ | .float _, _ | .double _, _
  | .string _, _ | .constant .., _ | .object _, _ | .hostType _, _ => by
    unfold Store.showHost
    rfl

/-- And on the entries of an array. -/
private theorem Ahead.showHostAll (h : s.Ahead types t) :
    ∀ {items : List HostValue}, (∀ w ∈ items, w.GroundedIn s) →
      t.showHostAll types items = s.showHostAll types items
  | [], _ => by
    unfold Store.showHostAll
    rfl
  | w :: rest, hitems => by
    have hfirst := Ahead.showHost h (hitems w List.mem_cons_self)
    have hrest := Ahead.showHostAll h fun u hu => hitems u (List.mem_cons_of_mem w hu)
    simp only [Store.showHostAll, hfirst, hrest]

end

/-- A call is noted on both sides. -/
theorem Ahead.record (label : String) (this : Option HostRef) {args : List HostValue}
    (hargs : ∀ w ∈ args, w.GroundedIn s) :
    Onward types s (s.record types label this args) (t.record types label this args) := by
  have hshown := h.showHostAll hargs
  have hgrounded := h.grounded
  have hahead := h
  obtain ⟨heap, cache, rfl, -⟩ := h
  refine hahead.outside rfl rfl ?_ hgrounded.instances hgrounded.statics rfl
  simp only [Store.record, Store.labelling, hshown]
  rfl

end HostForms

/-! ### Variables -/

/-- What is looked up is among the entries. -/
private theorem mem_of_lookup {α β : Type} [BEq α] [LawfulBEq α] {key : α} {b : β}
    {entries : List (α × β)} (h : entries.lookup key = some b) : (key, b) ∈ entries := by
  obtain ⟨before, after, rfl, -⟩ := List.lookup_eq_some_iff.1 h
  simp

/-- They agree on static storage, and it is grounded. -/
theorem Ahead.readStatic (h : s.Ahead types t) (key : StaticKey) :
    t.readStatic key = s.readStatic key ∧ ∀ w ∈ s.readStatic key, w.GroundedIn s := by
  have hgrounded := h.grounded
  obtain ⟨heap, cache, rfl, -⟩ := h
  exact ⟨rfl, fun w hw => hgrounded.statics _ (mem_of_lookup hw)⟩

/-- They agree on the globals, and these are grounded. -/
theorem Ahead.global (h : s.Ahead types t) (name : String) :
    t.global name = s.global name ∧ (s.global name).GroundedIn s := by
  have hgrounded := h.grounded
  obtain ⟨heap, cache, rfl, -⟩ := h
  refine ⟨rfl, ?_⟩
  unfold Store.global
  cases hfound : s.globals.lookup name with
  | none => trivial
  | some v => exact hgrounded.globals _ (mem_of_lookup hfound)

/-! ### New objects -/

section Created

variable (h : s.Ahead types t)
include h

/-- A new object has the same identity in both. -/
private theorem Ahead.createValue {o : ScriptObject} (ho : o.GroundedIn s) :
    Gives types ScriptValue.GroundedIn s (.object (s.create o).1, (s.create o).2)
      (.object (t.create o).1, (t.create o).2) := by
  have hcreate := h.create ho
  exact ⟨congrArg ScriptValue.object hcreate.same, hcreate.onward, hcreate.result⟩

/-- A new plain object. -/
theorem Ahead.newObject {prototype : Option ObjectId}
    (hprototype : ∀ p ∈ prototype, p.GroundedIn s) :
    Gives types ScriptValue.GroundedIn s (s.newObject prototype) (t.newObject prototype) := by
  -- a prototype that is missing is left out, in both or in none
  have hthere : (prototype.filter fun p => (t.object? p).isSome) =
      prototype.filter fun p => (s.object? p).isSome := by
    cases prototype with
    | none => rfl
    | some p =>
      have hsort := congrArg Option.isSome (h.sort? (hprototype p rfl))
      rw [Store.sort?, Store.sort?, Option.isSome_map, Option.isSome_map] at hsort
      simp only [Option.filter_some, hsort]
  unfold Store.newObject
  rw [hthere]
  refine h.createValue ?_
  exact ScriptObject.groundedIn_make (by trivial) fun p hp =>
    hprototype p (Option.filter_eq_some_iff.1 hp).1

/-- A new array. -/
theorem Ahead.newArray {elements : List ScriptValue} (helements : ∀ v ∈ elements, v.GroundedIn s) :
    Gives types ScriptValue.GroundedIn s (s.newArray elements) (t.newArray elements) := by
  refine h.createValue ?_
  have hsort : (ObjectSort.array elements.toArray).GroundedIn s :=
    fun v hv => helements v (by simpa using hv)
  refine ScriptObject.groundedIn_make hsort ?_
  rintro _ ⟨⟩
  trivial

/-- A new function. -/
theorem Ahead.newFunction (name : String)
    {body : ScriptValue → List ScriptValue → Program .script}
    (hbody : ScriptValue.GroundedBody s body) :
    Gives types ScriptValue.GroundedIn s (s.newFunction name body) (t.newFunction name body) := by
  refine h.createValue ?_
  refine ScriptObject.groundedIn_make (by exact hbody) ?_
  rintro _ ⟨⟩
  trivial

/-- A new wrapper. -/
theorem Ahead.wrap (ref : HostRef) :
    Gives types ScriptValue.GroundedIn s (s.wrap types ref) (t.wrap types ref) := by
  refine h.createValue ?_
  have hprototype : ∀ p ∈ some objectPrototype, p.GroundedIn s := by
    rintro _ ⟨⟩
    trivial
  unfold wrapperOf
  split
  · exact ScriptObject.groundedIn_setLive (by trivial) (by trivial) hprototype
  · exact ScriptObject.groundedIn_make (by trivial) hprototype

/-- A new type reference, with the object in its slot. -/
theorem Ahead.typeReference (type : TypeId) :
    Gives types ScriptValue.GroundedIn s (s.typeReference type) (t.typeReference type) := by
  -- the object in the slot is made first
  have hobject : (ScriptObject.make .plain (some objectPrototype)).GroundedIn s := by
    refine ScriptObject.groundedIn_make (by trivial) ?_
    rintro _ ⟨⟩
    trivial
  have hfirst := h.create hobject
  have hreference : ScriptObject.GroundedIn (s.create (.make .plain (some objectPrototype))).2
      { sort := .typeReference type
        slots := SlotTable.empty.setLive "prototype"
          (.data (.object (s.create (.make .plain (some objectPrototype))).1) .none)
        prototype := some functionPrototype } := by
    refine ScriptObject.groundedIn_setLive (by trivial) (by trivial) ?_
    rintro _ ⟨⟩
    trivial
  have hsecond := hfirst.onward.ahead.createValue hreference
  simp only [Store.typeReference, ← hfirst.same]
  exact ⟨hsecond.same, hfirst.onward.trans hsecond.onward, hsecond.result⟩

end Created

mutual

/-- The script form of a host value. -/
theorem Ahead.fromHost {s t : Store} (h : s.Ahead types t) :
    ∀ {w : HostValue}, w.GroundedIn s →
      Gives types ScriptValue.GroundedIn s (Store.fromHost types s w) (Store.fromHost types t w)
  | .script v, hw => by
    simp only [Store.fromHost]
    exact ⟨rfl, h.onward, HostValue.groundedIn_script.1 hw⟩
  | .object ref, _ => by
    simp only [Store.fromHost]
    exact h.wrap ref
  | .hostType id, _ => by
    simp only [Store.fromHost]
    exact h.typeReference id
  | .array _ items, hw => by
    -- the entries come first, and the array after them
    have hitems := Ahead.fromHostAll h (HostValue.groundedIn_array.1 hw)
    have harray := hitems.onward.ahead.newArray hitems.result
    simp only [Store.fromHost, ← hitems.same]
    exact ⟨harray.same, hitems.onward.trans harray.onward, harray.result⟩
  | .undefined, _ | .null, _ | .bool _, _ | .integer .., _ | .float _, _ | .double _, _
  | .string _, _ | .constant .., _ => by
    unfold Store.fromHost
    exact ⟨rfl, h.onward, trivial⟩

/-- The entries of an array, one after another. -/
private theorem Ahead.fromHostAll {s t : Store} (h : s.Ahead types t) :
    ∀ {items : List HostValue}, (∀ w ∈ items, w.GroundedIn s) →
      Gives types (fun u vs => ∀ v ∈ vs, ScriptValue.GroundedIn u v) s
        (Store.fromHostAll types s items) (Store.fromHostAll types t items)
  | [], _ => by
    unfold Store.fromHostAll
    exact ⟨rfl, h.onward, fun _ hv => nomatch hv⟩
  | w :: rest, hitems => by
    have hfirst := Ahead.fromHost h (hitems w List.mem_cons_self)
    have hothers := Ahead.fromHostAll hfirst.onward.ahead
      fun u hu => (hitems u (List.mem_cons_of_mem w hu)).mono hfirst.onward.grows
    simp only [Store.fromHostAll]
    refine ⟨?_, hfirst.onward.trans hothers.onward, fun v hv => ?_⟩
    · rw [hfirst.same, hothers.same]
    · -- the first value stays grounded while the others add objects
      obtain rfl | hv := List.mem_cons.1 hv
      · exact hfirst.result.mono hothers.onward.grows
      · exact hothers.result v hv

end

end Store

end Membrane
