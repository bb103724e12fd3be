import Membrane.Proofs.RoundTrip

/-!
# Where the conversion to the host ends

The natural host form of an array is made of those of its elements, of theirs, and so on, without a
limit. `Store.Natural` states that recursion without the depth that `naturalWithin` grants it, and
the depth makes no difference: what has a natural host form at some depth has the same one at the
depth that `natural?` allows for (`natural?_eq_some_iff`).

The recursion follows the elements as they are at that moment, and nothing keeps a script from
putting an array into itself. So a value has a natural host form exactly if it is free of cycles,
and the conversion of every other value has no end (`self_holding_array`).

## Key results

- `Store.Natural.acyclic`: only values without cycles have a natural host form
- `Store.natural?_eq_some_iff`: the conversion within a depth is the recursion without one
- `Store.acyclic_setElements_iff`: which elements of an array bring it into a cycle
- `Realm.ends_after_put_iff`: which assignment is the first after which a conversion has no end
- `Realm.ends_iff_acyclic`: the conversions end for values without cycles, and for no others
-/

namespace Membrane

namespace Store

/-- The natural host form of a value, by the recursion through the elements of arrays. -/
inductive Natural (types : Registry) (s : Store) : ScriptValue → HostValue → Prop where
  | scalar {v} (h : s.arrayElements? v = none) : Natural types s v (s.naturalScalar v)
  /-- An array of elements with natural host forms. -/
  | array {v elements} {items : List HostValue} (h : s.arrayElements? v = some elements)
      (hsize : items.length = elements.size)
      (hitems : ∀ (i : Nat) e item, elements[i]? = some e → items[i]? = some item →
        Natural types s e item) :
      Natural types s v (types.homogenize items).toValue

variable {types : Registry} {s : Store} {v : ScriptValue} {h : HostValue}

/-- Only a value without cycles has a natural host form. -/
theorem Natural.acyclic (hnatural : s.Natural types v h) : s.Acyclic v := by
  induction hnatural with
  | scalar hscalar => exact acyclic_of_scalar hscalar
  | @array v elements items helements hsize _ ih =>
    refine acyclic_of_elements helements fun e he => ?_
    obtain ⟨i, hi⟩ := Array.getElem?_of_mem he
    have hlt : i < items.length := by
      have := (Array.getElem?_eq_some_iff.1 hi).1
      omega
    exact ih i e items[i] hi (List.getElem?_eq_getElem hlt)

/-- The recursion has one result. -/
theorem Natural.unique {h' : HostValue} (hnatural : s.Natural types v h)
    (hnatural' : s.Natural types v h') : h = h' := by
  induction hnatural generalizing h' with
  | scalar hscalar =>
    cases hnatural' with
    | scalar => rfl
    | array helements =>
      rw [hscalar] at helements
      cases helements
  | @array v elements items helements hsize hitems ih =>
    cases hnatural' with
    | scalar hscalar =>
      rw [hscalar] at helements
      cases helements
    | @array _ _ items' helements' hsize' hitems' =>
      rw [helements] at helements'
      cases helements'
      -- the two lists of items have the same length and the same item at each position
      have hsame : items = items' := by
        refine List.ext_getElem (by omega) fun i hi hi' => ?_
        have hlt : i < elements.size := by omega
        exact ih i elements[i] items[i] (Array.getElem?_eq_getElem hlt)
          (List.getElem?_eq_getElem hi)
          (hitems' i elements[i] items'[i] (Array.getElem?_eq_getElem hlt)
            (List.getElem?_eq_getElem hi'))
      rw [hsame]

/-- What the conversion gives within a depth is what the recursion gives without one. -/
theorem natural_of_naturalWithin {depth : Nat} (hnatural : s.naturalWithin types depth v = some h) :
    s.Natural types v h := by
  -- with no depth left only what is not an array has been converted
  induction depth generalizing v h with
  | zero =>
    obtain ⟨hscalar, rfl⟩ | ⟨-, inner, -, -, hdepth, -, -⟩ := naturalWithin_cases hnatural
    · exact .scalar hscalar
    · cases hdepth
  | succ depth ih =>
    obtain ⟨hscalar, rfl⟩ | ⟨elements, inner, items, helements, hdepth, hitems, rfl⟩ :=
      naturalWithin_cases hnatural
    · exact .scalar hscalar
    · cases hdepth
      obtain ⟨hlength, hitems⟩ := getElem?_of_mapM hitems
      refine .array helements (by rw [hlength, Array.length_toList]) fun i e item he hitem => ?_
      exact ih (hitems i e item (by rw [Array.getElem?_toList, he]) hitem)

/-- No depth is enough for a value with a cycle. -/
theorem naturalWithin_of_not_acyclic (types : Registry) (hcycle : ¬ s.Acyclic v) (depth : Nat) :
    s.naturalWithin types depth v = none := by
  cases hnatural : s.naturalWithin types depth v with
  | none => rfl
  | some h => exact absurd (natural_of_naturalWithin hnatural).acyclic hcycle

/-- The depth that is granted makes no difference to the recursion. -/
theorem natural?_eq_some_iff : s.natural? types v = some h ↔ s.Natural types v h := by
  constructor
  · exact natural_of_naturalWithin
  · intro hnatural
    obtain ⟨h', hsome⟩ := exists_natural types hnatural.acyclic
    rw [hsome, hnatural.unique (natural_of_naturalWithin hsome)]

/-- The conversion comes to no end if and only if an array that it meets holds itself. -/
theorem natural?_eq_none_iff : s.natural? types v = none ↔ ¬ s.Acyclic v := by
  constructor
  · intro hnone hacyclic
    obtain ⟨h, hsome⟩ := exists_natural types hacyclic
    rw [hsome] at hnone
    cases hnone
  · intro hcycle
    exact naturalWithin_of_not_acyclic types hcycle _

/-! ### Assignments to elements -/

section Assignment

variable {id other : ObjectId} {old new : Array ScriptValue} {u w : ScriptValue}

/-- The array that was written has the new elements. -/
theorem elements?_setElements_self (hold : s.elements? id = some old) :
    (s.setElements id new).elements? id = some new := by
  have hsort := elements?_eq_some_iff.1 hold
  obtain ⟨o, ho, -⟩ := Option.map_eq_some_iff.1 hsort
  have hnew : (s.setElements id new).object? id = some { o with sort := .array new } := by
    show (s.heap.modify id _).object? id = _
    rw [Heap.object?_modify_self, show s.heap.object? id = some o from ho]
    rfl
  simp only [elements?, sort?, hnew, Option.map_some]

/-- Every other array keeps its elements. -/
theorem elements?_setElements_of_ne (hne : other ≠ id) :
    (s.setElements id new).elements? other = s.elements? other := by
  have hsame : (s.setElements id new).object? other = s.object? other :=
    s.heap.object?_modify_of_ne _ hne
  simp only [elements?, sort?, hsame]

/-- An assignment changes what the array itself holds, and nothing else. -/
theorem holds_setElements_of_ne (hne : v ≠ .object id) :
    (s.setElements id new).Holds v u ↔ s.Holds v u := by
  have hsame : (s.setElements id new).arrayElements? v = s.arrayElements? v := by
    cases v with
    | object other => exact elements?_setElements_of_ne fun h => hne (by rw [h])
    | _ => rfl
  simp only [Holds, hsame]

/-- The array that was written holds the new elements. -/
theorem holds_setElements_self (hold : s.elements? id = some old) :
    (s.setElements id new).Holds (.object id) u ↔ u ∈ new := by
  have hself : (s.setElements id new).arrayElements? (.object id) = some new :=
    elements?_setElements_self hold
  simp [Holds, hself]

/-- The way to the array is the same before and after the assignment. -/
theorem reaches_setElements_iff :
    Relation.ReflTransGen (s.setElements id new).Holds v (.object id) ↔
      Relation.ReflTransGen s.Holds v (.object id) := by
  constructor
  · intro hreach
    -- from the front: a step out of the array itself has arrived already
    induction hreach using Relation.ReflTransGen.head_induction_on with
    | refl => exact .refl
    | @head a b hstep _ ih =>
      by_cases ha : a = .object id
      · rw [ha]
      · exact .head ((holds_setElements_of_ne ha).1 hstep) ih
  · intro hreach
    induction hreach using Relation.ReflTransGen.head_induction_on with
    | refl => exact .refl
    | @head a b hstep _ ih =>
      by_cases ha : a = .object id
      · rw [ha]
      · exact .head ((holds_setElements_of_ne ha).2 hstep) ih

/-- A way that is new after the assignment passes through the array. -/
theorem transGen_setElements (h : Relation.TransGen (s.setElements id new).Holds v u) :
    Relation.TransGen s.Holds v u ∨ ∃ e, (s.setElements id new).Holds (.object id) e ∧
      Relation.ReflTransGen (s.setElements id new).Holds v (.object id) ∧
      Relation.ReflTransGen (s.setElements id new).Holds e u := by
  -- the last step out of the array is kept, and what follows it is as before
  induction h with
  | @single a hstep =>
    by_cases hv : v = .object id
    · subst hv
      exact .inr ⟨a, hstep, .refl, .refl⟩
    · exact .inl (.single ((holds_setElements_of_ne hv).1 hstep))
  | @tail a b hbefore hstep ih =>
    by_cases ha : a = .object id
    · subst ha
      exact .inr ⟨b, hstep, hbefore.to_reflTransGen, .refl⟩
    · obtain hold | ⟨e, hfirst, hreach, hrest⟩ := ih
      · exact .inl (.tail hold ((holds_setElements_of_ne ha).1 hstep))
      · exact .inr ⟨e, hfirst, hreach, hrest.tail hstep⟩

/-- An array gets into a cycle if and only if it is given an element from which it is reached. -/
theorem acyclic_setElements_iff (hacyclic : ∀ v, s.Acyclic v) (hold : s.elements? id = some old) :
    (∀ v, (s.setElements id new).Acyclic v) ↔
      ∀ e ∈ new, ¬ Relation.ReflTransGen s.Holds e (.object id) := by
  constructor
  · intro h e he hreach
    have hstep : (s.setElements id new).Holds (.object id) e := (holds_setElements_self hold).2 he
    exact h _ _ .refl (.head' hstep (reaches_setElements_iff.2 hreach))
  · intro h v u _ hcycle
    -- a cycle of before, or one through a new element
    obtain hbefore | ⟨e, hstep, hreach, hrest⟩ := transGen_setElements hcycle
    · exact hacyclic u u .refl hbefore
    · have he : e ∈ new := (holds_setElements_self hold).1 hstep
      exact h e he (reaches_setElements_iff.1 (hrest.trans hreach))

end Assignment

end Store

namespace Realm

variable {R : Realm} {s : Store} {id : ObjectId} {elements : Array ScriptValue} {v w : ScriptValue}

/-- The elements after an assignment to one of them, or to one beyond the end. -/
def assigned (elements : Array ScriptValue) (i : Nat) (w : ScriptValue) : Array ScriptValue :=
  (if elements.size ≤ i then resize elements (i + 1) else elements).setIfInBounds i w

/-- A write to an index replaces the elements of the array. -/
theorem put_element (helements : s.elements? id = some elements) {name : String} {i : Nat}
    (hname : Name.index? name = some i) (strict : Bool) :
    R.put id name w strict s = (.ok (), s.setElements id (assigned elements i w)) := by
  have hsort := Store.elements?_eq_some_iff.1 helements
  simp only [put, Action.bind_apply, Action.getStore, hsort, arrayPut,
    Name.beq_length_of_index? hname, hname]
  rfl

/-- The elements are as many as the length says. -/
theorem size_resize (elements : Array ScriptValue) (size : Nat) :
    (resize elements size).size = size := by
  unfold resize
  split
  · simp only [Array.take_eq_extract, Array.size_extract]
    omega
  · simp only [Array.size_append, Array.size_replicate]
    omega

/-- The value that was written is among the elements. -/
theorem mem_assigned (elements : Array ScriptValue) (i : Nat) (w : ScriptValue) :
    w ∈ assigned elements i w := by
  unfold assigned
  split
  · have hsize := size_resize elements (i + 1)
    exact Array.mem_setIfInBounds (by omega)
  · exact Array.mem_setIfInBounds (by omega)

/-- Every element is an old one, a gap, or the value that was written. -/
theorem mem_of_mem_assigned {i : Nat} {e : ScriptValue} (h : e ∈ assigned elements i w) :
    e ∈ elements ∨ e = .undefined ∨ e = w := by
  unfold assigned at h
  obtain hroom | rfl := Array.mem_or_eq_of_mem_setIfInBounds h
  · split at hroom
    · next hbeyond =>
      have hgrown : ¬ i + 1 ≤ elements.size := by omega
      simp only [resize, hgrown, if_false, Array.mem_append, Array.mem_replicate] at hroom
      tauto
    · exact .inl hroom
  · exact .inr (.inr rfl)

/-- An assignment to an element keeps the store free of cycles, unless the array is reached from the
value: then the array gets into a cycle. -/
theorem acyclic_assigned_iff (hacyclic : ∀ v, s.Acyclic v)
    (helements : s.elements? id = some elements) (i : Nat) :
    (∀ v, (s.setElements id (assigned elements i w)).Acyclic v) ↔
      ¬ Relation.ReflTransGen s.Holds w (.object id) := by
  rw [Store.acyclic_setElements_iff hacyclic helements]
  constructor
  · intro h
    exact h w (mem_assigned elements i w)
  · intro h e he hreach
    obtain hold | rfl | rfl := mem_of_mem_assigned he
    · -- an element that the array held already closes no new cycle
      have hholds : s.Holds (.object id) e := ⟨elements, helements, hold⟩
      exact hacyclic _ _ .refl (.head' hholds hreach)
    · -- a gap holds nothing, so it leads nowhere
      obtain heq | ⟨b, ⟨others, hothers, -⟩, -⟩ := hreach.cases_head
      · cases heq
      · cases hothers
    · exact h hreach

/-! ### Conversions -/

/-- A conversion as a whole is the natural one, and without end where that is. -/
theorem toHost_none_eq (R : Realm) (s : Store) (v : ScriptValue) :
    R.toHost v none s = match s.natural? R.types v with
      | some h => (.ok h, s)
      | none => (.exhausted, s) := by
  simp only [toHost, Action.bind_apply, Action.getStore, Store.toHost?]
  cases s.natural? R.types v with
  | some h => rfl
  | none => rfl

/-- A conversion to a type comes after the natural one. -/
theorem convertTo_eq (R : Realm) (s : Store) (v : ScriptValue) {t : TypeId}
    (ht : t ≠ .scriptValue) :
    R.convertTo v t s = match s.natural? R.types v with
      | some h => Action.ofExcept (R.types.coerce h t) s
      | none => (.exhausted, s) := by
  have hbeq : (t == .scriptValue) = false := beq_eq_false_iff_ne.2 ht
  simp only [convertTo, Action.bind_apply, Action.getStore, Store.convertTo?, hbeq]
  cases s.natural? R.types v with
  | some h => rfl
  | none => rfl

/-- The conversion succeeds with the natural value. -/
theorem toHost_eq_ok_iff {h : HostValue} :
    R.toHost v none s = (.ok h, s) ↔ s.natural? R.types v = some h := by
  rw [toHost_none_eq]
  cases s.natural? R.types v <;> simp

/-- It comes to no end where there is no natural value. -/
theorem toHost_eq_exhausted_iff :
    R.toHost v none s = (.exhausted, s) ↔ s.natural? R.types v = none := by
  rw [toHost_none_eq]
  cases s.natural? R.types v <;> simp

/-- The coercion that follows always ends. -/
theorem convertTo_eq_exhausted_iff {t : TypeId} (ht : t ≠ .scriptValue) :
    R.convertTo v t s = (.exhausted, s) ↔ s.natural? R.types v = none := by
  rw [convertTo_eq R s v ht]
  cases s.natural? R.types v with
  | some h =>
    -- a natural value is converted by one step, which always ends
    refine iff_of_false (fun hexhausted => ?_) (by simp)
    cases hcoerce : R.types.coerce h t with
    | ok w =>
      simp only [hcoerce] at hexhausted
      cases hexhausted
    | error e =>
      simp only [hcoerce] at hexhausted
      cases hexhausted
  | none => simp

/-- It succeeds if and only if no array that it meets holds itself. -/
theorem exists_toHost_iff : (∃ h, R.toHost v none s = (.ok h, s)) ↔ s.Acyclic v := by
  constructor
  · rintro ⟨h, hok⟩
    exact (Store.natural_of_naturalWithin (toHost_eq_ok_iff.1 hok)).acyclic
  · intro hacyclic
    obtain ⟨h, hnatural⟩ := Store.exists_natural R.types hacyclic
    exact ⟨h, toHost_eq_ok_iff.2 hnatural⟩

/-- Where all conversions end, they end after an assignment to an element as well, unless the array
is reached from the value: then the array gets into a cycle. -/
theorem ends_after_put_iff (hends : ∀ v, ∃ h, R.toHost v none s = (.ok h, s))
    (helements : s.elements? id = some elements) {name : String} {i : Nat}
    (hname : Name.index? name = some i) (strict : Bool) :
    ∃ t, R.put id name w strict s = (.ok (), t) ∧
      ((∀ v, ∃ h, R.toHost v none t = (.ok h, t)) ↔
        ¬ Relation.ReflTransGen s.Holds w (.object id)) := by
  have hacyclic : ∀ v, s.Acyclic v := fun v => exists_toHost_iff.1 (hends v)
  refine ⟨_, put_element helements hname strict, ?_⟩
  rw [← acyclic_assigned_iff hacyclic helements i]
  exact forall_congr' fun v => exists_toHost_iff

/-- The conversion to the natural host form gives what the recursion through the elements gives, and
it ends for the values without cycles alone. At a declared type it ends for these and, where script
values are passed untouched, for all. -/
theorem ends_iff_acyclic (R : Realm) (s : Store) (v : ScriptValue) :
    (∀ h, R.toHost v none s = (.ok h, s) ↔ s.Natural R.types v h) ∧
    ((∃ h, R.toHost v none s = (.ok h, s)) ↔ s.Acyclic v) ∧
    (R.toHost v none s = (.exhausted, s) ↔ ¬ s.Acyclic v) ∧
    ∀ t, R.convertTo v t s = (.exhausted, s) ↔ t ≠ .scriptValue ∧ ¬ s.Acyclic v := by
  refine ⟨fun h => ?_, exists_toHost_iff, ?_, fun t => ?_⟩
  · rw [toHost_eq_ok_iff, Store.natural?_eq_some_iff]
  · rw [toHost_eq_exhausted_iff, Store.natural?_eq_none_iff]
  · -- a script value is handed over without being looked into
    by_cases ht : t = .scriptValue
    · refine iff_of_false (fun hexhausted => ?_) fun h => h.1 ht
      subst ht
      cases hexhausted
    · rw [convertTo_eq_exhausted_iff ht, Store.natural?_eq_none_iff]
      simp [ht]

/-- An array that is put into itself: the next conversion of it has no end, whatever the depth. -/
theorem self_holding_array :
    let R : Realm := Engine.realm ⟨.empty, .default, .byCost⟩ 0
    let made := Store.initial.newArray [.null]
    ∃ id t, made.1 = .object id ∧ R.put id "0" made.1 false made.2 = (.ok (), t) ∧
      R.toHost made.1 none t = (.exhausted, t) ∧
      ∀ depth, t.naturalWithin R.types depth made.1 = none := by
  intro R made
  have hput : R.put (.created 3) "0" made.1 false made.2 =
      (.ok (), made.2.setElements (.created 3) #[made.1]) := rfl
  -- the array is reached from itself in one step
  have hcycle : ¬ (made.2.setElements (.created 3) #[made.1]).Acyclic made.1 := by
    intro hacyclic
    exact hacyclic _ .refl (.single ⟨#[made.1], rfl, by simp⟩)
  refine ⟨.created 3, _, rfl, hput, ?_, ?_⟩
  · exact toHost_eq_exhausted_iff.2 (Store.natural?_eq_none_iff.2 hcycle)
  · exact Store.naturalWithin_of_not_acyclic _ hcycle

end Realm

end Membrane
