import Mathlib.Data.List.Forall2
import Mathlib.Logic.Relation
import Membrane.Proofs.Homogenize
import Membrane.Proofs.Rounding
import Membrane.Realm.Hooks

/-!
# To the host and back

A script value without cycles has a natural host form, and the script form of that is the same value
again (`Store.Same`): arrays are copied, wrappers and type references made anew around the same
instance and type, and every other object comes back itself.

The depth that the conversion of arrays is granted suffices because the arrays around an element are
distinct objects (`exists_naturalWithin`). On the way back no element type shows
(`fromHost_homogenize`) and no number is rounded (`fromHost_naturalNumber`).

Main statement: `fromHost_toHost`.
-/

namespace Membrane

namespace Store

/-- The inner value is an element of the outer one. -/
def Holds (s : Store) (outer inner : ScriptValue) : Prop :=
  ∃ elements, s.arrayElements? outer = some elements ∧ inner ∈ elements

/-- No array that the value is or holds, at any depth, holds itself. -/
def Acyclic (s : Store) (v : ScriptValue) : Prop :=
  ∀ u, Relation.ReflTransGen s.Holds v u → ¬ Relation.TransGen s.Holds u u

/-- Every object of the one store is in the other, as it is. -/
def Keeps (s t : Store) : Prop := ∀ id o, s.object? id = some o → t.object? id = some o

/-- A value on the one store is the same, apart from the identity of what is copied, as a value on
the other. -/
inductive Same (s t : Store) : ScriptValue → ScriptValue → Prop where
  -- primitive values are the same only if they are equal; an array is copied on the way
  | undefined : Same s t .undefined .undefined
  | null : Same s t .null .null
  | boolean (b : Bool) : Same s t (.boolean b) (.boolean b)
  | number (x : Double) : Same s t (.number x) (.number x)
  | string (text : String) : Same s t (.string text) (.string text)
  /-- Arrays of the same length, with the same elements at every position. -/
  | array {id copy elements copies} (h : s.elements? id = some elements)
      (hcopy : t.elements? copy = some copies) (hsize : copies.size = elements.size)
      (hsame : ∀ (i : Nat) v w, elements[i]? = some v → copies[i]? = some w → Same s t v w) :
      Same s t (.object id) (.object copy)
  /-- Wrappers of one instance. -/
  | wrapper {id copy target} (h : s.hostTarget? id = some target)
      (hcopy : t.hostTarget? copy = some target) : Same s t (.object id) (.object copy)
  /-- References to one type. -/
  | typeReference {id copy type} (h : s.referencedType? id = some type)
      (hcopy : t.referencedType? copy = some type) : Same s t (.object id) (.object copy)
  /-- One object. -/
  | other {id} (harray : s.elements? id = none) (htarget : s.hostTarget? id = none)
      (htype : s.referencedType? id = none) : Same s t (.object id) (.object id)

variable {types : Registry} {s t u : Store} {v w : ScriptValue}

/-! ### The depth suffices -/

/-- What holds nothing is acyclic. -/
theorem acyclic_of_scalar (h : s.arrayElements? v = none) : s.Acyclic v := by
  intro u hu hcycle
  have hnone : ∀ w, ¬ s.Holds v w := by
    rintro w ⟨elements, helements, -⟩
    rw [h] at helements
    cases helements
  obtain rfl | ⟨w, hfirst, -⟩ := hu.cases_head
  · obtain ⟨w, hfirst, -⟩ := Relation.TransGen.head'_iff.1 hcycle
    exact hnone w hfirst
  · exact hnone w hfirst

/-- An array of acyclic elements is acyclic. -/
theorem acyclic_of_elements {elements : Array ScriptValue}
    (h : s.arrayElements? v = some elements) (helements : ∀ e ∈ elements, s.Acyclic e) :
    s.Acyclic v := by
  have hholds : ∀ e, s.Holds v e → s.Acyclic e := by
    rintro e ⟨others, hothers, he⟩
    rw [h] at hothers
    obtain rfl := Option.some.inj hothers
    exact helements e he
  intro u hu hcycle
  obtain rfl | ⟨e, hfirst, hrest⟩ := hu.cases_head
  · -- the cycle leaves the value through an element, and passes the element again
    obtain ⟨e, hfirst, hrest⟩ := Relation.TransGen.head'_iff.1 hcycle
    exact hholds e hfirst e .refl (Relation.TransGen.tail' hrest hfirst)
  · exact hholds e hfirst u hrest hcycle

/-- What an acyclic value holds is acyclic. -/
theorem Acyclic.of_holds (h : s.Acyclic v) (hholds : s.Holds v w) : s.Acyclic w :=
  fun u hu => h u (.head hholds hu)

/-- What holds an array at some depth is another array. -/
theorem Acyclic.not_mem {id : ObjectId} {around : List ObjectId} (h : s.Acyclic (.object id))
    (haround : ∀ other ∈ around, Relation.TransGen s.Holds (.object other) (.object id)) :
    id ∉ around := by
  intro hid
  exact h _ .refl (haround id hid)

/-- An array is one of the objects of the heap. -/
theorem mem_ids_of_elements {id : ObjectId} {elements : Array ScriptValue}
    (h : s.arrayElements? (.object id) = some elements) : id ∈ s.heap.ids := by
  cases hobject : s.object? id with
  | none => simp [arrayElements?, elements?, sort?, hobject] at h
  | some o => exact Heap.mem_ids hobject

/-- Around an array there are fewer distinct arrays than objects. -/
theorem length_lt_count {around : List ObjectId} {elements : Array ScriptValue}
    (hnodup : around.Nodup) (haround : ∀ id ∈ around, Relation.TransGen s.Holds (.object id) v)
    (hacyclic : s.Acyclic v) (helements : s.arrayElements? v = some elements) :
    around.length < s.heap.count := by
  cases v with
  | object id =>
    have hnew := hacyclic.not_mem haround
    -- the array and those around it are distinct objects of the heap
    have hsubset : id :: around ⊆ s.heap.ids := by
      intro other hother
      obtain rfl | hother := List.mem_cons.1 hother
      · exact mem_ids_of_elements helements
      · obtain ⟨_, ⟨others, hothers, -⟩, -⟩ := Relation.TransGen.head'_iff.1 (haround other hother)
        exact mem_ids_of_elements hothers
    have hlength := (List.nodup_cons.2 ⟨hnew, hnodup⟩).length_le_of_subset hsubset
    rw [Heap.length_ids, List.length_cons] at hlength
    exact hlength
  | _ => cases helements

/-- Elements have results together if every one of them has one. -/
theorem isSome_mapM_iff {α β : Type} {f : α → Option β} {l : List α} :
    (l.mapM f).isSome ↔ ∀ a ∈ l, (f a).isSome := by
  induction l with
  | nil => simp
  | cons a rest ih =>
    cases ha : f a with
    | none => simp [List.mapM_cons, ha]
    | some b => cases hrest : rest.mapM f <;> simp_all [List.mapM_cons]

/-- Together elements have the results that each of them has at its position. -/
theorem getElem?_of_mapM {α β : Type} {f : α → Option β} {l : List α} {others : List β}
    (h : l.mapM f = some others) : others.length = l.length ∧
      ∀ (i : Nat) a b, l[i]? = some a → others[i]? = some b → f a = some b := by
  induction l generalizing others with
  | nil =>
    cases h
    simp
  | cons first rest ih =>
    rw [List.mapM_cons] at h
    obtain ⟨other, hother, h⟩ := Option.bind_eq_some_iff.1 h
    obtain ⟨others', hothers, h⟩ := Option.bind_eq_some_iff.1 h
    cases h
    obtain ⟨hlength, hrest⟩ := ih hothers
    refine ⟨by simp [hlength], fun i a b ha hb => ?_⟩
    -- the first entry, or one of the rest
    cases i with
    | zero => simp_all
    | succ i => exact hrest i a b ha hb

/-- A map that succeeds for every entry. -/
theorem mapM_eq_some_iff {α β : Type} {f : α → Option β} {l : List α} {others : List β} :
    l.mapM f = some others ↔ l.map f = others.map some := by
  induction l generalizing others with
  | nil => cases others <;> simp
  | cons a rest ih =>
    rw [List.mapM_cons]
    cases others with
    | nil => cases f a <;> cases rest.mapM f <;> simp
    | cons b others =>
      rw [List.map_cons, List.map_cons, List.cons.injEq, ← ih]
      cases f a <;> cases rest.mapM f <;> simp

/-- Inside some distinct arrays, a depth as large as the number of other objects suffices. -/
theorem exists_naturalWithin (types : Registry) {depth : Nat} {around : List ObjectId}
    (hnodup : around.Nodup) (haround : ∀ id ∈ around, Relation.TransGen s.Holds (.object id) v)
    (hacyclic : s.Acyclic v) (hdepth : s.heap.count ≤ depth + around.length) :
    ∃ h, s.naturalWithin types depth v = some h := by
  -- an element has one array more around it, and one level less to spend
  induction depth generalizing v around with
  | zero =>
    cases helements : s.arrayElements? v with
    | none => exact ⟨_, naturalWithin_of_scalar helements 0⟩
    | some elements =>
      have hlt := length_lt_count hnodup haround hacyclic helements
      omega
  | succ depth ih =>
    cases helements : s.arrayElements? v with
    | none => exact ⟨_, naturalWithin_of_scalar helements _⟩
    | some elements =>
      cases v with
      | object id =>
        -- an acyclic array is not among those around it
        have hnew := hacyclic.not_mem haround
        have hitems : ∀ e ∈ elements.toList, (s.naturalWithin types depth e).isSome := by
          intro e he
          rw [Option.isSome_iff_exists]
          have hholds : s.Holds (.object id) e := ⟨elements, helements, Array.mem_def.2 he⟩
          refine ih (List.nodup_cons.2 ⟨hnew, hnodup⟩) ?_ (hacyclic.of_holds hholds) ?_
          · intro other hother
            obtain rfl | hother := List.mem_cons.1 hother
            · exact .single hholds
            · exact (haround other hother).tail hholds
          · rw [List.length_cons]
            omega
        obtain ⟨items, hitems⟩ := Option.isSome_iff_exists.1 (isSome_mapM_iff.2 hitems)
        exact ⟨_, by rw [naturalWithin_succ helements, hitems]; rfl⟩
      | _ => cases helements

/-- A value without cycles has a natural host form. -/
theorem exists_natural (types : Registry) (h : s.Acyclic v) :
    ∃ host, s.natural? types v = some host :=
  exists_naturalWithin types List.nodup_nil (by simp) h (Nat.le_add_right _ _)

/-! ### Growing stores -/

/-- A store keeps its objects. -/
theorem Keeps.refl (s : Store) : s.Keeps s := fun _ _ h => h

/-- One change after another. -/
theorem Keeps.trans (h : s.Keeps t) (h' : t.Keeps u) : s.Keeps u :=
  fun id o ho => h' id o (h id o ho)

/-- A new object leaves the others as they are. -/
theorem keeps_create (s : Store) (o : ScriptObject) : s.Keeps (s.create o).2 :=
  fun _ _ h => s.heap.object?_create_of_some o h

/-- A new object is of the sort that it was made with. -/
theorem sort?_create (s : Store) (o : ScriptObject) :
    (s.create o).2.sort? (s.create o).1 = some o.sort :=
  congrArg (Option.map ScriptObject.sort) (s.heap.object?_create_self o)

mutual

/-- The script form of a value needs new objects alone. -/
theorem keeps_fromHost (types : Registry) :
    ∀ (s : Store) (h : HostValue), s.Keeps (s.fromHost types h).2
  | s, .undefined | s, .null | s, .bool _ | s, .integer _ _ | s, .float _ | s, .double _
  | s, .string _ | s, .constant _ _ | s, .script _ => .refl s
  | s, .object _ => s.keeps_create _
  | s, .hostType _ => (s.keeps_create _).trans (keeps_create _ _)
  | s, .array _ items => (keeps_fromHostAll types s items).trans (keeps_create _ _)

/-- So do the entries of an array that are made visible. -/
theorem keeps_fromHostAll (types : Registry) :
    ∀ (s : Store) (items : List HostValue), s.Keeps (s.fromHostAll types items).2
  | s, [] => .refl s
  | s, h :: rest => (keeps_fromHost types s h).trans (keeps_fromHostAll types _ rest)

end

/-- An object that is kept is of the same sort. -/
theorem Keeps.sort? (h : t.Keeps u) {id : ObjectId} {sort : ObjectSort}
    (hsort : t.sort? id = some sort) : u.sort? id = some sort := by
  unfold Store.sort? at hsort ⊢
  obtain ⟨o, ho, rfl⟩ := Option.map_eq_some_iff.1 hsort
  rw [h id o ho, Option.map_some]

/-- The objects with elements are the arrays. -/
theorem elements?_eq_some_iff {id : ObjectId} {elements : Array ScriptValue} :
    s.elements? id = some elements ↔ s.sort? id = some (.array elements) := by
  unfold elements?
  split <;> simp_all

/-- The objects that stand for an instance are the wrappers. -/
theorem hostTarget?_eq_some_iff {id : ObjectId} {target : HostRef} :
    s.hostTarget? id = some target ↔ s.sort? id = some (.wrapper target) := by
  unfold hostTarget?
  split <;> simp_all

/-- The objects that stand for a type are the type references. -/
theorem referencedType?_eq_some_iff {id : ObjectId} {type : TypeId} :
    s.referencedType? id = some type ↔ s.sort? id = some (.typeReference type) := by
  unfold referencedType?
  split <;> simp_all

/-- What is the same stays the same when objects are added to the other store. -/
theorem Same.mono (h : Same s t v w) (hkeeps : t.Keeps u) : Same s u v w := by
  induction h with
  | undefined => exact .undefined
  | null => exact .null
  | boolean b => exact .boolean b
  | number x => exact .number x
  | string text => exact .string text
  -- the copies are kept, and their elements are the same by the hypothesis
  | array h hcopy hsize _ ih =>
    exact .array h (elements?_eq_some_iff.2 (hkeeps.sort? (elements?_eq_some_iff.1 hcopy))) hsize ih
  | wrapper h hcopy =>
    exact .wrapper h (hostTarget?_eq_some_iff.2 (hkeeps.sort? (hostTarget?_eq_some_iff.1 hcopy)))
  | typeReference h hcopy =>
    exact .typeReference h
      (referencedType?_eq_some_iff.2 (hkeeps.sort? (referencedType?_eq_some_iff.1 hcopy)))
  | other harray htarget htype => exact .other harray htarget htype

/-! ### Values and their host forms -/

/-- A number in its natural host form is the same number to a script. -/
theorem fromHost_naturalNumber (types : Registry) (x : Double) (u : Store) :
    u.fromHost types (naturalNumber x) = (.number x, u) := by
  obtain hx | ⟨n, hx, hwhole, hzero⟩ := naturalNumber_cases x
  · rw [hx]
    rfl
  · rw [hx, Store.fromHost, Binary.ofInt_of_whole? (by decide) hwhole hzero]

/-- A number is taken for no constant. -/
theorem naturalNumber_ne_constant (x : Double) (type : TypeId) (n : Sized .int64) :
    naturalNumber x ≠ .constant type n := by
  obtain hx | ⟨n, hx, -⟩ := naturalNumber_cases x <;> simp [hx]

/-- No value is taken for a constant. -/
theorem naturalWithin_ne_constant {depth : Nat} {h : HostValue}
    (hnatural : s.naturalWithin types depth v = some h) (type : TypeId) (n : Sized .int64) :
    h ≠ .constant type n := by
  obtain ⟨-, rfl⟩ | ⟨elements, inner, items, -, -, -, rfl⟩ := naturalWithin_cases hnatural
  · cases v with
    | number x => exact naturalNumber_ne_constant x type n
    | object id =>
      simp only [naturalScalar]
      split <;> simp
    | _ => simp [naturalScalar]
  · simp [HostSequence.toValue]

/-- And no element is. -/
theorem ne_constant_of_mapM {elements : List ScriptValue} {naturals : List HostValue} {depth : Nat}
    (hnaturals : elements.mapM (s.naturalWithin types depth) = some naturals) :
    ∀ h ∈ naturals, ∀ type n, h ≠ .constant type n := by
  intro h hh
  have hsome : some h ∈ elements.map (s.naturalWithin types depth) :=
    mapM_eq_some_iff.1 hnaturals ▸ List.mem_map_of_mem hh
  obtain ⟨v, -, hv⟩ := List.mem_map.1 hsome
  exact naturalWithin_ne_constant hv

/-- A value that is no array comes back. -/
theorem same_naturalScalar (types : Registry) (hscalar : s.arrayElements? v = none) (u : Store) :
    Same s (u.fromHost types (s.naturalScalar v)).2 v (u.fromHost types (s.naturalScalar v)).1 := by
  cases v with
  | undefined => exact .undefined
  | null => exact .null
  | boolean b => exact .boolean b
  | number x =>
    rw [show s.naturalScalar (.number x) = naturalNumber x from rfl, fromHost_naturalNumber]
    exact .number x
  | string text => exact .string text
  | object id =>
    simp only [naturalScalar]
    -- a wrapper, a type reference, or an object that is handed back as it is
    split
    · next target hsort =>
      exact .wrapper (hostTarget?_eq_some_iff.2 hsort)
        (hostTarget?_eq_some_iff.2 (u.sort?_create (wrapperOf types target)))
    · next type hsort =>
      exact .typeReference (referencedType?_eq_some_iff.2 hsort)
        (referencedType?_eq_some_iff.2 (sort?_create _ _))
    · next hwrapper htype =>
      refine .other hscalar ?_ ?_
      · exact Option.eq_none_iff_forall_ne_some.2 fun target h =>
          hwrapper target (hostTarget?_eq_some_iff.1 h)
      · exact Option.eq_none_iff_forall_ne_some.2 fun type h =>
          htype type (referencedType?_eq_some_iff.1 h)

/-- Values that come back one by one come back together. -/
theorem same_fromHostAll {depth : Nat}
    (hsame : ∀ v h, s.naturalWithin types depth v = some h → ∀ u : Store,
      Same s (u.fromHost types h).2 v (u.fromHost types h).1)
    {elements : List ScriptValue} {items : List HostValue}
    (hitems : elements.mapM (s.naturalWithin types depth) = some items) (u : Store) :
    List.Forall₂ (Same s (u.fromHostAll types items).2) elements (u.fromHostAll types items).1 := by
  induction elements generalizing items u with
  | nil =>
    cases hitems
    exact .nil
  | cons v rest ih =>
    rw [List.mapM_cons] at hitems
    obtain ⟨h, hv, hitems⟩ := Option.bind_eq_some_iff.1 hitems
    obtain ⟨others, hothers, hitems⟩ := Option.bind_eq_some_iff.1 hitems
    cases hitems
    -- the first copy stays what it is while the others are made
    exact .cons ((hsame v h hv u).mono (keeps_fromHostAll types _ others)) (ih hothers _)

/-- A new array of copies is the same as the array of what they are copies of. -/
theorem same_newArray {id : ObjectId} {elements : Array ScriptValue} {copies : List ScriptValue}
    (h : s.elements? id = some elements)
    (hcopies : List.Forall₂ (Same s t) elements.toList copies) :
    Same s (t.newArray copies).2 (.object id) (t.newArray copies).1 := by
  have hcopy := t.sort?_create (.make (.array copies.toArray) (some arrayPrototype))
  refine .array h (elements?_eq_some_iff.2 hcopy) ?_ ?_
  · rw [List.size_toArray, ← hcopies.length_eq, Array.length_toList]
  · intro i v w hv hw
    rw [← Array.getElem?_toList] at hv
    rw [List.getElem?_toArray] at hw
    obtain ⟨hi, rfl⟩ := List.getElem?_eq_some_iff.1 hv
    obtain ⟨hi', rfl⟩ := List.getElem?_eq_some_iff.1 hw
    -- the elements were copied before the array for them was made
    exact (hcopies.get hi hi').mono (t.keeps_create _)

/-- Whenever a value has a natural host form, that comes back as the value. -/
theorem same_of_naturalWithin (types : Registry) (s : Store) (depth : Nat) (v : ScriptValue)
    (h : HostValue) (hnatural : s.naturalWithin types depth v = some h) (u : Store) :
    Same s (u.fromHost types h).2 v (u.fromHost types h).1 := by
  -- the elements of an array are granted less depth than the array
  induction depth generalizing v h u with
  | zero =>
    obtain ⟨hscalar, rfl⟩ | ⟨elements, inner, items, -, hdepth, -, -⟩ :=
      naturalWithin_cases hnatural
    · exact same_naturalScalar types hscalar u
    · cases hdepth
  | succ depth ih =>
    obtain ⟨hscalar, rfl⟩ | ⟨elements, inner, items, helements, hdepth, hitems, rfl⟩ :=
      naturalWithin_cases hnatural
    · exact same_naturalScalar types hscalar u
    · cases hdepth
      -- the element type that the host saw makes no difference on the way back
      rw [Registry.fromHost_homogenize (ne_constant_of_mapM hitems)]
      cases v with
      | object id => exact same_newArray helements (same_fromHostAll ih hitems u)
      | _ => cases helements

end Store

/-- A value without cycles goes to the host, whatever the types are, and wherever its host form is
given to a script later, it is the same value. -/
theorem Realm.same_fromHost_toHost {ε : Type} (R : Realm) {s : Store} {v : ScriptValue}
    (hacyclic : s.Acyclic v) :
    ∃ h, R.toHost v none s = (.ok h, s) ∧
      ∀ u : Store, ∃ w t, (R.fromHost h : Action ε ScriptValue) u = (.ok w, t) ∧
        u.Keeps t ∧ s.Same t v w := by
  obtain ⟨h, hnatural⟩ := Store.exists_natural R.types hacyclic
  refine ⟨h, ?_, fun u => ⟨_, _, rfl, Store.keeps_fromHost R.types u h,
    Store.same_of_naturalWithin R.types s _ v h hnatural u⟩⟩
  simp only [Realm.toHost, Action.bind_apply, Action.getStore, Store.toHost?, hnatural]
  rfl

/-- An array in an array, on a store of its own. -/
theorem Realm.same_nested_array :
    let R : Realm := Engine.realm ⟨.empty, .default, .byCost⟩ 0
    let inner := Store.initial.newArray [.number .nan, .string "a"]
    let outer := inner.2.newArray [inner.1, .number (.ofInt 1)]
    outer.2.Acyclic outer.1 ∧
      ∃ h, R.toHost outer.1 none outer.2 = (.ok h, outer.2) ∧
        ∃ w t, (R.fromHost h : Action BridgeError ScriptValue) outer.2 = (.ok w, t) ∧
          outer.2.Same t outer.1 w := by
  intro R inner outer
  have helements : outer.2.arrayElements? inner.1 = some #[.number .nan, .string "a"] := rfl
  have hinner : outer.2.Acyclic inner.1 := by
    refine Store.acyclic_of_elements helements fun e he => ?_
    obtain rfl | rfl : e = .number .nan ∨ e = .string "a" := by simpa using he
    · exact Store.acyclic_of_scalar rfl
    · exact Store.acyclic_of_scalar rfl
  -- the outer array holds the inner one, which holds no array
  have hacyclic : outer.2.Acyclic outer.1 := by
    have helements : outer.2.arrayElements? outer.1 = some #[inner.1, .number (.ofInt 1)] := rfl
    refine Store.acyclic_of_elements helements fun e he => ?_
    obtain rfl | rfl : e = inner.1 ∨ e = .number (.ofInt 1) := by simpa using he
    · exact hinner
    · exact Store.acyclic_of_scalar rfl
  obtain ⟨h, hto, hback⟩ := Realm.same_fromHost_toHost (ε := BridgeError) R hacyclic
  obtain ⟨w, t, hfrom, -, hsame⟩ := hback outer.2
  exact ⟨hacyclic, h, hto, w, t, hfrom, hsame⟩

end Membrane
