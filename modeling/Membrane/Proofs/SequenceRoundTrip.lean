import Membrane.Proofs.WrittenBack

/-!
# Which sequences survive the way to a script and back

The script form of a sequence is an array of the script forms of its elements, and the host form of
that array is made from its elements anew: every element gets its natural host form, and numbers
alone become doubles. So the elements of a sequence come back as what can be read off them
(`HostValue.echoAll`), whatever they were before.

That is no loss for elements that are doubles, bools or texts. Integers are refused when they come
back as doubles, as they do unless something among them is no number, such as an absent one.

## Key results

- `Registry.homogenize_items`: what becomes of the elements of a sequence
- `Store.convertTo?_of_isSingle`: what comes back of a sequence
- `Realm.sequence_survives_iff`: which sequences can be extracted as what they were
-/

namespace Membrane

variable {types : Registry} {s t : Store} {h : HostValue}

/-! ### All elements together -/

/-- Together elements have the results that they have one by one. -/
theorem mapM_eq_ok_iff {α β ε : Type} {f : α → Except ε β} {l : List α} {others : List β} :
    l.mapM f = .ok others ↔ l.map f = others.map .ok := by
  -- by the list; a failure on the left has no counterpart on the right
  induction l generalizing others with
  | nil => cases others <;> simp [pure, Except.pure]
  | cons a rest ih =>
    rw [List.mapM_cons]
    cases others with
    | nil => cases f a <;> cases rest.mapM f <;> simp [bind, Except.bind, pure, Except.pure]
    | cons b others =>
      rw [List.map_cons, List.map_cons, List.cons.injEq, ← ih]
      cases f a <;> cases rest.mapM f <;> simp [bind, Except.bind, pure, Except.pure]

/-- Results that are the elements themselves, if there are any, leave the list as it is. -/
theorem eq_of_mapM_eq_ok {α ε : Type} {f : α → Except ε α} {l others : List α}
    (hf : ∀ a ∈ l, ∀ b, f a = .ok b → b = a) (h : l.mapM f = .ok others) : others = l := by
  have hmap := mapM_eq_ok_iff.1 h
  have hself : l.map f = l.map .ok := by
    refine List.map_congr_left fun a ha => ?_
    have hmem : f a ∈ others.map .ok := hmap ▸ List.mem_map_of_mem ha
    obtain ⟨b, -, hb⟩ := List.mem_map.1 hmem
    rw [← hb, hf a ha b hb.symm]
  exact List.map_injective_iff.2 (fun a b hab => Except.ok.inj hab) (hmap.symm.trans hself)

/-! ### Elements one by one -/

/-- A whole number within the range of `int` is an integer in its natural host form. -/
theorem naturalNumber_ofInt {i : Int} (hi : IntegerKind.int32.InRange i) :
    naturalNumber (.ofInt i) = .integer .int32 ⟨i, hi⟩ := by
  have hholds : FloatFormat.double.Holds i := Carrier.holds_of_isExact (n := ⟨i, hi⟩) rfl
  obtain ⟨hwhole, hzero⟩ :=
    Binary.whole?_ofInt (F := .double) (by decide) (by decide) (by decide) hholds
  have hint : HostValue.ofInt? .int32 i = some (.integer .int32 ⟨i, hi⟩) :=
    congrArg (Option.map _) (Sized.ofInt?_val ⟨i, hi⟩)
  rw [naturalNumber, hzero, hwhole, Option.bind_some, hint]
  rfl

/-- An integer in its natural host form denotes the number. -/
theorem eq_ofInt_of_naturalNumber {x : Double} {k : IntegerKind} {n : Sized k}
    (hx : naturalNumber x = .integer k n) : k = .int32 ∧ x = .ofInt n.val := by
  obtain hdouble | ⟨m, hint, hwhole, hzero⟩ := naturalNumber_cases x
  · rw [hdouble] at hx
    cases hx
  · rw [hint] at hx
    cases hx
    exact ⟨rfl, (Binary.ofInt_of_whole? (by decide) hwhole hzero).symm⟩

/-- A number is its own natural host form if it is no integer within the range of `int`. -/
theorem naturalNumber_eq_double_iff {x : Double} :
    naturalNumber x = .double x ↔ ∀ n : Sized .int32, x ≠ .ofInt n.val := by
  constructor
  · rintro hx n rfl
    rw [naturalNumber_ofInt n.inRange] at hx
    cases hx
  · intro hne
    obtain hx | ⟨n, hx, -⟩ := naturalNumber_cases x
    · exact hx
    · exact absurd (eq_ofInt_of_naturalNumber hx).2 (hne n)

namespace HostValue

/-- A number, and no constant of an enumeration. -/
def isNumber (h : HostValue) : Bool := h.primitiveKind?.any PrimitiveKind.isNumeric

/-- A number as a double. -/
def widened (h : HostValue) : HostValue := (h.asDouble?.map .double).getD h

/-- What comes back of a value that is given to a script on its own, and that is no array. -/
def echo (t : Store) : HostValue → HostValue
  | .integer _ n => naturalNumber (.ofInt n.val)
  | .constant _ n => naturalNumber (.ofInt n.val)
  | .float x => naturalNumber (x.convert .double)
  | .double x => naturalNumber x
  | .script v => t.naturalScalar v
  | h => h

/-- What comes back of a sequence. -/
def echoAll (t : Store) (items : List HostValue) : List HostValue :=
  let echoes := items.map (echo t)
  if echoes.all isNumber then echoes.map widened else echoes

/-- The value is no array, of the host or of the script. -/
def IsSingle (t : Store) : HostValue → Prop
  | .array .. => False
  | .script v => t.arrayElements? v = none
  | _ => True

/-- The value is what the host makes of its script form: numbers are of the kind `int` if they can
be, and script values are objects that only a script knows. -/
def IsNatural (t : Store) : HostValue → Prop
  | .undefined | .null | .bool _ | .string _ | .object _ | .hostType _ => True
  | .integer k _ => k = .int32
  | .double x => ∀ n : Sized .int32, x ≠ .ofInt n.val
  | .float _ | .constant .. | .array .. => False
  | .script v => ∃ id, v = .object id ∧ t.elements? id = none ∧ t.hostTarget? id = none ∧
      t.referencedType? id = none

/-- The natural value of a double is a number and widens to the double again. -/
theorem isNumber_naturalNumber (x : Double) :
    (naturalNumber x).isNumber ∧ (naturalNumber x).widened = .double x := by
  obtain hx | ⟨n, hx, -⟩ := naturalNumber_cases x
  · rw [hx]
    exact ⟨rfl, rfl⟩
  · rw [hx, (eq_ofInt_of_naturalNumber hx).2]
    exact ⟨rfl, rfl⟩

/-- Numbers widen to doubles. -/
theorem exists_widened (hnumber : h.isNumber) : ∃ x, h.widened = .double x := by
  cases h with
  | integer k n => exact ⟨_, rfl⟩
  | float x => exact ⟨_, rfl⟩
  | double x => exact ⟨x, rfl⟩
  | _ => cases hnumber

/-- Of script values only objects that are no array, wrapper or type reference stay with the
script. -/
theorem naturalScalar_eq_script_iff {v : ScriptValue} (hscalar : t.arrayElements? v = none) :
    t.naturalScalar v = .script v ↔ (script v).IsNatural t := by
  -- only objects stay script values, and only such as stand for nothing of the host
  cases v with
  | object id =>
    constructor
    · intro hscript
      refine ⟨id, rfl, hscalar, ?_, ?_⟩
      · refine Option.eq_none_iff_forall_ne_some.2 fun target htarget => ?_
        rw [Store.naturalScalar, Store.hostTarget?_eq_some_iff.1 htarget] at hscript
        cases hscript
      · refine Option.eq_none_iff_forall_ne_some.2 fun type htype => ?_
        rw [Store.naturalScalar, Store.referencedType?_eq_some_iff.1 htype] at hscript
        cases hscript
    · rintro ⟨other, hobject, -, htarget, htype⟩
      cases hobject
      simp only [Store.naturalScalar]
      split
      · next target hsort =>
        rw [Store.hostTarget?_eq_some_iff.2 hsort] at htarget
        cases htarget
      · next type hsort =>
        rw [Store.referencedType?_eq_some_iff.2 hsort] at htype
        cases htype
      · rfl
  | number x =>
    constructor
    · intro hscript
      obtain hx | ⟨n, hx, -⟩ := naturalNumber_cases x
      · cases hx.symm.trans hscript
      · cases hx.symm.trans hscript
    · rintro ⟨id, hobject, -⟩
      cases hobject
  | _ =>
    constructor
    · intro hscript
      cases hscript
    · rintro ⟨id, hobject, -⟩
      cases hobject

/-- The values that come back as they are. -/
theorem echo_eq_self_iff (hsingle : h.IsSingle t) : h.echo t = h ↔ h.IsNatural t := by
  -- numbers return as their natural value, which need not be of their kind
  cases h with
  | array type items => exact hsingle.elim
  | integer k n =>
    refine ⟨fun hecho => (eq_ofInt_of_naturalNumber hecho).1, fun hk => ?_⟩
    cases hk
    exact naturalNumber_ofInt n.inRange
  | float x =>
    refine iff_of_false (fun hecho => ?_) id
    obtain hx | ⟨n, hx, -⟩ := naturalNumber_cases (x.convert .double)
    · cases hx.symm.trans hecho
    · cases hx.symm.trans hecho
  | constant type n => exact iff_of_false (Store.naturalNumber_ne_constant _ type n) id
  | double x => exact naturalNumber_eq_double_iff
  | script v => exact naturalScalar_eq_script_iff hsingle
  | _ => exact iff_of_true rfl trivial

end HostValue

/-! ### What the elements of a sequence become -/

namespace Registry

/-- A number is coerced to the double that it is. -/
theorem coerce_widened (h : HostValue) (hnumber : h.isNumber) :
    types.coerce h (.primitive .double) = .ok h.widened := by
  obtain ⟨x, hx, hscript⟩ := coerce_double types hnumber
  have hseen := hscript .initial
  -- what the conversion to double gives is pinned by how the script sees it
  cases h with
  | integer k n =>
    cases hseen
    exact hx
  | float y =>
    cases hseen
    exact hx
  | double y =>
    cases hseen
    exact hx
  | _ => cases hnumber

/-- Numbers alone become doubles. -/
theorem homogenize_of_numbers (types : Registry) {items : List HostValue} (hempty : items ≠ [])
    (hnumbers : items.all HostValue.isNumber) :
    types.homogenize items = ⟨.primitive .double, items.map HostValue.widened⟩ := by
  -- numbers alone are given the type double
  have htype : types.sequenceType items = .primitive .double := by
    rw [sequenceType, List.isEmpty_eq_false_iff.2 hempty]
    exact if_pos hnumbers
  have hconverted : items.mapM (types.coerce · (.primitive .double)) =
      .ok (items.map HostValue.widened) := by
    rw [mapM_eq_ok_iff, List.map_map]
    exact List.map_congr_left fun h hh => coerce_widened h (List.all_eq_true.1 hnumbers h hh)
  rw [homogenize, htype, hconverted]
  rfl

/-- Values that are not all numbers get their lowest shared type. -/
theorem sequenceType_of_other (types : Registry) {items : List HostValue}
    (hnumbers : ¬ items.all HostValue.isNumber) :
    types.sequenceType items = types.commonType items := by
  have hempty : items.isEmpty = false :=
    List.isEmpty_eq_false_iff.2 fun hnil => hnumbers (hnil ▸ rfl)
  rw [sequenceType, hempty]
  exact if_neg hnumbers

/-- Elements that can all be brought to the type that they share are. -/
theorem homogenize_of_coerced {items converted : List HostValue}
    (hnumbers : ¬ items.all HostValue.isNumber) (hobject : types.commonType items ≠ .object)
    (hconverted : items.mapM (types.coerce · (types.commonType items)) = .ok converted) :
    types.homogenize items = ⟨types.commonType items, converted⟩ := by
  rw [homogenize, types.sequenceType_of_other hnumbers, hconverted]
  exact if_neg (by simpa using hobject)

/-- Beside something that is no number the elements stay as they are, or all of them are brought to
the type that they share. -/
theorem homogenize_of_other (types : Registry) {items : List HostValue}
    (hnumbers : ¬ items.all HostValue.isNumber) :
    types.homogenize items = .untyped items ∨
      ∃ converted, types.commonType items ≠ .object ∧
        items.mapM (types.coerce · (types.commonType items)) = .ok converted ∧
        types.homogenize items = ⟨types.commonType items, converted⟩ := by
  -- values that share no type but the root stay untyped, and so do those that cannot be converted
  by_cases hobject : types.commonType items = .object
  · rw [homogenize, types.sequenceType_of_other hnumbers]
    exact .inl (if_pos (beq_iff_eq.2 hobject))
  cases hconverted : items.mapM (types.coerce · (types.commonType items)) with
  | ok converted =>
    exact .inr ⟨converted, hobject, rfl, homogenize_of_coerced hnumbers hobject hconverted⟩
  | error e =>
    rw [homogenize, types.sequenceType_of_other hnumbers, hconverted]
    exact .inl (if_neg (by simpa using hobject))

/-- Numbers alone become doubles, and other values without constants stay as they are. -/
theorem homogenize_items (types : Registry) {items : List HostValue}
    (hconstant : ∀ h ∈ items, ∀ type n, h ≠ .constant type n) :
    (types.homogenize items).items =
      if items.all HostValue.isNumber then items.map HostValue.widened else items := by
  by_cases hempty : items = []
  · subst hempty
    rfl
  by_cases hnumbers : items.all HostValue.isNumber
  · rw [if_pos hnumbers, types.homogenize_of_numbers hempty hnumbers]
  · rw [if_neg hnumbers]
    obtain huntyped | ⟨converted, hobject, hconverted, htyped⟩ :=
      types.homogenize_of_other hnumbers
    · rw [huntyped]
      rfl
    · rw [htyped]
      -- a coercion to the shared type changes nothing
      exact eq_of_mapM_eq_ok (fun h hh w hw =>
        eq_of_coerce_commonType hh (hconstant h hh) hobject hw) hconverted

end Registry

/-! ### On the way -/

namespace Store

/-- A wrapper comes back as the object that it wraps. -/
theorem naturalWithin_of_wrapper {id : ObjectId} {ref : HostRef}
    (hsort : t.sort? id = some (.wrapper ref)) (depth : Nat) :
    t.naturalWithin types depth (.object id) = some (.object ref) := by
  have hscalar : t.arrayElements? (.object id) = none := by
    simp only [arrayElements?, elements?, hsort]
  rw [naturalWithin_of_scalar hscalar, naturalScalar, hsort]

/-- A type reference comes back as its type. -/
theorem naturalWithin_of_typeReference {id : ObjectId} {type : TypeId}
    (hsort : t.sort? id = some (.typeReference type)) (depth : Nat) :
    t.naturalWithin types depth (.object id) = some (.hostType type) := by
  have hscalar : t.arrayElements? (.object id) = none := by
    simp only [arrayElements?, elements?, hsort]
  rw [naturalWithin_of_scalar hscalar, naturalScalar, hsort]

/-- On its own a value comes back as its echo, also after more objects have been made. -/
theorem naturalWithin_fromHost (hsingle : h.IsSingle t) (hkeeps : (s.fromHost types h).2.Keeps t)
    (depth : Nat) : t.naturalWithin types depth (s.fromHost types h).1 = some (h.echo t) := by
  cases h with
  | array type items => exact hsingle.elim
  | object ref => exact naturalWithin_of_wrapper (hkeeps.sort? (sort?_create s _)) depth
  | hostType type => exact naturalWithin_of_typeReference (hkeeps.sort? (sort?_create _ _)) depth
  | script v => exact naturalWithin_of_scalar hsingle depth
  | _ => exact naturalWithin_of_scalar rfl depth

theorem mapM_naturalWithin_fromHostAll {items : List HostValue}
    (hsingle : ∀ h ∈ items, h.IsSingle t) (hkeeps : (s.fromHostAll types items).2.Keeps t)
    (depth : Nat) :
    (s.fromHostAll types items).1.mapM (t.naturalWithin types depth) =
      some (items.map (HostValue.echo t)) := by
  induction items generalizing s with
  | nil => rfl
  | cons h rest ih =>
    -- the later elements only add objects, which leaves the echo of the first
    have hfirst : (s.fromHost types h).2.Keeps t := (keeps_fromHostAll types _ rest).trans hkeeps
    have hecho := naturalWithin_fromHost (hsingle h (List.mem_cons_self ..)) hfirst depth
    have hothers := ih (fun u hu => hsingle u (List.mem_cons_of_mem h hu)) hkeeps
    simp only [fromHostAll, List.mapM_cons, hecho, hothers]
    rfl

/-- Script values are carried through as they are. -/
theorem mem_fromHostAll_of_script {items : List HostValue} {v : ScriptValue}
    (hv : .script v ∈ items) (s : Store) : v ∈ (s.fromHostAll types items).1 := by
  induction items generalizing s with
  | nil => cases hv
  | cons h rest ih =>
    obtain rfl | hrest := List.mem_cons.1 hv
    · exact List.mem_cons_self ..
    · exact List.mem_cons_of_mem _ (ih hrest _)

variable {items : List HostValue} {type : TypeId} {v : ScriptValue}

/-- The script form of a sequence is an array of the script forms of its elements. -/
theorem arrayElements?_of_fromHost (hscript : s.fromHost types (.array type items) = (v, t)) :
    t.arrayElements? v = some (s.fromHostAll types items).1.toArray ∧
      (s.fromHostAll types items).2.Keeps t := by
  cases hscript
  exact ⟨elements?_eq_some_iff.2 (sort?_create _ _), keeps_create _ _⟩

/-- The host form of an array is made of the natural host forms of its elements. -/
theorem convertTo?_array (types : Registry) {elements : Array ScriptValue}
    (helements : t.arrayElements? v = some elements) :
    ∃ depth, t.convertTo? types v .array =
      (elements.toList.mapM (t.naturalWithin types depth)).map fun naturals =>
        .ok (types.homogenize naturals).toValue := by
  -- the array is an object itself, so one level of depth is left for it
  have hcount : t.heap.count ≠ 0 := by
    cases v with
    | object id =>
      have hpos := List.length_pos_of_mem (mem_ids_of_elements helements)
      rw [Heap.length_ids] at hpos
      exact Nat.ne_of_gt hpos
    | _ => cases helements
  obtain ⟨depth, hdepth⟩ := Nat.exists_eq_succ_of_ne_zero hcount
  have hkept (naturals : List HostValue) :
      types.coerce (types.homogenize naturals).toValue .array =
        .ok (types.homogenize naturals).toValue :=
    Registry.coerce_of_isAssignable rfl (types.isAssignable_self _)
  have hbeq : (TypeId.array == .scriptValue) = false := rfl
  refine ⟨depth, ?_⟩
  simp only [convertTo?, hbeq, Bool.false_eq_true, if_false, natural?, hdepth,
    naturalWithin_succ helements, Option.map_map, Function.comp_def, hkept]

/-- A sequence of single values comes back as a sequence of their echoes. -/
theorem convertTo?_of_isSingle (hscript : s.fromHost types (.array type items) = (v, t))
    (hsingle : ∀ h ∈ items, h.IsSingle t) :
    ∃ type', t.convertTo? types v .array =
      some (.ok (.array type' (HostValue.echoAll t items))) := by
  obtain ⟨helements, hkeeps⟩ := arrayElements?_of_fromHost hscript
  obtain ⟨depth, hconvert⟩ := convertTo?_array types helements
  have hechoes := mapM_naturalWithin_fromHostAll hsingle hkeeps depth
  have hitems := types.homogenize_items (ne_constant_of_mapM hechoes)
  refine ⟨(types.homogenize (items.map (HostValue.echo t))).elementType, ?_⟩
  rw [hconvert, hechoes, Option.map_some, HostSequence.toValue, hitems]
  rfl

/-- An array of the script among the elements comes back as an array. -/
theorem array_mem_of_convertTo? {inner : ScriptValue} {w : HostValue}
    (hscript : s.fromHost types (.array type items) = (v, t)) (hmem : .script inner ∈ items)
    (hinner : t.arrayElements? inner ≠ none)
    (hconvert : t.convertTo? types v .array = some (.ok w)) :
    ∃ outer others type elements, w = .array outer others ∧ .array type elements ∈ others := by
  obtain ⟨helements, -⟩ := arrayElements?_of_fromHost hscript
  obtain ⟨depth, heq⟩ := convertTo?_array types helements
  obtain ⟨naturals, hnaturals, hw⟩ := Option.map_eq_some_iff.1 (heq.symm.trans hconvert)
  cases hw
  -- the element is there, and its natural form is an array
  have helement : t.naturalWithin types depth inner ∈ naturals.map some :=
    mapM_eq_some_iff.1 hnaturals ▸ List.mem_map_of_mem (mem_fromHostAll_of_script hmem s)
  obtain ⟨natural, hnatural, hform⟩ := List.mem_map.1 helement
  obtain ⟨hscalar, -⟩ | ⟨_, _, elements, -, -, -, rfl⟩ := naturalWithin_cases hform.symm
  · exact absurd hscalar hinner
  · have hnumbers : naturals.all HostValue.isNumber = false :=
      List.all_eq_false.2 ⟨_, hnatural, Bool.false_ne_true⟩
    have hitems : (types.homogenize naturals).items = naturals := by
      rw [types.homogenize_items (ne_constant_of_mapM hnaturals), hnumbers]
      rfl
    refine ⟨_, _, (types.homogenize elements).elementType, (types.homogenize elements).items, rfl,
      ?_⟩
    rw [hitems]
    exact hnatural

end Store

/-! ### Which sequences survive -/

namespace Carrier

/-- The elements are bools, numbers, texts, optional integers or host values. -/
def isElement : Carrier → Bool
  | .host | .optional (.integer _) => true
  | c => c.isBasic

/-- The sequence can be extracted from what comes back of it. Integers come back as doubles, which
are no integers to the extraction, unless one is absent; and then those within the range of `int`
come back as integers. Host values come back as they are if they are all doubles, or if each is what
the host makes of its script form and they are not all numbers. -/
def Survives (t : Store) : (c : Carrier) → List c.Rep → Prop
  | .integer _, xs => xs = []
  | .optional (.integer _), xs =>
      xs = [] ∨ (none ∈ xs ∧ ∀ n, some n ∈ xs → IntegerKind.int32.InRange n.val)
  | .host, xs =>
      (∀ h ∈ xs, ∃ x, h = .double x) ∨
        ((∀ h ∈ xs, h.IsNatural t) ∧ ∃ h ∈ xs, h.isNumber = false)
  | _, _ => True

variable {c : Carrier} {xs : List c.Rep} {type : TypeId}

/-- Of numbers alone the doubles are extracted. -/
theorem extract_echoAll_of_numbers (hnumbers : ∀ r ∈ xs, ((c.wrap r).echo t).isNumber) :
    types.extract (.list c) (.array type (HostValue.echoAll t (xs.map c.wrap))) = .ok xs ↔
      ∀ r ∈ xs, types.extract c ((c.wrap r).echo t).widened = .ok r := by
  have hall : ((xs.map c.wrap).map (HostValue.echo t)).all HostValue.isNumber := by
    simpa using hnumbers
  have hechoes : HostValue.echoAll t (xs.map c.wrap) =
      xs.map fun r => ((c.wrap r).echo t).widened := by
    rw [HostValue.echoAll, if_pos hall, List.map_map, List.map_map]
    rfl
  rw [hechoes, Registry.extract, mapM_eq_ok_iff, List.map_map, List.map_inj_left]
  rfl

/-- Of elements that are not all numbers the echoes are extracted. -/
theorem extract_echoAll_of_mem {r : c.Rep} (hmem : r ∈ xs)
    (hother : ((c.wrap r).echo t).isNumber = false) :
    types.extract (.list c) (.array type (HostValue.echoAll t (xs.map c.wrap))) = .ok xs ↔
      ∀ r ∈ xs, types.extract c ((c.wrap r).echo t) = .ok r := by
  -- one value that is no number keeps all the others from being widened
  have hall : ¬ ((xs.map c.wrap).map (HostValue.echo t)).all HostValue.isNumber := by
    intro hall
    have := List.all_eq_true.1 hall _ (List.mem_map_of_mem (List.mem_map_of_mem hmem))
    rw [hother] at this
    cases this
  have hechoes : HostValue.echoAll t (xs.map c.wrap) = xs.map fun r => (c.wrap r).echo t := by
    rw [HostValue.echoAll, if_neg hall, List.map_map]
    rfl
  rw [hechoes, Registry.extract, mapM_eq_ok_iff, List.map_map, List.map_inj_left]
  rfl

/-- An integer within the range of `int` is found again in its natural host form, and no other. -/
theorem extract_naturalNumber_iff {k : IntegerKind} (n : Sized k) :
    types.extract (.optional (.integer k)) (naturalNumber (.ofInt n.val)) = .ok (some n) ↔
      IntegerKind.int32.InRange n.val := by
  constructor
  · intro hextract
    -- an integer beyond 32 bits returns as a double, which no integer is extracted from
    obtain hdouble | ⟨m, hint, -⟩ := naturalNumber_cases (.ofInt n.val)
    · rw [hdouble] at hextract
      cases hextract
    · rw [hint] at hextract
      cases hm : (Sized.ofInt? m.val : Option (Sized k)) with
      | none => simp [Registry.extract, Registry.plainInt?, hm, Except.map] at hextract
      | some m' =>
        have hval : m'.val = m.val := Sized.ofInt?_eq_some_iff.1 hm
        simp only [Registry.extract, Registry.plainInt?, hm, Except.map, Except.ok.injEq,
          Option.some.injEq] at hextract
        rw [← hextract, hval]
        exact m.inRange
  · intro hrange
    have hextract : types.extract (.integer k) (.integer .int32 ⟨n.val, hrange⟩) = .ok n := by
      simp only [Registry.extract, Registry.plainInt?, Sized.ofInt?_val]
    rw [naturalNumber_ofInt hrange]
    exact congrArg (Except.map some) hextract

/-- Numbers alone are extracted from doubles. -/
theorem extract_echoAll_of_doubles {double : c.Rep → Double}
    (hdouble : ∀ r ∈ xs, (c.wrap r).echo t = naturalNumber (double r)) :
    types.extract (.list c) (.array type (HostValue.echoAll t (xs.map c.wrap))) = .ok xs ↔
      ∀ r ∈ xs, types.extract c (.double (double r)) = .ok r := by
  have hwidened (x : Double) := HostValue.isNumber_naturalNumber x
  rw [extract_echoAll_of_numbers fun r hr => by rw [hdouble r hr]; exact (hwidened _).1]
  exact forall₂_congr fun r hr => by rw [hdouble r hr, (hwidened _).2]

/-- Host values come back from an array as they were if they are all doubles, or all natural and not
all numbers. -/
theorem extract_echoAll_host_iff {items : List HostValue}
    (hsingle : ∀ h ∈ items, h.IsSingle t) :
    types.extract (.list .host) (.array type (HostValue.echoAll t items)) = .ok items ↔
      Carrier.host.Survives t items := by
  rw [show HostValue.echoAll t items = HostValue.echoAll t (items.map Carrier.host.wrap) from
    congrArg _ (List.map_id' items).symm]
  by_cases hnumbers : ∀ h ∈ items, (h.echo t).isNumber
  · -- numbers alone come back as doubles, whatever they were
    rw [extract_echoAll_of_numbers (c := .host) hnumbers]
    constructor
    · intro hall
      refine .inl fun h hh => ?_
      obtain ⟨x, hx⟩ := HostValue.exists_widened (hnumbers h hh)
      exact ⟨x, (Except.ok.inj (hall h hh)).symm.trans hx⟩
    · rintro (hdoubles | ⟨hnatural, h, hh, hother⟩) r hr
      · obtain ⟨x, rfl⟩ := hdoubles r hr
        exact congrArg Except.ok (HostValue.isNumber_naturalNumber x).2
      · have hnumber : (h.echo t).isNumber := hnumbers h hh
        rw [(HostValue.echo_eq_self_iff (hsingle h hh)).2 (hnatural h hh), hother] at hnumber
        cases hnumber
  · obtain ⟨r, hr, hother⟩ : ∃ r ∈ items, (r.echo t).isNumber = false := by
      simpa using hnumbers
    -- beside something that is no number every value is left as its echo
    rw [extract_echoAll_of_mem (c := .host) hr hother]
    constructor
    · intro hall
      have hself : ∀ h ∈ items, h.echo t = h := fun h hh => Except.ok.inj (hall h hh)
      have hnatural : ∀ h ∈ items, h.IsNatural t := fun h hh =>
        (HostValue.echo_eq_self_iff (hsingle h hh)).1 (hself h hh)
      refine .inr ⟨hnatural, r, hr, ?_⟩
      rw [← hself r hr]
      exact hother
    · rintro (hdoubles | ⟨hnatural, -⟩) h hh
      · obtain ⟨x, rfl⟩ := hdoubles r hr
        have hnumber : (HostValue.echo t (.double x)).isNumber :=
          (HostValue.isNumber_naturalNumber x).1
        rw [hother] at hnumber
        cases hnumber
      · exact congrArg Except.ok ((HostValue.echo_eq_self_iff (hsingle h hh)).2 (hnatural h hh))

/-- Optional integers come back if there are none, or if one of them is absent and the others are in
the range of natural integers. -/
theorem extract_echoAll_optional_iff {k : IntegerKind} {xs : List (Option (Sized k))} :
    types.extract (.list (.optional (.integer k)))
        (.array type (HostValue.echoAll t (xs.map (Carrier.optional (.integer k)).wrap))) = .ok xs ↔
      (Carrier.optional (.integer k)).Survives t xs := by
  by_cases hnone : none ∈ xs
  · -- the null of an absent integer is no number, so the others do not become doubles
    rw [extract_echoAll_of_mem (c := .optional (.integer k)) hnone rfl]
    constructor
    · intro hall
      exact .inr ⟨hnone, fun n hn => (extract_naturalNumber_iff n).1 (hall _ hn)⟩
    · rintro (rfl | ⟨-, hrange⟩) r hr
      · cases hr
      · cases r with
        | none => rfl
        | some n => exact (extract_naturalNumber_iff n).2 (hrange n hr)
  · have hdouble : ∀ r ∈ xs, ((Carrier.optional (.integer k)).wrap r).echo t =
        naturalNumber (r.elim .nan fun n => .ofInt n.val) := by
      intro r hr
      cases r with
      | none => exact absurd hr hnone
      | some n => rw [Option.elim_some, wrap, wrap, HostValue.echo]
    rw [extract_echoAll_of_doubles (c := .optional (.integer k)) hdouble]
    constructor
    · intro hall
      refine .inl (List.eq_nil_iff_forall_not_mem.2 fun r hr => ?_)
      cases r with
      | none => exact hnone hr
      | some n => cases hall _ hr
    · rintro (rfl | ⟨hmem, -⟩) r hr
      · cases hr
      · exact absurd hmem hnone

/-- Which sequences can be extracted from the echoes of their elements. -/
theorem extract_echoAll_iff (hc : c.isElement) (hsingle : ∀ r ∈ xs, (c.wrap r).IsSingle t) :
    types.extract (.list c) (.array type (HostValue.echoAll t (xs.map c.wrap))) = .ok xs ↔
      c.Survives t xs := by
  -- by the carrier: numbers alone return as doubles, flags and texts as they are
  cases c with
  | integer k =>
    rw [extract_echoAll_of_doubles (c := .integer k) fun _ _ => rfl]
    constructor
    · intro hall
      exact List.eq_nil_iff_forall_not_mem.2 fun r hr => nomatch hall r hr
    · rintro rfl r hr
      cases hr
  | float =>
    rw [extract_echoAll_of_doubles (c := .float) fun _ _ => rfl]
    refine iff_of_true (fun x _ => ?_) trivial
    exact congrArg Except.ok (Binary.convert_convert FloatFormat.single_widens_double x)
  | double =>
    rw [extract_echoAll_of_doubles (c := .double) fun _ _ => rfl]
    exact iff_of_true (fun x _ => rfl) trivial
  | bool =>
    refine iff_of_true ?_ trivial
    cases xs with
    | nil => rfl
    | cons b rest => exact (extract_echoAll_of_mem (List.mem_cons_self ..) rfl).2 fun _ _ => rfl
  | string =>
    refine iff_of_true ?_ trivial
    cases xs with
    | nil => rfl
    | cons b rest => exact (extract_echoAll_of_mem (List.mem_cons_self ..) rfl).2 fun _ _ => rfl
  | host =>
    rw [show xs.map Carrier.host.wrap = xs from List.map_id' xs]
    exact extract_echoAll_host_iff hsingle
  | optional c =>
    cases c with
    | integer k => exact extract_echoAll_optional_iff
    | _ => cases hc
  | _ => cases hc

end Carrier

/-- Host values alone can be arrays. -/
theorem Carrier.isSingle_wrap {c : Carrier} (hc : c.isElement) (hhost : c ≠ .host) (r : c.Rep) :
    (c.wrap r).IsSingle t := by
  cases c with
  | host => exact absurd rfl hhost
  | optional c =>
    cases c with
    | integer k => cases r <;> exact trivial
    | _ => cases hc
  | script => cases hc
  | list c => cases hc
  | _ => exact trivial

/-- A natural value is a single one. -/
theorem HostValue.IsNatural.isSingle (hnatural : h.IsNatural t) : h.IsSingle t := by
  cases h with
  | array => exact hnatural
  | script v =>
    obtain ⟨id, rfl, helements, -⟩ := hnatural
    exact helements
  | _ => exact trivial

/-- Host values that survive are no arrays. -/
theorem Carrier.isSingle_of_survives {items : List HostValue}
    (hsurvives : Carrier.host.Survives t items) : ∀ h ∈ items, h.IsSingle t := by
  intro h hmem
  obtain hdoubles | ⟨hnatural, -⟩ := hsurvives
  · obtain ⟨x, rfl⟩ := hdoubles h hmem
    exact trivial
  · exact (hnatural h hmem).isSingle

/-- Host values that are no arrays of the host, but arrays of the script, come back as others. -/
theorem Store.not_extract_of_not_isSingle {items : List HostValue} {type : TypeId} {v : ScriptValue}
    {w : HostValue} (hscript : s.fromHost types (.array type items) = (v, t))
    (harray : ∀ h ∈ items, ∀ type elements, h ≠ .array type elements)
    (hsingle : ¬ ∀ h ∈ items, h.IsSingle t)
    (hconvert : t.convertTo? types v .array = some (.ok w)) :
    types.extract (.list .host) w ≠ .ok items := by
  obtain ⟨h, hmem, hnot⟩ : ∃ h ∈ items, ¬ h.IsSingle t := by simpa using hsingle
  -- the value that is not single holds a script array, since no host array is among them
  have hinner : ∃ inner, h = .script inner ∧ t.arrayElements? inner ≠ none := by
    cases h with
    | array type elements => exact absurd rfl (harray _ hmem type elements)
    | script inner => exact ⟨inner, rfl, hnot⟩
    | _ => exact absurd trivial hnot
  obtain ⟨inner, rfl, hinner⟩ := hinner
  obtain ⟨outer, others, type', elements, rfl, hothers⟩ :=
    array_mem_of_convertTo? hscript hmem hinner hconvert
  intro hextract
  -- the script array returned as a host array, which was not among the values
  have hsame := mapM_eq_ok_iff.1 hextract
  have heq : others = items :=
    List.map_injective_iff.2 (fun a b hab => Except.ok.inj hab) hsame
  exact harray _ (heq ▸ hothers) _ _ rfl

/-- A sequence is given to a script as an array, and what comes back of the array is a sequence
again. The sequence that it was can be extracted from that exactly if it is one that survives:
sequences of doubles, bools and texts do. -/
theorem Realm.sequence_survives_iff (R : Realm) (c : Carrier) (hc : c.isElement) (xs : List c.Rep)
    (harray : ∀ r ∈ xs, ∀ type items, c.wrap r ≠ .array type items) (s : Store) :
    ∃ v t, s.fromHost R.types ((Carrier.list c).wrap xs) = (v, t) ∧
      ((∀ r ∈ xs, (c.wrap r).IsSingle t) →
        ∃ type items, t.convertTo? R.types v .array = some (.ok (.array type items))) ∧
      ((∃ w, t.convertTo? R.types v .array = some (.ok w) ∧
          R.types.extract (.list c) w = .ok xs) ↔ c.Survives t xs) := by
  cases hscript : s.fromHost R.types ((Carrier.list c).wrap xs) with | mk v t =>
  have hback (hsingle : ∀ r ∈ xs, (c.wrap r).IsSingle t) : ∃ type, t.convertTo? R.types v .array =
      some (.ok (.array type (HostValue.echoAll t (xs.map c.wrap)))) := by
    refine Store.convertTo?_of_isSingle hscript fun h hh => ?_
    obtain ⟨r, hr, rfl⟩ := List.mem_map.1 hh
    exact hsingle r hr
  refine ⟨v, t, rfl, fun hsingle => ?_, ?_⟩
  · obtain ⟨type, hconvert⟩ := hback hsingle
    exact ⟨type, _, hconvert⟩
  by_cases hsingle : ∀ r ∈ xs, (c.wrap r).IsSingle t
  · obtain ⟨type, hconvert⟩ := hback hsingle
    rw [← Carrier.extract_echoAll_iff hc hsingle, hconvert]
    constructor
    · rintro ⟨w, hw, hextract⟩
      cases hw
      exact hextract
    · exact fun hextract => ⟨_, rfl, hextract⟩
  · -- the conversion of a script array among the elements need not even end
    by_cases hhost : c = .host
    · subst hhost
      have hscript' : s.fromHost R.types (.array .object xs) = (v, t) := by
        rw [← hscript]
        exact congrArg (fun items => s.fromHost R.types (.array .object items))
          (List.map_id' xs).symm
      refine iff_of_false ?_ fun hsurvives => hsingle (Carrier.isSingle_of_survives hsurvives)
      rintro ⟨w, hconvert, hextract⟩
      exact Store.not_extract_of_not_isSingle hscript' harray hsingle hconvert hextract
    · exact absurd (fun r _ => Carrier.isSingle_wrap hc hhost r) hsingle

/-- Optional integers with an absent one among them come back as they are. -/
theorem Realm.absent_integer_survives :
    let R : Realm := Engine.realm ⟨.empty, .default, .byCost⟩ 0
    let c : Carrier := .optional (.integer .int32)
    let xs : List c.Rep := [some ⟨5, by decide⟩, none]
    c.isElement ∧ (∀ r ∈ xs, ∀ type items, c.wrap r ≠ .array type items) ∧
      ∃ v t w, Store.initial.fromHost R.types ((Carrier.list c).wrap xs) = (v, t) ∧
        t.convertTo? R.types v .array = some (.ok w) ∧ R.types.extract (.list c) w = .ok xs := by
  intro R c xs
  have harray : ∀ r ∈ xs, ∀ type items, c.wrap r ≠ .array type items := by
    intro r _ type items
    cases r <;> exact nofun
  obtain ⟨v, t, hscript, -, hsurvives⟩ := R.sequence_survives_iff c rfl xs harray .initial
  -- one element is absent, and the other is in the range of natural integers
  have hall : c.Survives t xs :=
    .inr ⟨List.mem_cons_of_mem _ (List.mem_cons_self ..), fun n _ => n.inRange⟩
  obtain ⟨w, hconvert, hextract⟩ := hsurvives.2 hall
  exact ⟨rfl, harray, v, t, w, hscript, hconvert, hextract⟩

/-- Integers come back as doubles, and those are no integers to the extraction. -/
theorem Realm.integers_come_back_as_doubles :
    let R : Realm := Engine.realm ⟨.empty, .default, .byCost⟩ 0
    let c : Carrier := .integer .int32
    let xs : List c.Rep := [⟨4, by decide⟩, ⟨5, by decide⟩]
    ∃ v t w, Store.initial.fromHost R.types ((Carrier.list c).wrap xs) = (v, t) ∧
      t.convertTo? R.types v .array = some (.ok w) ∧
      R.types.extract (.list c) w = .error (.incompatible "double" "i32") := by
  intro R c xs
  cases hscript : Store.initial.fromHost R.types ((Carrier.list c).wrap xs) with | mk v t =>
  have hsingle : ∀ h ∈ xs.map c.wrap, h.IsSingle t := by
    intro h hh
    obtain ⟨n, -, rfl⟩ := List.mem_map.1 hh
    exact trivial
  obtain ⟨type, hconvert⟩ := Store.convertTo?_of_isSingle hscript hsingle
  -- all of them are numbers, so both echoes are widened
  have hechoes :
      HostValue.echoAll t (xs.map c.wrap) = [.double (.ofInt 4), .double (.ofInt 5)] := by
    have hfour := naturalNumber_ofInt (i := 4) (by decide)
    have hfive := naturalNumber_ofInt (i := 5) (by decide)
    show HostValue.echoAll t [.integer .int32 ⟨4, _⟩, .integer .int32 ⟨5, _⟩] = _
    simp only [HostValue.echoAll, List.map, HostValue.echo, hfour, hfive]
    rfl
  rw [hechoes] at hconvert
  exact ⟨v, t, _, rfl, hconvert, rfl⟩

end Membrane
