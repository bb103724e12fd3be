import Membrane.Conversion.Homogenize
import Membrane.Store.Create

/-!
# Element types do not show on the script side

`Registry.homogenize` coerces the elements of a sequence to the type that they share. A coercion can
make another value of a bool, a number or a text, but their types are shared by no other values: the
search for a common type stops at the type itself or at `object` (`commonType_of_mem`), and there
the elements stay as they are. Numbers alone become doubles, and look like the same numbers to a
script.

## Key results

- `commonType_of_mem`: the common type of values with a bool, a number or a text among them
- `fromHost_homogenize`: a homogenized sequence has the script form of its elements
-/

namespace Membrane

/-- Types without subtypes whose values a coercion can change. -/
def TypeId.isBasic : TypeId → Bool
  | .primitive _ | .string => true
  | _ => false

namespace Registry

variable {types : Registry} {T t common next : TypeId} {v w : HostValue}

/-! ### Basic types -/

/-- The ancestors of a primitive type. -/
theorem ancestry_primitive (kind : PrimitiveKind) :
    types.ancestry (.primitive kind) = [.primitive kind, .valueType, .object] := rfl

/-- The ancestors of the type of texts. -/
theorem ancestry_string : types.ancestry .string = [.string, .object] := rfl

/-- The type of all objects is without ancestors. -/
theorem ancestry_object : types.ancestry .object = [.object] := rfl

/-- The ancestors of the type of arrays. -/
theorem ancestry_array : types.ancestry .array = [.array, .object] := rfl

/-- The ancestors of the type of script values. -/
theorem ancestry_scriptValue : types.ancestry .scriptValue = [.scriptValue, .object] := rfl

/-- A built-in type stands for its bases alone. -/
theorem isAssignable_iff_mem_ancestry (hT : T.builtinName?.isSome) :
    types.isAssignable T t ↔ t = .object ∨ t ∈ types.ancestry T := by
  -- no built-in type and no base of one names an interface
  have hinterfaces : types.implements T t = false := by
    cases T with
    | declared index => cases hT
    | _ =>
      simp [implements, implementsWithin, interfaces, entry?, ancestry, ancestryWithin, base?,
        TypeId.rank]
  simp [isAssignable, hinterfaces]

/-- A basic type stands for nothing but itself and what all value types stand for. -/
theorem eq_of_isAssignable (hT : T.isBasic) (h : types.isAssignable T t) :
    t = T ∨ t = .valueType ∨ t = .object := by
  cases T with
  | primitive kind =>
    have ht := (isAssignable_iff_mem_ancestry rfl).1 h
    simp only [ancestry_primitive, List.mem_cons, List.not_mem_nil] at ht
    grind
  | string =>
    have ht := (isAssignable_iff_mem_ancestry rfl).1 h
    simp only [ancestry_string, List.mem_cons, List.not_mem_nil] at ht
    grind
  | _ => cases hT

/-- No basic type stands for another one. -/
theorem isAssignable_eq_false_of_ne (types : Registry) (hT : T.isBasic) (ht : t.isBasic)
    (hne : t ≠ T) : types.isAssignable T t = false := by
  rw [← Bool.not_eq_true]
  intro h
  obtain rfl | rfl | rfl := eq_of_isAssignable hT h
  · exact hne rfl
  · cases ht
  · cases ht

/-- Every type is assignable to itself. -/
theorem isAssignable_self (types : Registry) (t : TypeId) : types.isAssignable t t := by
  simp [isAssignable, ancestry, ancestryWithin]

/-! ### The shared type -/

/-- What has come to the type of all objects stays there. -/
theorem join_object (types : Registry) (next : TypeId) : types.join .object next = .object := rfl

/-- The search from a basic type ends there or at `object`. -/
theorem join_of_basic (hT : T.isBasic) (next : TypeId) :
    types.join T next = T ∨ types.join T next = .object := by
  unfold join
  cases T with
  | primitive kind =>
    -- the type of all value types is passed over, so the type of all objects comes next
    rw [ancestry_primitive]
    by_cases h : types.isAssignable next (.primitive kind) <;> simp [h]
  | string =>
    rw [ancestry_string]
    by_cases h : types.isAssignable next .string <;> simp [h]
  | _ => cases hT

/-- The search for what a basic type can stand for as well ends there or at `object`. -/
theorem join_basic (hT : T.isBasic) (common : TypeId) :
    types.join common T = T ∨ types.join common T = .object := by
  unfold join
  cases hfind : (types.ancestry common).find? fun t =>
      t == .object || (types.isAssignable T t && t != .valueType) with
  | none => exact .inr rfl
  | some t =>
    -- the search ends at `object`, or where a basic type can stand and no mere value type
    have ht := List.find?_some hfind
    simp only [Bool.or_eq_true, Bool.and_eq_true, beq_iff_eq, bne_iff_ne] at ht
    rw [Option.getD_some]
    obtain hobject | ⟨hassignable, hvalueType⟩ := ht
    · exact .inr hobject
    · obtain h | h | h := eq_of_isAssignable hT hassignable
      · exact .inl h
      · exact absurd h hvalueType
      · exact .inr h

/-- From a basic type the common type can only become the type of all objects. -/
private theorem foldl_join_of_eq (hT : T.isBasic) (rest : List HostValue)
    (h : common = T ∨ common = .object) :
    let shared := rest.foldl (fun common v => types.join common (elementType v)) common
    shared = T ∨ shared = .object := by
  induction rest generalizing common with
  | nil => exact h
  | cons v rest ih =>
    obtain rfl | rfl := h
    · exact ih (join_of_basic hT _)
    · exact ih (.inr (join_object types _))

/-- An entry of basic type decides the common type of all. -/
private theorem foldl_join_of_mem (hv : (elementType v).isBasic) (rest : List HostValue)
    (hmem : v ∈ rest) (common : TypeId) :
    let shared := rest.foldl (fun common v => types.join common (elementType v)) common
    shared = elementType v ∨ shared = .object := by
  induction rest generalizing common with
  | nil => cases hmem
  | cons first rest ih =>
    -- at the entry itself the common type becomes its type, or that of all objects
    obtain rfl | hrest := List.mem_cons.1 hmem
    · exact foldl_join_of_eq hv rest (join_basic hv common)
    · exact ih hrest _

/-- A value of a basic type shares with others its own type or none below `object`. -/
theorem commonType_of_mem (types : Registry) {items : List HostValue} (hmem : v ∈ items)
    (hv : (elementType v).isBasic) :
    types.commonType items = elementType v ∨ types.commonType items = .object := by
  cases items with
  | nil => cases hmem
  | cons first rest =>
    obtain rfl | hrest := List.mem_cons.1 hmem
    · exact foldl_join_of_eq hv rest (.inl rfl)
    · exact foldl_join_of_mem hv rest hrest _

/-! ### Coercion to the shared type -/

/-- A value of an assignable type is kept. -/
theorem coerce_of_isAssignable (hv : v.runtimeType? = some T) (h : types.isAssignable T t) :
    types.coerce v t = .ok v := by
  have hany : v.runtimeType?.any (types.isAssignable · t) = true := by rw [hv]; exact h
  cases v with
  | undefined => cases hv
  | null => cases hv
  | _ => simp only [coerce, hany, if_true]

/-- Only bools, numbers, texts and constants become other values. -/
theorem eq_of_coerce (hnumber : ∀ kind, Conversion.numeric? v kind = none)
    (hint : Conversion.integral? v = none) (htext : Conversion.format? v = none)
    (h : types.coerce v t = .ok w) : w = v := by
  cases v with
  | undefined => cases h
  | null =>
    simp only [coerce] at h
    split at h
    · cases h
    · cases h
      rfl
  -- neither a number, an integer nor a text can be made of it, so it is kept or refused
  | _ =>
    simp only [coerce, hnumber, hint, htext] at h
    repeat' split at h
    all_goals cases h
    all_goals rfl

/-- At the type that all values share a value is not changed, constants apart. -/
theorem eq_of_coerce_commonType {items : List HostValue} (hmem : v ∈ items)
    (hconstant : ∀ type n, v ≠ .constant type n) (hobject : types.commonType items ≠ .object)
    (h : types.coerce v (types.commonType items) = .ok w) : w = v := by
  have hbasic (hv : (elementType v).isBasic) (htype : v.runtimeType? = some (elementType v)) :
      w = v := by
    obtain heq | heq := commonType_of_mem types hmem hv
    · rw [heq, coerce_of_isAssignable htype (types.isAssignable_self _)] at h
      exact (Except.ok.inj h).symm
    · exact absurd heq hobject
  -- bools, numbers and texts stand at their own type; the others are kept or refused
  cases v with
  | bool b => exact hbasic rfl rfl
  | integer k n => exact hbasic rfl rfl
  | float x => exact hbasic rfl rfl
  | double x => exact hbasic rfl rfl
  | string text => exact hbasic rfl rfl
  | constant type n => exact absurd rfl (hconstant type n)
  | _ => exact eq_of_coerce (fun _ => rfl) rfl rfl h

/-- A number becomes the double that a script sees in it. -/
theorem coerce_double (types : Registry) (hv : v.primitiveKind?.any PrimitiveKind.isNumeric) :
    ∃ x, types.coerce v (.primitive .double) = .ok (.double x) ∧
      ∀ s : Store, s.fromHost types v = (.number x, s) := by
  -- no basic type but the type of doubles itself is assignable to it
  have hother {T : TypeId} (hT : T.isBasic) (hne : T ≠ .primitive .double) :
      types.isAssignable T (.primitive .double) = false := by
    rw [← Bool.not_eq_true]
    intro h
    obtain h | h | h := eq_of_isAssignable hT h
    · exact hne h.symm
    · cases h
    · cases h
  cases v with
  | integer k n =>
    have hany := hother (T := .integer k) rfl (by simp)
    refine ⟨.ofInt n.val, ?_, fun s => rfl⟩
    simp [coerce, HostValue.runtimeType?, hany, kind, Conversion.numeric?, Conversion.ofNumeric,
      HostValue.asInt?]
  | float x =>
    have hany := hother (T := .primitive .float) rfl (by simp)
    refine ⟨x.convert .double, ?_, fun s => rfl⟩
    simp [coerce, HostValue.runtimeType?, hany, kind, Conversion.numeric?, Conversion.ofNumeric]
  | double x =>
    exact ⟨x, coerce_of_isAssignable rfl (types.isAssignable_self _), fun s => rfl⟩
  | _ => cases hv

/-! ### Sequences -/

/-- At the element type of its sequence a value looks to a script as before, constants apart. -/
theorem fromHost_coerce_sequenceType {items : List HostValue} (hmem : v ∈ items)
    (hconstant : ∀ type n, v ≠ .constant type n) (hobject : types.sequenceType items ≠ .object)
    (h : types.coerce v (types.sequenceType items) = .ok w) (s : Store) :
    s.fromHost types w = s.fromHost types v := by
  unfold sequenceType at hobject h
  -- no entries, numbers only, or a common type that its entries already have
  split at h
  · next hempty =>
    rw [List.isEmpty_iff.1 hempty] at hmem
    cases hmem
  · next hnonempty =>
    split at h
    · next hnumeric =>
      obtain ⟨x, hx, hscript⟩ := coerce_double types (List.all_eq_true.1 hnumeric v hmem)
      rw [hx] at h
      cases h
      exact (hscript s).symm
    · next hmixed =>
      rw [if_neg hnonempty, if_neg hmixed] at hobject
      rw [eq_of_coerce_commonType hmem hconstant hobject h]

/-- Elements that a coercion leaves as a script sees them make the same sequence for it. -/
theorem fromHostAll_coerced {items converted : List HostValue}
    (hitems : ∀ v ∈ items, ∀ w, types.coerce v t = .ok w →
      ∀ s : Store, s.fromHost types w = s.fromHost types v)
    (h : items.mapM (types.coerce · t) = .ok converted) (s : Store) :
    s.fromHostAll types converted = s.fromHostAll types items := by
  induction items generalizing converted s with
  | nil =>
    cases h
    rfl
  | cons v items ih =>
    rw [List.mapM_cons] at h
    cases hv : types.coerce v t with
    | error e =>
      rw [hv] at h
      cases h
    | ok w =>
      cases hrest : items.mapM (types.coerce · t) with
      | error e =>
        rw [hv, hrest] at h
        cases h
      | ok others =>
        -- the rest is made visible in the store that the first entry leaves
        rw [hv, hrest] at h
        cases h
        have hfirst := hitems v (List.mem_cons_self ..) w hv
        have hothers := ih (fun u hu => hitems u (List.mem_cons_of_mem v hu)) hrest
        simp only [Store.fromHostAll, hfirst, hothers]

/-- A homogenized sequence without constants looks to a script as its elements do. -/
theorem fromHost_homogenize {items : List HostValue}
    (hconstant : ∀ v ∈ items, ∀ type n, v ≠ .constant type n) (s : Store) :
    s.fromHost types (types.homogenize items).toValue =
      s.fromHost types (.array .object items) := by
  -- entries of no common type are left as they are
  by_cases hobject : types.sequenceType items = .object
  · simp only [homogenize, hobject, beq_self_eq_true, if_true]
    rfl
  · have hbeq : (types.sequenceType items == .object) = false := beq_eq_false_iff_ne.2 hobject
    simp only [homogenize, hbeq, Bool.false_eq_true, if_false]
    cases hconverted : items.mapM (types.coerce · (types.sequenceType items)) with
    | error e => rfl
    | ok converted =>
      have hsame : ∀ v ∈ items, ∀ w, types.coerce v (types.sequenceType items) = .ok w →
          ∀ s : Store, s.fromHost types w = s.fromHost types v :=
        fun v hv w hw => fromHost_coerce_sequenceType hv (hconstant v hv) hobject hw
      simp only [HostSequence.toValue, Store.fromHost, fromHostAll_coerced hsame hconverted]

end Registry

end Membrane
