import Membrane.Proofs.Assignability
import Membrane.Proofs.Inhabitants
import Membrane.Proofs.SequenceRoundTrip

/-!
# The type that the elements of a sequence share

The element type of a sequence is looked for along the bases of the first element's type. For each
further element the search goes up to a type that values of the element's type can stand for, and it
passes over the universal value type. So every type that it has left behind is one that some element
cannot stand for (`foldl_join_spec`), and it ends at the lowest type that remains (`IsLowest`).

The elements are then brought to this type. Where interfaces derive from `object` alone they all
stand for it as they are. Elsewhere an element that could stand for an interface need not stand for
the base of it to which the search went on (`Lost`), and then the sequence stays untyped.

## Key results

- `Registry.commonType_spec`: where the search ends, and how the elements relate to the type there
- `Registry.homogenize_finds_lowest_shared`: the element type of a sequence and its elements
-/

namespace Membrane.Registry

variable {types : Registry} {common next t T : TypeId} {items rest : List HostValue}
  {v w first : HostValue}

/-! ### The search along the chain -/

/-- A type on a chain is a base of every type below it there. -/
theorem mem_ancestry_of_mem_below {below above : List TypeId} {b : TypeId}
    (hwell : types.WellFounded) (hchain : types.ancestry t = below ++ T :: above) (hb : b ∈ below) :
    T ∈ types.ancestry b := by
  obtain ⟨lower, upper, rfl⟩ := List.append_of_mem hb
  rw [List.append_assoc, List.cons_append] at hchain
  rw [ancestry_of_append hwell hchain]
  simp

/-- The root is assignable to itself only. -/
theorem isAssignable_object_iff : types.isAssignable .object t ↔ t = .object := by
  rw [isAssignable_iff_mem_ancestry rfl, ancestry_object, List.mem_singleton, or_self]

/-- The chain of the value type is itself and the root. -/
theorem ancestry_valueType : types.ancestry .valueType = [.valueType, .object] := rfl

/-- Two types are never joined at the value type. -/
theorem join_ne_valueType (types : Registry) (common next : TypeId) :
    types.join common next ≠ .valueType := by
  unfold join
  cases hfind : (types.ancestry common).find? fun t =>
      t == .object || (types.isAssignable next t && t != .valueType) with
  | none => simp
  | some t =>
    have ht := List.find?_some hfind
    rintro rfl
    simp at ht

/-- The search for one more element stops at the first type on the chain that the element can stand
for. -/
theorem join_spec (hwell : types.WellFounded) (hobject : types.join common next ≠ .object) :
    types.isAssignable next (types.join common next) ∧
      ∃ below above, types.ancestry common = below ++ types.join common next :: above ∧
        ∀ b ∈ below, ¬ types.isAssignable next b := by
  have hvalueType := types.join_ne_valueType common next
  unfold join at hobject hvalueType ⊢
  cases hfind : (types.ancestry common).find? fun t =>
      t == .object || (types.isAssignable next t && t != .valueType) with
  | none => simp [hfind] at hobject
  | some t =>
    rw [hfind, Option.getD_some] at hobject hvalueType
    rw [Option.getD_some]
    obtain ⟨ht, below, above, hchain, hbelow⟩ := List.find?_eq_some_iff_append.1 hfind
    have hnext : types.isAssignable next t := by simpa [hobject, hvalueType] using ht
    refine ⟨hnext, below, above, hchain, fun b hb hnextb => ?_⟩
    have hb' := hbelow b hb
    simp only [hnextb, Bool.true_and, Bool.not_eq_true', Bool.or_eq_false_iff, bne_eq_false_iff_eq]
      at hb'
    -- the universal value type is passed over, and above it there is only `object`
    obtain ⟨-, rfl⟩ := hb'
    have ht := mem_ancestry_of_mem_below hwell hchain hb
    simp [ancestry_valueType, hobject, hvalueType] at ht

/-- The search for more elements ends on the chain. Each type below was left for an element that
cannot stand for it, and each element can stand for a type whose bases the search went on to. -/
theorem foldl_join_spec (hwell : types.WellFounded)
    (hT : rest.foldl (fun common v => types.join common (elementType v)) common = T)
    (hobject : T ≠ .object) :
    (∃ below above, types.ancestry common = below ++ T :: above ∧
      ∀ b ∈ below, ∃ v ∈ rest, ¬ types.isAssignable (elementType v) b) ∧
    ∀ v ∈ rest, ∃ c, types.isAssignable (elementType v) c ∧ T ∈ types.ancestry c := by
  induction rest generalizing common with
  | nil =>
    cases hT
    exact ⟨⟨[], _, rfl, nofun⟩, nofun⟩
  | cons v rest ih =>
    rw [List.foldl_cons] at hT
    obtain ⟨⟨below, above, hchain, hbelow⟩, hrest⟩ := ih hT
    have hmem : T ∈ types.ancestry (types.join common (elementType v)) := by
      rw [hchain]
      exact List.mem_append_right below List.mem_cons_self
    -- a join at the root would leave nothing but the root for the rest of the list
    have hjoin : types.join common (elementType v) ≠ .object := by
      intro heq
      rw [heq, ancestry_object] at hmem
      exact hobject (List.mem_singleton.1 hmem)
    obtain ⟨hv, lower, upper, hstart, hlower⟩ := join_spec hwell hjoin
    rw [ancestry_of_append hwell hstart] at hchain
    refine ⟨⟨lower ++ below, above, by rw [hstart, hchain, List.append_assoc], fun b hb => ?_⟩,
      fun u hu => ?_⟩
    · -- a type below the result is passed over either by the first join or by a later one
      obtain hb | hb := List.mem_append.1 hb
      · exact ⟨v, List.mem_cons_self, hlower b hb⟩
      · obtain ⟨u, hu, hnot⟩ := hbelow b hb
        exact ⟨u, List.mem_cons_of_mem v hu, hnot⟩
    · obtain rfl | hu := List.mem_cons.1 hu
      · exact ⟨_, hv, hmem⟩
      · exact hrest u hu

/-- The search does not pass a type that the element can stand for. -/
theorem mem_ancestry_join (hwell : types.WellFounded) (ht : t ∈ types.ancestry common)
    (hvalueType : t ≠ .valueType) (hnext : types.isAssignable next t) :
    t ∈ types.ancestry (types.join common next) := by
  unfold join
  cases hfind : (types.ancestry common).find? fun t =>
      t == .object || (types.isAssignable next t && t != .valueType) with
  | none =>
    have := List.find?_eq_none.1 hfind t ht
    simp [hnext, hvalueType] at this
  | some c =>
    rw [Option.getD_some]
    obtain ⟨-, below, above, hchain, hbelow⟩ := List.find?_eq_some_iff_append.1 hfind
    rw [ancestry_of_append hwell hchain]
    rw [hchain] at ht
    obtain ht | ht := List.mem_append.1 ht
    · -- the join takes the first shared type, so a shared one does not lie below it
      have := hbelow t ht
      simp [hnext, hvalueType] at this
    · exact ht

/-- A type that all elements can stand for is not passed. -/
theorem mem_ancestry_foldl_join (hwell : types.WellFounded) (ht : t ∈ types.ancestry common)
    (hvalueType : t ≠ .valueType)
    (hshared : ∀ v ∈ rest, types.isAssignable (elementType v) t) :
    t ∈ types.ancestry (rest.foldl (fun common v => types.join common (elementType v)) common) := by
  induction rest generalizing common with
  | nil => exact ht
  | cons v rest ih =>
    have hjoin := mem_ancestry_join hwell ht hvalueType (hshared v List.mem_cons_self)
    exact ih hjoin fun u hu => hshared u (List.mem_cons_of_mem v hu)

/-! ### The type that the search ends at -/

/-- All elements can stand for the type. -/
def SharedBy (types : Registry) (items : List HostValue) (t : TypeId) : Prop :=
  ∀ v ∈ items, types.isAssignable (elementType v) t

/-- The type is on the chain of the first element's type, and the elements share none below it. -/
def IsLowest (types : Registry) (items : List HostValue) (t : TypeId) : Prop :=
  ∃ first ∈ items.head?, ∃ below above, types.ancestry (elementType first) = below ++ t :: above ∧
    ∀ b ∈ below, ¬ types.SharedBy items b

/-- Below `object` the search ends at the lowest type that remains, and every element can stand for
that type or for one that the search has left. -/
theorem commonType_spec (hwell : types.WellFounded) (hobject : types.commonType items ≠ .object) :
    types.IsLowest items (types.commonType items) ∧
      ∀ v ∈ items, ∃ c, types.isAssignable (elementType v) c ∧
        types.commonType items ∈ types.ancestry c := by
  cases items with
  | nil => exact absurd rfl hobject
  | cons first rest =>
    obtain ⟨⟨below, above, hchain, hbelow⟩, hrest⟩ := foldl_join_spec hwell rfl hobject
    refine ⟨⟨first, rfl, below, above, hchain, fun b hb hshared => ?_⟩, fun v hv => ?_⟩
    · -- what lies below is not shared, since some value was not assignable to it
      obtain ⟨v, hv, hnot⟩ := hbelow b hb
      exact hnot (hshared v (List.mem_cons_of_mem first hv))
    · obtain rfl | hv := List.mem_cons.1 hv
      · refine ⟨elementType v, types.isAssignable_self _, ?_⟩
        rw [hchain]
        exact List.mem_append_right below List.mem_cons_self
      · exact hrest v hv

/-- Undefined and null share nothing with other values. -/
theorem commonType_of_object (hwell : types.WellFounded) (hv : v ∈ items)
    (htype : elementType v = .object) : types.commonType items = .object := by
  by_contra hobject
  obtain ⟨c, hassignable, hc⟩ := (commonType_spec hwell hobject).2 v hv
  rw [htype, isAssignable_object_iff] at hassignable
  rw [hassignable, ancestry_object] at hc
  exact hobject (List.mem_singleton.1 hc)

/-- More than one element do not end up at the universal value type. -/
theorem commonType_ne_valueType (types : Registry) (hlength : 2 ≤ items.length) :
    types.commonType items ≠ .valueType := by
  obtain rfl | ⟨others, last, rfl⟩ := List.eq_nil_or_concat items
  · contradiction
  · cases others with
    | nil => contradiction
    | cons first rest =>
      -- the last element settles it
      simp only [List.concat_eq_append, List.cons_append, commonType, List.foldl_append,
        List.foldl_cons, List.foldl_nil]
      exact types.join_ne_valueType _ _

/-- Types that all elements share are bases of the type that the search ends at. -/
theorem mem_ancestry_commonType (hwell : types.WellFounded) (hfirst : first ∈ items.head?)
    (ht : t ∈ types.ancestry (elementType first)) (hvalueType : t ≠ .valueType)
    (hshared : types.SharedBy items t) : t ∈ types.ancestry (types.commonType items) := by
  cases items with
  | nil => cases hfirst
  | cons first' rest =>
    cases hfirst
    exact mem_ancestry_foldl_join hwell ht hvalueType fun v hv =>
      hshared v (List.mem_cons_of_mem first hv)

/-- Where interfaces derive from `object` alone, the elements share the type that the search ends
at. -/
theorem sharedBy_commonType (hwell : types.WellFounded) (htop : types.InterfacesAtTop)
    (hobject : types.commonType items ≠ .object) :
    types.SharedBy items (types.commonType items) := by
  intro v hv
  obtain ⟨c, hassignable, hc⟩ := (commonType_spec hwell hobject).2 v hv
  exact isAssignable_trans hwell hassignable ((isAssignable_iff hwell).2 (.inr (.inl hc)))
    (not_lost_of_interfacesAtTop hwell htop)

/-! ### The elements at their type -/

/-- Nothing but null becomes null. -/
theorem eq_null_of_coerced_null (h : Coerced types v t .null) : v = .null := by
  cases h with
  | null => rfl
  | kept htype => cases htype
  | primitive _ hnumber => cases primitiveKind?_of_ofNumeric hnumber

/-- A sequence stays as it is, or each element is brought to an element type below `object`. -/
theorem homogenize_cases (types : Registry) (items : List HostValue) :
    types.homogenize items = .untyped items ∨
      ∃ T converted, T ≠ .object ∧ items.map (types.coerce · T) = converted.map .ok ∧
        types.homogenize items = ⟨T, converted⟩ := by
  unfold homogenize
  -- untyped when nothing but the root is shared, and when a value cannot be converted
  by_cases hobject : types.sequenceType items = .object
  · exact .inl (if_pos (beq_iff_eq.2 hobject))
  · simp only [beq_eq_false_iff_ne.2 hobject, Bool.false_eq_true, if_false]
    cases hconverted : items.mapM (types.coerce · (types.sequenceType items)) with
    | error e => exact .inl rfl
    | ok converted => exact .inr ⟨_, converted, hobject, mapM_eq_ok_iff.1 hconverted, rfl⟩

/-- A homogenized sequence is as long as before. -/
theorem length_homogenize (types : Registry) (items : List HostValue) :
    (types.homogenize items).items.length = items.length := by
  obtain huntyped | ⟨T, converted, -, hcoerced, htyped⟩ := types.homogenize_cases items
  · rw [huntyped]
    rfl
  · rw [htyped]
    simpa using (congrArg List.length hcoerced).symm

/-- Beside something that is no number an element type below `object` is the one that the search
ends at. -/
theorem elementType_eq_commonType (hnumbers : ¬ items.all HostValue.isNumber)
    (htyped : (types.homogenize items).elementType ≠ .object) :
    (types.homogenize items).elementType = types.commonType items := by
  obtain huntyped | ⟨converted, -, -, heq⟩ := types.homogenize_of_other hnumbers
  · rw [huntyped] at htyped
    exact absurd rfl htyped
  · rw [heq]

/-- A sequence with undefined or null in it is untyped. -/
theorem elementType_of_nothing (hwell : types.WellFounded) (hv : v ∈ items)
    (hnothing : v.runtimeType? = none) : (types.homogenize items).elementType = .object := by
  have hnumbers : ¬ items.all HostValue.isNumber := by
    intro hall
    have hnumber := List.all_eq_true.1 hall v hv
    cases v with
    | undefined => cases hnumber
    | null => cases hnumber
    | _ => cases hnothing
  have hobject : elementType v = .object := by rw [elementType, hnothing, Option.getD_none]
  -- a value without a type makes the root the only shared type
  by_contra htyped
  rw [elementType_eq_commonType hnumbers htyped] at htyped
  exact htyped (commonType_of_object hwell hv hobject)

/-- The elements of a typed sequence have types that can stand for its element type. -/
theorem isAssignable_of_mem_homogenize (hwell : types.WellFounded)
    (htyped : (types.homogenize items).elementType ≠ .object)
    (hw : w ∈ (types.homogenize items).items) :
    ∃ t, w.runtimeType? = some t ∧
      types.isAssignable t (types.homogenize items).elementType := by
  obtain huntyped | ⟨T, converted, -, hcoerced, heq⟩ := types.homogenize_cases items
  · rw [huntyped] at htyped
    exact absurd rfl htyped
  · -- a null would have kept the sequence untyped
    have hnull : .null ∉ items := fun hmem => htyped (elementType_of_nothing hwell hmem rfl)
    rw [heq] at hw ⊢
    have hmem : .ok w ∈ items.map (types.coerce · T) := hcoerced ▸ List.mem_map_of_mem hw
    obtain ⟨v, hv, hcoerce⟩ := List.mem_map.1 hmem
    obtain ⟨rfl, -⟩ | hassignable := inhabits_iff.1 (inhabits_of_coerce hcoerce)
    · exact absurd (eq_null_of_coerced_null (coerced_of_coerce hcoerce) ▸ hv) hnull
    · exact hassignable

/-- Elements that can stand for their common type as they are stay so. -/
theorem homogenize_of_sharedBy (hnumbers : ¬ items.all HostValue.isNumber)
    (hobject : types.commonType items ≠ .object)
    (hshared : types.SharedBy items (types.commonType items)) :
    types.homogenize items = ⟨types.commonType items, items⟩ := by
  -- what is assignable to the type is left as it is by the conversion to it
  have hkept : ∀ v ∈ items, types.coerce v (types.commonType items) = .ok v := by
    intro v hv
    have hassignable := hshared v hv
    unfold elementType at hassignable
    cases htype : v.runtimeType? with
    | none =>
      rw [htype, Option.getD_none, isAssignable_object_iff] at hassignable
      exact absurd hassignable hobject
    | some T =>
      rw [htype, Option.getD_some] at hassignable
      exact coerce_of_isAssignable htype hassignable
  exact homogenize_of_coerced hnumbers hobject (mapM_eq_ok_iff.2 (List.map_congr_left hkept))

/-- Where interfaces derive from `object` alone, elements that share a type below it stay as they
are, and their element type is the lowest one that they share. -/
theorem homogenize_of_shared (hwell : types.WellFounded) (htop : types.InterfacesAtTop)
    (hnumbers : ¬ items.all HostValue.isNumber) (hfirst : first ∈ items.head?)
    (ht : t ∈ types.ancestry (elementType first)) (hobject : t ≠ .object)
    (hvalueType : t ≠ .valueType) (hshared : types.SharedBy items t) :
    types.commonType items ≠ .object ∧ types.SharedBy items (types.commonType items) ∧
      types.homogenize items = ⟨types.commonType items, items⟩ := by
  -- the shared type stays on the chain of the common type, which the root has not
  have hcommon : types.commonType items ≠ .object := by
    intro heq
    have hmem := mem_ancestry_commonType hwell hfirst ht hvalueType hshared
    rw [heq, ancestry_object] at hmem
    exact hobject (List.mem_singleton.1 hmem)
  have hshares := sharedBy_commonType hwell htop hcommon
  exact ⟨hcommon, hshares, homogenize_of_sharedBy hnumbers hcommon hshares⟩

/-- **A sequence gets the lowest type that its elements share.** Numbers alone become doubles. Of
other elements each is brought to the element type, which is on the chain of the first one's type
above all types that some element cannot stand for; without such a type they stay as they are. Two
of them do not meet at the universal value type, and none meets undefined or null.

Where interfaces derive from `object` alone, the elements get the lowest type that they share, if
there is one, and stay as they are. -/
theorem homogenize_finds_lowest_shared (hwell : types.WellFounded) (items : List HostValue) :
    ∃ T result, types.homogenize items = ⟨T, result⟩ ∧ result.length = items.length ∧
      (T = .object → result = items) ∧
      (T ≠ .object → items.map (types.coerce · T) = result.map .ok) ∧
      (items ≠ [] → items.all HostValue.isNumber → T = .primitive .double) ∧
      (T ≠ .object → ¬ items.all HostValue.isNumber → types.IsLowest items T ∧
        ∀ w ∈ result, ∃ t, w.runtimeType? = some t ∧ types.isAssignable t T) ∧
      (2 ≤ items.length → ¬ items.all HostValue.isNumber → T ≠ .valueType) ∧
      (.undefined ∈ items ∨ .null ∈ items → T = .object) ∧
      (types.InterfacesAtTop → ¬ items.all HostValue.isNumber →
        ∀ first ∈ items.head?, ∀ t ∈ types.ancestry (elementType first),
          t ≠ .object → t ≠ .valueType → types.SharedBy items t →
          T ≠ .object ∧ types.SharedBy items T ∧ result = items) := by
  -- one clause a case, each by its own lemma
  refine ⟨(types.homogenize items).elementType, (types.homogenize items).items, rfl,
    types.length_homogenize items, ?untyped, ?typed, ?numbers, ?lowest, ?valueType, ?nothing,
    ?shared⟩
  case untyped =>
    intro hobject
    obtain huntyped | ⟨T, converted, hT, -, htyped⟩ := types.homogenize_cases items
    · rw [huntyped]
      rfl
    · rw [htyped] at hobject
      exact absurd hobject hT
  case typed =>
    intro hobject
    obtain huntyped | ⟨T, converted, -, hcoerced, htyped⟩ := types.homogenize_cases items
    · rw [huntyped] at hobject
      exact absurd rfl hobject
    · rw [htyped]
      exact hcoerced
  case numbers =>
    intro hempty hnumbers
    rw [types.homogenize_of_numbers hempty hnumbers]
  case lowest =>
    intro hobject hnumbers
    have hcommon := elementType_eq_commonType hnumbers hobject
    refine ⟨?_, fun w hw => isAssignable_of_mem_homogenize hwell hobject hw⟩
    rw [hcommon] at hobject ⊢
    exact (commonType_spec hwell hobject).1
  case valueType =>
    intro hlength hnumbers hvalueType
    have htyped : (types.homogenize items).elementType ≠ .object := by simp [hvalueType]
    rw [elementType_eq_commonType hnumbers htyped] at hvalueType
    exact types.commonType_ne_valueType hlength hvalueType
  case nothing =>
    rintro (hmem | hmem)
    · exact elementType_of_nothing hwell hmem rfl
    · exact elementType_of_nothing hwell hmem rfl
  case shared =>
    intro htop hnumbers first hfirst t ht hobject hvalueType hshared
    obtain ⟨hcommon, hshares, hkept⟩ :=
      homogenize_of_shared hwell htop hnumbers hfirst ht hobject hvalueType hshared
    rw [hkept]
    exact ⟨hcommon, hshares, rfl⟩

/-- A hammer drill and a drill are drills, and not both are hammer drills. -/
theorem hammer_drill_and_drill_are_drills :
    let items : List HostValue := [.object ⟨.declared 3, 0⟩, .object ⟨.declared 2, 1⟩]
    tools.WellFounded ∧ tools.homogenize items = ⟨.declared 2, items⟩ ∧
      tools.IsLowest items (.declared 2) := by
  intro items
  -- only the clause on the lowest shared type is needed
  obtain ⟨T, result, hresult, -, -, -, -, hlowest, -⟩ :=
    homogenize_finds_lowest_shared wellFounded_tools items
  have hitems : tools.homogenize items = ⟨.declared 2, items⟩ := rfl
  rw [hitems] at hresult
  cases hresult
  exact ⟨wellFounded_tools, hitems, (hlowest (by decide) (by decide)).1⟩

end Membrane.Registry
