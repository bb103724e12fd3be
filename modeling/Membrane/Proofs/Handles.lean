import Membrane.Object.Descriptor
import Membrane.Proofs.Precedence

/-!
# The descriptors that lookups give out

What stands in a slot was put there by a script or is bound to a host member. A lookup binds a member
to the object that it was asked for (`Descriptor.Binds`): on a wrapper to the wrapper's own instance, and
on a type reference to no instance, with a static member that the type itself declares. Since that is
all that resolution gives (`Registry.declaresStatic_resolve`, `Registry.offers_resolve`), it is known of a
descriptor that comes from a lookup, whatever object and store it was found in, what it can be
(`Registry.HandsOut`).

## Key results

- `Registry.declaresStatic_resolve`, `Registry.offers_resolve`: what a key resolves to, on a type and on
  an instance
- `Descriptor.Binds.sharedIn`, `Registry.HandsOut.sharedIn`: a descriptor stays what it is when it is
  given out
-/

namespace Membrane

/-! ### What a key resolves to -/

namespace Registry

variable {types : Registry} {t : TypeId} {key : String} {member : ResolvedMember}

/-- What a lookup on the type itself can give: a constant, or static members that the type declares
under the key. -/
def DeclaresStatic (types : Registry) (t : TypeId) (key : String) : ResolvedMember → Prop
  | .constant n => types.constant? t key = some n
  | .property p => p ∈ types.own t TypeEntry.properties ∧ p.isStatic ∧ p.key = key
  | .field f => f ∈ types.own t TypeEntry.fields ∧ f.isStatic ∧ f.key = key
  | .methodGroup group =>
      ∀ m ∈ group.methods, m ∈ types.own t TypeEntry.methods ∧ m.isStatic ∧ m.key = key
  | .indexer _ => False
  | .undefined => True

/-- The properties and fields that a lookup on an instance can give: those on the chain of its type. -/
def Offers (types : Registry) (t : TypeId) (key : String) : ResolvedMember → Prop
  | .property p => (p ∈ types.onChain t TypeEntry.properties ∨
      p ∈ types.onChain t TypeEntry.explicitProperties) ∧ p.key = key
  | .field f => f ∈ types.onChain t TypeEntry.fields ∧ f.key = key
  | _ => True

/-- A static member that is found is one that the type declares. -/
private theorem declaresStatic_static? (h : types.static? t key = some member) :
    types.DeclaresStatic t key member := by
  simp only [static?, Option.orElse_eq_orElse, Option.orElse_eq_or, Option.or_eq_some_iff,
    Option.map_eq_some_iff] at h
  -- properties come before fields, and fields before methods
  obtain ⟨p, hp, rfl⟩ | ⟨-, ⟨f, hf, rfl⟩ | ⟨-, hgroup⟩⟩ := h
  · exact ⟨List.mem_of_find?_eq_some hp, by simpa using List.find?_some hp⟩
  · exact ⟨List.mem_of_find?_eq_some hf, by simpa using List.find?_some hf⟩
  · obtain ⟨m, rest, hmethods, rfl⟩ := group?_eq_some_iff.1 hgroup
    intro m' hm'
    rw [← hmethods] at hm'
    simpa using List.mem_filter.1 hm'

/-- A lookup on a type gives nothing but its constants and the static members that it declares itself:
nothing that is inherited, that takes an instance, or that implements an interface explicitly. -/
theorem declaresStatic_resolve (types : Registry) (t : TypeId) (key : String) :
    types.DeclaresStatic t key (types.resolve t key .onType) := by
  unfold resolve
  split
  · -- an enumeration has nothing but its constants
    cases hconstant : types.constant? t key with
    | some n => exact hconstant
    | none => trivial
  · show types.DeclaresStatic t key (types.resolveStatic t key)
    unfold resolveStatic
    split
    · trivial
    · cases hstatic : types.static? t key with
      | some member => exact declaresStatic_static? hstatic
      | none => trivial

/-- A member that is found under its name is one that the type or an ancestor declares. -/
private theorem offers_named? (h : types.named? t key = some member) : types.Offers t key member := by
  simp only [named?, Option.orElse_eq_orElse, Option.orElse_eq_or, Option.or_eq_some_iff,
    Option.map_eq_some_iff] at h
  obtain ⟨p, hp, rfl⟩ | ⟨-, ⟨f, hf, rfl⟩ | ⟨-, hgroup⟩⟩ := h
  · exact ⟨.inl (List.mem_of_find?_eq_some hp), by simpa using List.find?_some hp⟩
  · exact ⟨List.mem_of_find?_eq_some hf, by simpa using List.find?_some hf⟩
  · obtain ⟨m, rest, -, rfl⟩ := group?_eq_some_iff.1 hgroup
    trivial

/-- So is one that is found as an explicit member. -/
private theorem offers_explicitlyNamed? (h : types.explicitlyNamed? t key = some member) :
    types.Offers t key member := by
  simp only [explicitlyNamed?, Option.orElse_eq_orElse, Option.orElse_eq_or, Option.or_eq_some_iff,
    Option.map_eq_some_iff] at h
  obtain ⟨p, hp, rfl⟩ | ⟨-, hgroup⟩ := h
  · have hmem := List.mem_filter.1 (only?_eq_some_iff.1 hp ▸ List.mem_singleton_self p)
    exact ⟨.inr hmem.1, by simpa using hmem.2⟩
  · obtain ⟨m, rest, -, rfl⟩ := group?_eq_some_iff.1 hgroup
    trivial

/-- A lookup on an instance gives no property and no field but one on the chain of its type. -/
theorem offers_resolve (types : Registry) (t : TypeId) (key : String) :
    types.Offers t key (types.resolve t key .onInstance) := by
  unfold resolve
  split
  · cases types.constant? t key <;> trivial
  · show types.Offers t key (types.resolveInstance t key)
    unfold resolveInstance
    dsimp only
    -- members by name, indexers, and the two once more among the explicit implementations
    generalize hfound : (_ <|> _ : Option ResolvedMember) = found
    cases found with
    | none => trivial
    | some member =>
      simp only [Option.orElse_eq_orElse, Option.orElse_eq_or, Option.or_eq_some_iff,
        Option.ite_none_left_eq_some, indexer?, explicitIndexer?, Option.map_eq_some_iff] at hfound
      obtain ⟨-, hnamed⟩ | ⟨-, ⟨i, -, rfl⟩ | ⟨-, ⟨-, hnamed⟩ | ⟨-, i, -, rfl⟩⟩⟩ := hfound
      · exact offers_named? hnamed
      · trivial
      · exact offers_explicitlyNamed? hnamed
      · trivial

end Registry

/-! ### What is bound, and what is given out -/

/-- What scripts put into slots: values, getters, and the marks of absent properties. -/
def Descriptor.isScript : Descriptor → Bool
  | .data .. | .sharedData .. | .accessor .. | .absent => true
  | _ => false

/-- The binding that a lookup of `key` makes, or a new wrapper has, on an object that stands for `host`:
the count and the members of the instance, or static members that the type itself declares. -/
inductive Descriptor.Binds (types : Registry) (key : String) : HostRef ⊕ TypeId → Descriptor → Prop where
  -- a wrapper binds what its instance offers, and its count
  | count (ref : HostRef) : Binds types key (.inl ref) (.count ref)
  | property {ref : HostRef} {p : Property} (hp : types.Offers ref.type key (.property p))
      (shadow : Option ScriptValue) : Binds types key (.inl ref) (.property p (some ref) shadow)
  | sharedProperty {ref : HostRef} {p : Property} (hp : types.Offers ref.type key (.property p))
      (cell : Nat) : Binds types key (.inl ref) (.sharedProperty p (some ref) cell)
  | field {ref : HostRef} {f : Field} (hf : types.Offers ref.type key (.field f)) :
      Binds types key (.inl ref) (.field f (some ref))
  -- a type reference binds what its own type declares as static, without a target
  | staticProperty {type : TypeId} {p : Property} (hp : types.DeclaresStatic type key (.property p))
      (shadow : Option ScriptValue) : Binds types key (.inr type) (.property p none shadow)
  | sharedStaticProperty {type : TypeId} {p : Property}
      (hp : types.DeclaresStatic type key (.property p)) (cell : Nat) :
      Binds types key (.inr type) (.sharedProperty p none cell)
  | staticField {type : TypeId} {f : Field} (hf : types.DeclaresStatic type key (.field f)) :
      Binds types key (.inr type) (.field f none)

/-- What a lookup can give out, whatever object and store it is asked of: what scripts put into slots,
the binding of some key on some object, and an element of an instance at a key. -/
inductive Registry.HandsOut (types : Registry) : Descriptor → Prop where
  | script {d : Descriptor} (hd : d.isScript) : HandsOut types d
  | bound {key : String} {host : HostRef ⊕ TypeId} {d : Descriptor} (hd : d.Binds types key host) :
      HandsOut types d
  | element (i : Indexer) (ref : HostRef) (name : String) : HandsOut types (.index i ref name)

namespace Descriptor

variable {types : Registry} {key : String} {host : HostRef ⊕ TypeId} {d d' : Descriptor} {cell : Nat}
  {contents : Option ScriptValue}

/-- What is shared is a value or the binding of a property, and a write can change it. -/
theorem sharedIn_cases (h : d.sharedIn cell = some (d', contents)) :
    (∃ value flags, d = .data value flags ∧ d' = .sharedData cell flags ∧ contents = some value ∧
      flags.writable) ∨
    (∃ member target shadow, d = .property member target shadow ∧
      d' = .sharedProperty member target cell ∧ contents = shadow ∧ member.isWritable) := by
  cases d with
  -- what cannot be written is never shared
  | data value flags =>
    obtain ⟨hwritable, heq⟩ := Option.ite_none_right_eq_some.1 h
    cases heq
    exact .inl ⟨value, flags, rfl, rfl, rfl, hwritable⟩
  | property member target shadow =>
    obtain ⟨hwritable, heq⟩ := Option.ite_none_right_eq_some.1 h
    cases heq
    exact .inr ⟨member, target, _, rfl, rfl, rfl, hwritable⟩
  | _ => cases h

/-- Whether a write may go ahead does not depend on where the value is kept. -/
theorem isWritable_of_sharedIn (h : d.sharedIn cell = some (d', contents)) :
    d.isWritable ∧ d'.isWritable := by
  obtain ⟨value, flags, rfl, rfl, -, hwritable⟩ | ⟨member, target, shadow, rfl, rfl, -, hwritable⟩ :=
    sharedIn_cases h
  · exact ⟨hwritable, hwritable⟩
  · exact ⟨hwritable, hwritable⟩

/-- A binding that is shared is one of the same member to the same target. -/
theorem Binds.sharedIn (hd : d.Binds types key host) (h : d.sharedIn cell = some (d', contents)) :
    d'.Binds types key host := by
  obtain ⟨value, flags, rfl, -⟩ | ⟨member, target, shadow, rfl, rfl, -⟩ := sharedIn_cases h
  · cases hd
  · cases hd with
    | property hp => exact .sharedProperty hp cell
    | staticProperty hp => exact .sharedStaticProperty hp cell

end Descriptor

/-- What is shared on being given out is one of the descriptors that lookups give out. -/
theorem Registry.HandsOut.sharedIn {types : Registry} {d d' : Descriptor} {cell : Nat}
    {contents : Option ScriptValue} (hd : types.HandsOut d) (h : d.sharedIn cell = some (d', contents)) :
    types.HandsOut d' := by
  cases hd with
  | script hscript =>
    obtain ⟨value, flags, rfl, rfl, -⟩ | ⟨member, target, shadow, rfl, -⟩ := Descriptor.sharedIn_cases h
    · exact .script rfl
    · cases hscript
  | bound hbinds => exact .bound (hbinds.sharedIn h)
  | element i ref name => cases h

end Membrane
