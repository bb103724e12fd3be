import Membrane.Proofs.Homogenize
import Membrane.Proofs.Precedence

/-!
# Chains of assignments

A type can stand for `object`, for itself and its bases, and for the interfaces that it implements
(`Registry.isAssignable_iff`). What it implements is found by a search with a step limit. In a
well-founded registry the search leaves nothing out: a type implements the interfaces that it or one
of its bases names, and what these implement in turn (`Registry.Implements`).

The bases of a base are bases, and what an implemented interface implements is implemented. The
search goes on to what the bases of an interface name as well, but it compares with its goal the
named interfaces alone and never their bases. So a type does not stand for the base of an interface
that it implements, although the interface does. Assignability is reflexive, and it is transitive
but for these cases (`Registry.Lost`).

## Key results

- `Registry.implements_iff`, `Registry.isAssignable_iff`: what a type implements and stands for
- `Registry.assignable_trans_unless_lost`: exactly the lost cases break transitivity
-/

namespace Membrane.Registry

variable {types : Registry} {a b c i t : TypeId}

/-! ### Chains of bases -/

/-- Every type is on its own chain. -/
theorem mem_ancestry_self (types : Registry) (t : TypeId) : t ∈ types.ancestry t :=
  List.mem_cons_self ..

/-- A chain of bases ends with the chain of each type on it. -/
theorem ancestry_of_append (hwell : types.WellFounded) {below above : List TypeId}
    (h : types.ancestry a = below ++ b :: above) : types.ancestry b = b :: above := by
  -- one step up the chain for each type below
  induction below generalizing a with
  | nil =>
    obtain ⟨rfl, -⟩ := List.cons.inj h
    exact h
  | cons x below ih =>
    cases hbase : types.base? a with
    | none =>
      -- a type without a base has nothing above it
      have hlength := congrArg List.length h
      simp [ancestry, ancestryWithin, hbase] at hlength
    | some base =>
      rw [ancestry_of_base hwell hbase] at h
      exact ih (List.cons.inj h).2

/-- The bases of a base are bases. -/
theorem mem_ancestry_trans (hwell : types.WellFounded) (hb : b ∈ types.ancestry a)
    (hc : c ∈ types.ancestry b) : c ∈ types.ancestry a := by
  obtain ⟨below, above, hchain⟩ := List.append_of_mem hb
  rw [ancestry_of_append hwell hchain] at hc
  rw [hchain]
  exact List.mem_append_right below hc

/-- The bases of a type come into being before it. -/
theorem WellFounded.rank_le_of_mem_ancestry (hwell : types.WellFounded)
    (hb : b ∈ types.ancestry a) : b.rank ≤ a.rank := by
  obtain ⟨n, hn⟩ := List.mem_iff_getElem?.1 hb
  rw [getElem?_ancestry hwell] at hn
  clear hb
  -- along the chain the rank falls with every base
  induction n generalizing a with
  | zero =>
    cases hn
    exact Nat.le_refl _
  | succ n ih =>
    obtain ⟨base, hbase, hn⟩ := Option.bind_eq_some_iff.1 hn
    exact Nat.le_trans (ih hn) (Nat.le_of_lt (hwell.rank_base_lt hbase))

/-- The interfaces that a type names come into being before it. -/
theorem WellFounded.rank_lt_of_mem_interfaces (hwell : types.WellFounded)
    (hi : i ∈ types.interfaces t) : i.rank < t.rank := by
  unfold interfaces at hi
  cases hentry : types.entry? t with
  | none => simp [hentry] at hi
  | some e => exact (hwell t e hentry).2 i (by simpa [hentry] using hi)

/-! ### Implemented interfaces -/

/-- What a type implements: the interfaces that it or one of its bases names, and what these
implement. -/
inductive Implements (types : Registry) : TypeId → TypeId → Prop where
  | named {a t i : TypeId} (hbase : t ∈ types.ancestry a) (hi : i ∈ types.interfaces t) :
      Implements types a i
  | through {a t i c : TypeId} (hbase : t ∈ types.ancestry a) (hi : i ∈ types.interfaces t)
      (hc : Implements types i c) : Implements types a c

/-- A type implements what its bases implement. -/
theorem Implements.of_mem_ancestry (hwell : types.WellFounded) (hb : b ∈ types.ancestry a)
    (hc : types.Implements b c) : types.Implements a c := by
  cases hc with
  | named hbase hi => exact .named (mem_ancestry_trans hwell hb hbase) hi
  | through hbase hi hc => exact .through (mem_ancestry_trans hwell hb hbase) hi hc

/-- A type implements what the interfaces implement that it implements. -/
theorem Implements.trans (hb : types.Implements a b) (hc : types.Implements b c) :
    types.Implements a c := by
  induction hb with
  | named hbase hi => exact .through hbase hi hc
  | through hbase hi _ ih => exact .through hbase hi (ih hc)

/-- The search for an interface finds it if the steps suffice for the rank of the type. -/
theorem implementsWithin_iff (hwell : types.WellFounded) {steps : Nat} (hsteps : a.rank < steps) :
    types.implementsWithin steps a c ↔ types.Implements a c := by
  induction steps generalizing a with
  | zero => contradiction
  | succ steps ih =>
    -- an interface that the search goes on from is below the type, so a step less suffices for it
    have hih {t i : TypeId} (ht : t ∈ types.ancestry a) (hi : i ∈ types.interfaces t) :
        types.implementsWithin steps i c ↔ types.Implements i c := by
      have hbase := hwell.rank_le_of_mem_ancestry ht
      have hinterface := hwell.rank_lt_of_mem_interfaces hi
      exact ih (by omega)
    simp only [implementsWithin, List.any_eq_true, Bool.or_eq_true, beq_iff_eq]
    constructor
    · rintro ⟨t, ht, i, hi, rfl | hc⟩
      · exact .named ht hi
      · exact .through ht hi ((hih ht hi).1 hc)
    · intro h
      cases h with
      | named ht hi => exact ⟨_, ht, _, hi, .inl rfl⟩
      | through ht hi hc => exact ⟨_, ht, _, hi, .inr ((hih ht hi).2 hc)⟩

/-- The search for an interface is bounded by the rank, which is bound enough. -/
theorem implements_iff (hwell : types.WellFounded) :
    types.implements a c ↔ types.Implements a c :=
  implementsWithin_iff hwell (Nat.lt_succ_self _)

/-- Assignability in terms of the chain and of the interfaces that are found. -/
theorem isAssignable_iff (hwell : types.WellFounded) :
    types.isAssignable a t ↔
      t = .object ∨ t ∈ types.ancestry a ∨ (types.isInterface t ∧ types.Implements a t) := by
  simp only [isAssignable, Bool.or_eq_true, beq_iff_eq, List.contains_iff_mem, Bool.and_eq_true,
    implements_iff hwell, or_assoc]

/-! ### Transitivity -/

/-- A type can stand for what its bases can stand for. -/
theorem isAssignable_of_mem_ancestry (hwell : types.WellFounded) (hb : b ∈ types.ancestry a)
    (hc : types.isAssignable b c) : types.isAssignable a c := by
  rw [isAssignable_iff hwell] at hc ⊢
  obtain hobject | hbase | ⟨hinterface, himplements⟩ := hc
  · exact .inl hobject
  · exact .inr (.inl (mem_ancestry_trans hwell hb hbase))
  · exact .inr (.inr ⟨hinterface, himplements.of_mem_ancestry hwell hb⟩)

/-- `a` implements the interface `b`, and `c` is a base of `b`, but `a` itself has no such base and
implements no such interface. -/
structure Lost (types : Registry) (a b c : TypeId) : Prop where
  interface : types.isInterface b
  implemented : types.Implements a b
  base : c ∈ (types.ancestry b).tail
  belowObject : c ≠ .object
  noBase : c ∉ types.ancestry a
  notImplemented : ¬ (types.isInterface c ∧ types.Implements a c)

/-- What is lost breaks the chain. -/
theorem Lost.breaks (hwell : types.WellFounded) (h : types.Lost a b c) :
    types.isAssignable a b ∧ types.isAssignable b c ∧ ¬ types.isAssignable a c := by
  refine ⟨(isAssignable_iff hwell).2 (.inr (.inr ⟨h.interface, h.implemented⟩)),
    (isAssignable_iff hwell).2 (.inr (.inl (List.mem_of_mem_tail h.base))), fun hac => ?_⟩
  obtain hobject | hbase | himplements := (isAssignable_iff hwell).1 hac
  · exact h.belowObject hobject
  · exact h.noBase hbase
  · exact h.notImplemented himplements

/-- A chain is broken only where something is lost. -/
theorem isAssignable_trans (hwell : types.WellFounded) (hab : types.isAssignable a b)
    (hbc : types.isAssignable b c) (hlost : ¬ types.Lost a b c) : types.isAssignable a c := by
  obtain rfl | hbase | ⟨hinterface, himplements⟩ := (isAssignable_iff hwell).1 hab
  · -- `object` stands for itself alone
    obtain rfl | hc := (isAssignable_iff_mem_ancestry rfl).1 hbc
    · exact hab
    · rw [ancestry_object, List.mem_singleton] at hc
      exact hc ▸ hab
  · exact isAssignable_of_mem_ancestry hwell hbase hbc
  · obtain rfl | hc | ⟨hc, hbc⟩ := (isAssignable_iff hwell).1 hbc
    · exact (isAssignable_iff hwell).2 (.inl rfl)
    · by_contra hac
      rw [isAssignable_iff hwell] at hac
      push Not at hac
      obtain ⟨hobject, hnobase, hnone⟩ := hac
      -- `b` itself is implemented, so `c` is another one on its chain
      obtain rfl | htail := List.mem_cons.1 hc
      · exact hnone hinterface himplements
      · exact hlost ⟨hinterface, himplements, htail, hobject, hnobase, fun h => hnone h.1 h.2⟩
    · exact (isAssignable_iff hwell).2 (.inr (.inr ⟨hc, himplements.trans hbc⟩))

/-- Interfaces derive from `object` alone. -/
def InterfacesAtTop (types : Registry) : Prop :=
  ∀ b, types.isInterface b → types.base? b = some .object

/-- Nothing is lost where interfaces derive from `object` alone. -/
theorem not_lost_of_interfacesAtTop (hwell : types.WellFounded) (htop : types.InterfacesAtTop) :
    ¬ types.Lost a b c := by
  intro hlost
  have htail := hlost.base
  rw [ancestry_of_base hwell (htop b hlost.interface), List.tail_cons, ancestry_object,
    List.mem_singleton] at htail
  exact hlost.belowObject htail

/-- **Assignability is a preorder but for the bases of implemented interfaces.** Every type can
stand for itself. Where `a` can stand for `b` and `b` for `c`, `a` can stand for `c`, unless `c` is
lost as a base of an interface `b` that `a` implements; and whatever is lost breaks such a chain. So
assignability is a preorder if all interfaces derive from `object` alone. -/
theorem assignable_trans_unless_lost (hwell : types.WellFounded) :
    (∀ a, types.isAssignable a a) ∧
    (∀ a b c, types.isAssignable a b → types.isAssignable b c → ¬ types.Lost a b c →
      types.isAssignable a c) ∧
    (∀ a b c, types.Lost a b c →
      types.isAssignable a b ∧ types.isAssignable b c ∧ ¬ types.isAssignable a c) ∧
    (types.InterfacesAtTop → ∀ a b c, types.isAssignable a b → types.isAssignable b c →
      types.isAssignable a c) :=
  ⟨types.isAssignable_self, fun _ _ _ hab hbc => isAssignable_trans hwell hab hbc,
    fun _ _ _ hlost => hlost.breaks hwell,
    fun htop _ _ _ hab hbc =>
      isAssignable_trans hwell hab hbc (not_lost_of_interfacesAtTop hwell htop)⟩

/-- An interface, one that derives from it, a class that implements the derived one, and a class
that derives from this class. -/
def tools : Registry :=
  let tool := TypeEntry.make "Tool" .interface
  let powerTool := (TypeEntry.make "PowerTool" .interface).withBase (.declared 0)
  let drill := (TypeEntry.make "Drill" .reference).implementing (.declared 1)
  let hammerDrill := (TypeEntry.make "HammerDrill" .reference).withBase (.declared 2)
  ((((empty.declare tool).2.declare powerTool).2.declare drill).2.declare hammerDrill).2

/-- Every type names only types that are declared before it. -/
theorem wellFounded_tools : tools.WellFounded := by
  refine WellFounded.declare (.declare (.declare (.declare wellFounded_empty ?_ ?_) ?_ ?_) ?_ ?_)
    ?_ ?_
  all_goals decide

/-- A hammer drill is a drill and so a power tool. That a power tool is a tool is lost on drills. -/
theorem hammer_drill_stands_for_power_tool :
    tools.WellFounded ∧ tools.isAssignable (.declared 3) (.declared 2) ∧
      tools.isAssignable (.declared 2) (.declared 1) ∧
      ¬ tools.Lost (.declared 3) (.declared 2) (.declared 1) ∧
      tools.isAssignable (.declared 3) (.declared 1) ∧
      tools.Lost (.declared 2) (.declared 1) (.declared 0) ∧
      ¬ tools.isAssignable (.declared 2) (.declared 0) := by
  obtain ⟨-, htrans, hbreaks, -⟩ := assignable_trans_unless_lost wellFounded_tools
  have hhammerDrill : tools.isAssignable (.declared 3) (.declared 2) := rfl
  have hdrill : tools.isAssignable (.declared 2) (.declared 1) := rfl
  have hkept : ¬ tools.Lost (.declared 3) (.declared 2) (.declared 1) := fun hlost =>
    absurd hlost.interface (by decide)
  have himplements : tools.Implements (.declared 2) (.declared 1) :=
    .named (mem_ancestry_self _ _) (List.mem_singleton_self _)
  -- the base of the interface is found by no search that starts at the class
  have hlost : tools.Lost (.declared 2) (.declared 1) (.declared 0) := by
    refine ⟨rfl, himplements, by decide, by decide, by decide, fun ⟨_, htool⟩ => ?_⟩
    exact absurd ((implements_iff wellFounded_tools).2 htool) (by decide)
  exact ⟨wellFounded_tools, hhammerDrill, hdrill, hkept,
    htrans _ _ _ hhammerDrill hdrill hkept, hlost, (hbreaks _ _ _ hlost).2.2⟩

/-- A drill can stand for a power tool and a power tool for a tool, but a drill for no tool. -/
theorem drill_stands_for_no_tool :
    tools.WellFounded ∧ tools.isAssignable (.declared 2) (.declared 1) ∧
      tools.isAssignable (.declared 1) (.declared 0) ∧
      tools.isAssignable (.declared 2) (.declared 0) = false :=
  ⟨wellFounded_tools, rfl, rfl, rfl⟩

end Membrane.Registry
