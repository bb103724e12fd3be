import Mathlib.Data.List.Forall2
import Mathlib.Data.List.Induction
import Membrane.Member.Resolution

/-!
# Overloads that hide others

The members of a type and its bases have an order, the *chain order*: those of a more derived type
come first, and those of one type come as it declares them. `Registry.Position` is a place in this
order, and `Registry.placed` lists what is declared together with its places.

A method group is collected along the chain. An overload that takes the same parameter types as one
before it is hidden by it, and all others are kept in their order (`Registry.exists_kept`). So the
group says of every declared overload whether it can be called, and by which one it is hidden
(`Registry.group_hides_overridden`).
-/

namespace Membrane

namespace Registry

/-! ### Chain order -/

/-- Where a member is declared: by which type of the chain, counted from the most derived one, and
at which place among the members of that type. -/
structure Position where
  ancestor : Nat
  index : Nat

/-- Chain order. -/
def Position.Before (p q : Position) : Prop :=
  p.ancestor < q.ancestor ∨ p.ancestor = q.ancestor ∧ p.index < q.index

/-- No position is before itself. -/
theorem Position.Before.ne {p q : Position} (h : p.Before q) : p ≠ q := by
  rintro rfl
  simp [Before] at h

/-- Of two positions at most one is before the other. -/
theorem Position.Before.asymm {p q : Position} (h : p.Before q) : ¬ q.Before p := by
  unfold Before at *
  omega

/-- The `n`-th type of a chain of bases; the type itself is the one at 0. -/
def ancestor? (types : Registry) (t : TypeId) : Nat → Option TypeId
  | 0 => some t
  | n + 1 => (types.base? t).bind fun b => ancestor? types b n

/-- The chain of a type declares the member at this position. -/
def DeclaredAt {α : Type} (types : Registry) (t : TypeId) (members : TypeEntry → List α)
    (p : Position) (m : α) : Prop :=
  ∃ a, types.ancestor? t p.ancestor = some a ∧ (types.own a members)[p.index]? = some m

/-- A base is of lower rank. -/
theorem WellFounded.rank_base_lt {types : Registry} (hwell : types.WellFounded) {t b : TypeId}
    (h : types.base? t = some b) : b.rank < t.rank := by
  cases t with
  | object => cases h
  | declared index =>
    obtain rfl := Option.some.inj h
    cases hentry : types.entries[index]? with
    | none => exact Nat.succ_pos _
    | some e => exact (hwell (.declared index) e hentry).1
  | primitive kind => cases h; exact Nat.lt_succ_self 1
  | _ => cases h; exact Nat.zero_lt_one

/-- A registry without types is well-founded. -/
theorem wellFounded_empty : empty.WellFounded := by
  intro t e hentry
  cases t <;> cases hentry

/-- A type is registered after the types it refers to. -/
theorem WellFounded.declare {types : Registry} (hwell : types.WellFounded) {e : TypeEntry}
    (hbase : e.base.rank < types.entries.size + 3)
    (hinterfaces : ∀ i ∈ e.interfaces, i.rank < types.entries.size + 3) :
    (types.declare e).2.WellFounded := by
  intro t e' hentry
  cases t with
  | declared index =>
    have hpush := Array.getElem?_push.symm.trans hentry
    -- the new type, or an older one
    split at hpush
    · next hnew =>
      obtain rfl := hnew
      obtain rfl := Option.some.inj hpush
      exact ⟨hbase, hinterfaces⟩
    · exact hwell (.declared index) e' hpush
  | _ => cases hentry

/-- The search for bases does not stop before the end of the chain. -/
theorem getElem?_ancestryWithin {types : Registry} (hwell : types.WellFounded) {steps : Nat}
    {t : TypeId} (hsteps : t.rank < steps) (n : Nat) :
    (types.ancestryWithin steps t)[n]? = types.ancestor? t n := by
  induction n generalizing steps t with
  | zero => cases steps <;> trivial
  | succ n ih =>
    cases steps with
    | zero => contradiction
    | succ steps =>
      unfold ancestryWithin ancestor?
      rw [List.getElem?_cons_succ]
      -- the rank falls along the chain, so the steps do not run out before it ends
      cases hbase : types.base? t with
      | none => rfl
      | some b =>
        have hrank := hwell.rank_base_lt hbase
        exact ih (by omega)

/-- The chain of a type, entry by entry. -/
theorem getElem?_ancestry {types : Registry} (hwell : types.WellFounded) (t : TypeId) (n : Nat) :
    (types.ancestry t)[n]? = types.ancestor? t n :=
  getElem?_ancestryWithin hwell (Nat.lt_succ_self _) n

/-- The members along the chain of a type with their positions, in chain order. -/
def placed {α : Type} (types : Registry) (t : TypeId) (members : TypeEntry → List α) :
    List (Position × α) :=
  (types.ancestry t).zipIdx.flatMap fun (a, i) =>
    (types.own a members).zipIdx.map fun (m, j) => (⟨i, j⟩, m)

section

variable {α : Type} {types : Registry} {t : TypeId} {members : TypeEntry → List α}

/-- Without their positions, the placed members are those on the chain. -/
theorem map_snd_placed : (types.placed t members).map Prod.snd = types.onChain t members := by
  have hinner (x : TypeId × Nat) :
      ((types.own x.1 members).zipIdx.map fun y => ((⟨x.2, y.2⟩ : Position), y.1)).map Prod.snd =
        types.own x.1 members := by
    rw [List.map_map]
    exact List.zipIdx_map_fst 0 _
  have hchain := List.zipIdx_map_fst 0 (types.ancestry t)
  unfold placed onChain
  rw [List.map_flatMap]
  simp only [hinner]
  conv_rhs => rw [← hchain, List.flatMap_map]
  rfl

/-- A member is placed where it is declared. -/
theorem mem_placed_iff (hwell : types.WellFounded) {x : Position × α} :
    x ∈ types.placed t members ↔ types.DeclaredAt t members x.1 x.2 := by
  obtain ⟨⟨i, j⟩, m⟩ := x
  simp only [placed, DeclaredAt, List.mem_flatMap, List.mem_map, Prod.exists, Prod.mk.injEq,
    Position.mk.injEq, List.mem_zipIdx_iff_getElem?, getElem?_ancestry hwell]
  constructor
  · rintro ⟨a, _, ha, _, _, hm, ⟨rfl, rfl⟩, rfl⟩
    exact ⟨a, ha, hm⟩
  · rintro ⟨a, ha, hm⟩
    exact ⟨a, i, ha, m, j, hm, ⟨rfl, rfl⟩, rfl⟩

/-- The positions of a list rise. -/
private theorem pairwise_zipIdx {β : Type} (l : List β) :
    l.zipIdx.Pairwise fun x y => x.2 < y.2 := by
  have hindices : (l.zipIdx.map Prod.snd).Pairwise (· < ·) := by
    rw [List.zipIdx_map_snd]
    exact List.pairwise_lt_range'
  exact List.pairwise_map.1 hindices

/-- The members are placed in the order of their positions. -/
theorem pairwise_placed :
    (types.placed t members).Pairwise fun x y => x.1.Before y.1 := by
  refine List.pairwise_flatMap.2 ⟨fun x _ => ?_, ?_⟩
  · -- two members of one type
    exact List.pairwise_map.2 ((pairwise_zipIdx _).imp fun hlt => .inr ⟨rfl, hlt⟩)
  · -- members of two types
    refine (pairwise_zipIdx _).imp fun hlt => ?_
    intro x hx y hy
    obtain ⟨_, -, rfl⟩ := List.mem_map.1 hx
    obtain ⟨_, -, rfl⟩ := List.mem_map.1 hy
    exact .inl hlt

/-- What is declared at a position is one member. -/
theorem DeclaredAt.unique {p : Position} {m n : α} (hm : types.DeclaredAt t members p m)
    (hn : types.DeclaredAt t members p n) : m = n := by
  obtain ⟨a, ha, hm⟩ := hm
  obtain ⟨b, hb, hn⟩ := hn
  obtain rfl : a = b := Option.some.inj (ha.symm.trans hb)
  exact Option.some.inj (hm.symm.trans hn)

end

/-! ### Groups -/

/-- Two overloads take the same parameter types. -/
theorem sameParameters_iff {m n : Method} :
    m.sameParameters n ↔ m.params.map (·.type) = n.params.map (·.type) := by
  simp [Method.sameParameters]

/-- One more overload is kept unless one that is kept already hides it. -/
theorem visibleOverloads_concat (methods : List Method) (m : Method) :
    visibleOverloads (methods ++ [m]) =
      if (visibleOverloads methods).any (·.sameParameters m) then visibleOverloads methods
      else visibleOverloads methods ++ [m] := by
  unfold visibleOverloads
  rw [List.foldl_append]
  rfl

/-- What is kept of overloads with positions: some of them, in their order, of which no two take the
same parameter types, and an overload that is not kept has the types of one that is kept before
it. -/
theorem exists_kept {overloads : List (Position × Method)}
    (hordered : overloads.Pairwise fun x y => x.1.Before y.1) :
    ∃ kept : List (Position × Method), kept.Sublist overloads ∧
      kept.map Prod.snd = visibleOverloads (overloads.map Prod.snd) ∧
      (kept.Pairwise fun x y => ¬ x.2.sameParameters y.2) ∧
      ∀ x ∈ overloads, x ∈ kept ∨ ∃ y ∈ kept, y.1.Before x.1 ∧ y.2.sameParameters x.2 := by
  -- the overloads are collected from the front, so the last one is the one to add
  induction overloads using List.reverseRecOn with
  | nil => exact ⟨[], .refl _, rfl, .nil, fun _ hx => nomatch hx⟩
  | append_singleton overloads x ih =>
    obtain ⟨hbefore, -, hlast⟩ := List.pairwise_append.1 hordered
    obtain ⟨kept, hsub, hkept, hdistinct, hcovers⟩ := ih hbefore
    have hgroup := visibleOverloads_concat (overloads.map Prod.snd) x.2
    rw [← hkept] at hgroup
    -- an overload whose signature is kept already is dropped, and any other one is added
    by_cases hhidden : (kept.map Prod.snd).any (·.sameParameters x.2)
    · refine ⟨kept, hsub.trans (List.sublist_append_left _ _), ?_, hdistinct, fun z hz => ?_⟩
      · rw [List.map_append, List.map_singleton, hgroup, if_pos hhidden]
      · obtain hz | hz := List.mem_append.1 hz
        · exact hcovers z hz
        · obtain rfl := List.mem_singleton.1 hz
          obtain ⟨m, hm, hsame⟩ := List.any_eq_true.1 hhidden
          obtain ⟨y, hy, rfl⟩ := List.mem_map.1 hm
          exact .inr ⟨y, hy, hlast y (hsub.subset hy) z (List.mem_singleton_self z), hsame⟩
    · refine ⟨kept ++ [x], hsub.append (.refl _), ?_, ?_, fun z hz => ?_⟩
      · simp only [List.map_append, List.map_singleton, hgroup, if_neg hhidden]
      · refine List.pairwise_append.2 ⟨hdistinct, List.pairwise_singleton _ _, ?_⟩
        intro y hy z hz hsame
        obtain rfl := List.mem_singleton.1 hz
        exact hhidden (List.any_eq_true.2 ⟨y.2, List.mem_map_of_mem hy, hsame⟩)
      · obtain hz | hz := List.mem_append.1 hz
        · obtain hkept | ⟨y, hy, hhides⟩ := hcovers z hz
          · exact .inl (List.mem_append_left _ hkept)
          · exact .inr ⟨y, List.mem_append_left _ hy, hhides⟩
        · exact .inl (List.mem_append_right _ hz)

/-- The members that a list of kept overloads comes from. -/
theorem forall₂_kept {types : Registry} (hwell : types.WellFounded) {t : TypeId}
    {members : TypeEntry → List Method} {key : String} {kept : List (Position × Method)}
    (hsub : kept.Sublist ((types.placed t members).filter (·.2.key == key))) :
    List.Forall₂ (fun p m => types.DeclaredAt t members p m ∧ m.key = key) (kept.map Prod.fst)
      (kept.map Prod.snd) := by
  rw [List.forall₂_map_left_iff, List.forall₂_map_right_iff, List.forall₂_same]
  intro x hx
  obtain ⟨hplaced, hkey⟩ := List.mem_filter.1 (hsub.subset hx)
  exact ⟨(mem_placed_iff hwell).1 hplaced, eq_of_beq hkey⟩

/-- The overloads that are collected for a key along the chain of a type. -/
def overloads (types : Registry) (t : TypeId) (members : TypeEntry → List Method) (key : String) :
    List Method :=
  visibleOverloads ((types.onChain t members).filter (·.key == key))

/-- A group of overloads, if there are any. -/
theorem group?_eq_some_iff {t : TypeId} {methods : List Method} {r : ResolvedMember} :
    group? t methods = some r ↔
      ∃ m rest, methods = m :: rest ∧ r = .methodGroup ⟨t, m.name, m :: rest⟩ := by
  cases methods with
  | nil => simp [group?]
  | cons m rest => simp [group?, eq_comm]

/-- A method group that an instance lookup gives is one of public or one of explicit methods. -/
theorem group_of_resolve {types : Registry} {t : TypeId} {key : String} {group : MethodGroup}
    (h : types.resolve t key .onInstance = .methodGroup group) :
    ∃ members, (members = TypeEntry.methods ∨ members = TypeEntry.explicitMethods) ∧
      group? t (types.overloads t members key) = some (.methodGroup group) := by
  unfold resolve at h
  split at h
  · cases hconstant : types.constant? t key <;> simp [hconstant] at h
  · simp only [resolveInstance, named?, indexer?, explicitlyNamed?, explicitIndexer?,
      Option.orElse_eq_orElse, Option.orElse_eq_or, Option.getD_or, Option.getD_eq_iff,
      Option.ite_none_left_eq_some, Option.or_eq_some_iff, Option.map_eq_some_iff, reduceCtorEq,
      and_false, exists_false, false_or, or_self, or_false] at h
    -- a group is found among the public methods, or among the explicit ones
    obtain ⟨-, -, -, hgroup⟩ | ⟨-, -, -, -, hgroup⟩ := h
    · exact ⟨_, .inl rfl, hgroup⟩
    · exact ⟨_, .inr rfl, hgroup⟩

/-- A list of overloads is what the chain declares under a key less what is overridden. No two of
them take the same parameter types. They are declared along the chain and stand in chain order; and
a declared overload that is not among them takes the parameter types of one that comes before it in
chain order. -/
def HidesOverridden (types : Registry) (t : TypeId) (members : TypeEntry → List Method)
    (key : String) (group : List Method) : Prop :=
  (group.Pairwise fun m n => m.params.map (·.type) ≠ n.params.map (·.type)) ∧
    ∃ positions : List Position,
      positions.Pairwise Position.Before ∧
      List.Forall₂ (fun p m => types.DeclaredAt t members p m ∧ m.key = key) positions group ∧
      ∀ p m, types.DeclaredAt t members p m → m.key = key →
        p ∈ positions ∨
          ∃ q ∈ positions, q.Before p ∧ ∃ n, types.DeclaredAt t members q n ∧
            n.params.map (·.type) = m.params.map (·.type)

/-- What is kept of the overloads hides what it overrides. -/
theorem hidesOverridden_overloads {types : Registry} (hwell : types.WellFounded)
    (t : TypeId) (members : TypeEntry → List Method) (key : String) :
    types.HidesOverridden t members key (types.overloads t members key) := by
  have hplaced : (types.placed t members).Pairwise fun x y => x.1.Before y.1 := pairwise_placed
  have hordered := hplaced.filter (·.2.key == key)
  have hfilter : ((types.placed t members).filter (·.2.key == key)).map Prod.snd =
      (types.onChain t members).filter (·.key == key) := by
    rw [← map_snd_placed, List.filter_map]
    rfl
  obtain ⟨kept, hsub, hkept, hdistinct, hcovers⟩ := exists_kept hordered
  unfold overloads
  rw [← hfilter, ← hkept]
  refine ⟨?_, kept.map Prod.fst, ?_, forall₂_kept hwell hsub, fun p m hdeclared hkey => ?_⟩
  · -- no two members of the group take the same types
    exact List.pairwise_map.2 (hdistinct.imp fun hne hsame => hne (sameParameters_iff.2 hsame))
  · -- the group is in chain order
    exact List.pairwise_map.2 (hordered.sublist hsub)
  · -- a declared method is in the group or hidden by an earlier member
    have hmem : (p, m) ∈ (types.placed t members).filter (·.2.key == key) :=
      List.mem_filter.2 ⟨(mem_placed_iff hwell).2 hdeclared, beq_iff_eq.2 hkey⟩
    obtain hin | ⟨y, hy, hbefore, hsame⟩ := hcovers _ hmem
    · exact .inl (List.mem_map_of_mem hin)
    · have hplaced := (List.mem_filter.1 (hsub.subset hy)).1
      exact .inr ⟨y.1, List.mem_map_of_mem hy, hbefore, y.2, (mem_placed_iff hwell).1 hplaced,
        sameParameters_iff.1 hsame⟩

/-- **A method group is what is declared less what is overridden.** This holds of the overloads that
are collected for a key, of the public methods and of the explicit ones alike, and so of every
method group that an instance lookup gives. -/
theorem group_hides_overridden {types : Registry} (hwell : types.WellFounded) (t : TypeId)
    (key : String) :
    (∀ members : TypeEntry → List Method,
      types.HidesOverridden t members key (types.overloads t members key)) ∧
    ∀ group, types.resolve t key .onInstance = .methodGroup group →
      group.owner = t ∧ group.methods ≠ [] ∧
        (types.HidesOverridden t TypeEntry.methods key group.methods ∨
          types.HidesOverridden t TypeEntry.explicitMethods key group.methods) := by
  refine ⟨fun members => hidesOverridden_overloads hwell t members key,
    fun group hresolved => ?_⟩
  obtain ⟨members, hmembers, hgroup⟩ := group_of_resolve hresolved
  obtain ⟨m, rest, hvisible, hgroup⟩ := group?_eq_some_iff.1 hgroup
  obtain rfl := ResolvedMember.methodGroup.inj hgroup
  have hhides := hidesOverridden_overloads hwell t members key
  rw [hvisible] at hhides
  -- the public methods, or the explicit ones
  obtain rfl | rfl := hmembers
  · exact ⟨rfl, List.cons_ne_nil _ _, .inl hhides⟩
  · exact ⟨rfl, List.cons_ne_nil _ _, .inr hhides⟩

/-- An overload of a method that does nothing. -/
def running (params : List Parameter) : Method :=
  ⟨"Run", "run", ⟨0⟩, params, false, fun _ => .done .undefined, none⟩

/-- A type with two overloads of a method. -/
def runner : TypeEntry :=
  (TypeEntry.make "Runner" .reference).withMethod (running [])
    |>.withMethod (running [.required .string])

/-- A type derived from it that overrides the first overload. -/
def quickRunner : TypeEntry :=
  ((TypeEntry.make "QuickRunner" .reference).withBase (.declared 0)).withMethod (running [])

/-- A type, and one that overrides some of its methods. -/
def runners : Registry := ((empty.declare runner).2.declare quickRunner).2

/-- Each type is declared after its base. -/
theorem wellFounded_runners : runners.WellFounded := by
  have hrunner : (empty.declare runner).2.WellFounded :=
    wellFounded_empty.declare (by decide) fun _ hi => nomatch hi
  exact hrunner.declare (by decide) fun _ hi => nomatch hi

/-- The overload of the derived type and the one that the base alone has. -/
theorem group_of_overriding_type :
    runners.WellFounded ∧
      runners.resolve (.declared 1) "run" .onInstance =
        .methodGroup ⟨.declared 1, "Run", [running [], running [.required .string]]⟩ ∧
      runners.HidesOverridden (.declared 1) TypeEntry.methods "run"
        [running [], running [.required .string]] :=
  ⟨wellFounded_runners, rfl,
    (group_hides_overridden wellFounded_runners (.declared 1) "run").1 TypeEntry.methods⟩

end Registry

end Membrane
