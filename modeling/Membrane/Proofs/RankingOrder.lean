import Mathlib.Algebra.GroupWithZero.Nat
import Mathlib.Algebra.Order.BigOperators.Group.List
import Mathlib.Algebra.Order.Group.Nat
import Mathlib.Data.Prod.Lex
import Membrane.Proofs.Ranking

/-!
# The order of ranked overloads

Candidates are sorted by total cost and number of exact matches alone. The sort is stable, so equal
candidates stay in the order of their positions (`filter_mergeSort`), and the whole order is the
lexicographic one of `Store.merit`: a lower cost first, then more exact matches, then the lower
position. It does not depend on the other candidates, so a new candidate leaves the others in their
order.

## Key results

- `Standing.pairwise_key_mergeSort`: standings are sorted by cost, exact matches and position
- `Store.totalCost_le`: how much a call can cost
- `Store.ranking_sorts_by_merit`: who is ranked, in which order, and what a new candidate changes
-/

namespace Membrane

/-! ### Stable sorting -/

/-- A sort leaves elements in their order that it takes for equal. -/
theorem filter_mergeSort {α : Type} {le : α → α → Bool}
    (htrans : ∀ a b c, le a b → le b c → le a c) (htotal : ∀ a b, le a b || le b a)
    {p : α → Bool} (hp : ∀ a b, p a → p b → le a b) (l : List α) :
    (l.mergeSort le).filter p = l.filter p := by
  have hequal : (l.filter p).Pairwise fun a b => le a b :=
    List.pairwise_of_forall_mem_list fun a ha b hb =>
      hp a b (List.mem_filter.1 ha).2 (List.mem_filter.1 hb).2
  -- the sort is stable, and all of these are alike to it
  have hkept : (l.filter p).Sublist (l.mergeSort le) :=
    List.sublist_mergeSort htrans htotal hequal List.filter_sublist
  have hfiltered := hkept.filter p
  rw [List.filter_filter] at hfiltered
  simp only [Bool.and_self] at hfiltered
  exact (hfiltered.eq_of_length ((List.mergeSort_perm l le).filter p).length_eq.symm).symm

namespace Standing

variable {a b c : Standing}

/-- Standings in the order of total costs, then of falling numbers of exact matches, then of
positions. -/
def key (a : Standing) : Nat ×ₗ Int ×ₗ Nat := toLex (a.total, toLex (-(a.exact : Int), a.index))

/-- The order of the sort: by total cost, then by exact matches. -/
theorem notAfter_iff :
    a.notAfter b ↔ a.total < b.total ∨ (a.total = b.total ∧ b.exact ≤ a.exact) := by
  simp [notAfter]

/-- The order of the keys adds the position to it. -/
theorem key_lt_iff : a.key < b.key ↔ a.total < b.total ∨
    (a.total = b.total ∧ (b.exact < a.exact ∨ (a.exact = b.exact ∧ a.index < b.index))) := by
  simp [key, Prod.Lex.toLex_lt_toLex, Int.natCast_inj]

/-- The order of the sort is transitive. -/
theorem notAfter_trans (hab : a.notAfter b) (hbc : b.notAfter c) : a.notAfter c := by
  rw [notAfter_iff] at *
  dsimp only [Cost] at *
  omega

/-- Any two standings are in order one way or the other. -/
theorem notAfter_total (a b : Standing) : a.notAfter b || b.notAfter a := by
  rw [Bool.or_eq_true, notAfter_iff, notAfter_iff]
  dsimp only [Cost]
  omega

/-- Standings that come in the order of their positions are sorted by their keys. -/
theorem pairwise_key_mergeSort {l : List Standing} (hl : l.Pairwise (·.index < ·.index)) :
    (l.mergeSort notAfter).Pairwise (·.key < ·.key) := by
  rw [List.pairwise_iff_forall_sublist]
  intro a b hab
  have hsorted : (l.mergeSort notAfter).Pairwise fun a b => a.notAfter b :=
    List.pairwise_mergeSort (fun a b c => @notAfter_trans a b c) notAfter_total l
  have hle := notAfter_iff.1 (List.pairwise_iff_forall_sublist.1 hsorted hab)
  rw [key_lt_iff]
  dsimp only [Cost] at hle ⊢
  by_cases hequal : b.total = a.total ∧ b.exact = a.exact
  · -- the two come in the order that they had before
    let alike (c : Standing) : Bool := c.total == a.total && c.exact == a.exact
    have halike (c d : Standing) (hc : alike c) (hd : alike d) : c.notAfter d := by
      simp only [alike, Bool.and_eq_true, beq_iff_eq] at hc hd
      exact notAfter_iff.2 (.inr ⟨hc.1.trans hd.1.symm, (hd.2.trans hc.2.symm).le⟩)
    have hpair : [a, b].filter alike = [a, b] := by simp [alike, hequal]
    have hstable : (l.mergeSort notAfter).filter alike = l.filter alike :=
      filter_mergeSort (fun a b c => @notAfter_trans a b c) notAfter_total halike l
    have hkept : [a, b].Sublist (l.filter alike) := by
      rw [← hstable, ← hpair]
      exact hab.filter alike
    have hindex := List.pairwise_iff_forall_sublist.1 hl (hkept.trans List.filter_sublist)
    exact .inr ⟨hequal.1.symm, .inr ⟨hequal.2.symm, hindex⟩⟩
  · dsimp only [Cost] at hequal
    omega

end Standing

namespace Store

variable {s : Store} {types : Registry} {args : List ScriptValue} {params : List Parameter}
  {candidates : List (List Parameter)} {i : Nat}

/-! ### What a call costs -/

/-- A candidate can be ranked: it requires no more parameters than there are arguments, has at least
as many, and every argument has a cost. -/
structure Viable (s : Store) (types : Registry) (args : List ScriptValue)
    (params : List Parameter) : Prop where
  required : requiredArity params ≤ args.length
  fits : args.length ≤ params.length
  passable : ∀ pair ∈ args.zip params, (s.cost? types pair.1 pair.2.type).isSome

/-- The costs of the arguments of a call together. -/
def totalCost (s : Store) (types : Registry) (args : List ScriptValue) (params : List Parameter) :
    Nat :=
  ((args.zip params).map fun pair => (s.cost? types pair.1 pair.2.type).getD 0).sum

/-- The number of arguments that match their parameters exactly. -/
def exactMatches (s : Store) (types : Registry) (args : List ScriptValue)
    (params : List Parameter) : Nat :=
  (args.zip params).countP fun pair => s.cost? types pair.1 pair.2.type == some Cost.exact

/-- No argument costs more than being passed as any object. -/
theorem cost?_le {arg : ScriptValue} {t : TypeId} {cost : Cost}
    (h : s.cost? types arg t = some cost) : cost ≤ Cost.toObject := by
  have hnumber (whole : Bool) (kind : PrimitiveKind) :
      Cost.ofNumber whole kind ≤ Cost.toObject := by
    cases kind with
    | integer k => cases k <;> cases whole <;> decide
    | _ => cases whole <;> decide
  unfold cost? at h
  simp only at h
  repeat' split at h
  all_goals cases h
  all_goals first | exact hnumber _ _ | decide

/-- No argument costs more than one that is boxed. -/
theorem totalCost_le (s : Store) (types : Registry) (args : List ScriptValue)
    (params : List Parameter) : s.totalCost types args params ≤ args.length * Cost.toObject := by
  have hcost : ∀ cost ∈ (args.zip params).map fun pair =>
      (s.cost? types pair.1 pair.2.type).getD 0, cost ≤ Cost.toObject := by
    intro cost hmem
    obtain ⟨pair, -, rfl⟩ := List.mem_map.1 hmem
    cases hpair : s.cost? types pair.1 pair.2.type with
    | none => exact Nat.zero_le _
    | some cost => exact cost?_le hpair
  -- an argument without a parameter is not counted
  have hlength : (args.zip params).length ≤ args.length := by
    rw [List.length_zip]
    exact Nat.min_le_left _ _
  calc s.totalCost types args params
      ≤ ((args.zip params).map fun pair => (s.cost? types pair.1 pair.2.type).getD 0).length •
          Cost.toObject := List.sum_le_card_nsmul _ _ hcost
    _ = (args.zip params).length * Cost.toObject := by rw [List.length_map, Nat.nsmul_eq_mul]
    _ ≤ args.length * Cost.toObject := Nat.mul_le_mul_right _ hlength

/-! ### Standings -/

/-- A map that succeeds for every entry. -/
theorem map_eq_of_mapM {α β : Type} {f : α → Option β} {l : List α} {others : List β}
    (h : l.mapM f = some others) : l.map f = others.map some := by
  induction l generalizing others with
  | nil =>
    cases h
    rfl
  | cons a l ih =>
    simp only [List.mapM_cons, Option.bind_eq_bind, Option.bind_eq_some_iff, Option.pure_def,
      Option.some.injEq] at h
    obtain ⟨b, hb, rest, hrest, rfl⟩ := h
    rw [List.map_cons, List.map_cons, hb, ih hrest]

/-- A candidate that can be ranked has a standing, by its total cost and its exact matches. -/
theorem standing?_eq_some_iff {standing : Standing} :
    s.standing? types args (params, i) = some standing ↔ s.Viable types args params ∧
      standing = ⟨i, s.totalCost types args params, s.exactMatches types args params⟩ := by
  have hviable : s.Viable types args params ↔
      requiredArity params ≤ args.length ∧ args.length ≤ params.length ∧
        (s.costs? types params args).isSome := by
    rw [isSome_costs_iff]
    exact ⟨fun h => ⟨h.required, h.fits, h.passable⟩, fun h => ⟨h.1, h.2.1, h.2.2⟩⟩
  rw [hviable]
  simp only [standing?, Bool.or_eq_true, decide_eq_true_eq]
  -- the arity is asked first, then the costs
  split
  · next harity => exact iff_of_false (by simp) fun h => by omega
  · next harity =>
    cases hcosts : s.costs? types params args with
    | none => simp
    | some costs =>
      have hmap : (args.zip params).map (fun pair => s.cost? types pair.1 pair.2.type) =
          costs.map some := map_eq_of_mapM hcosts
      -- the costs are all there, so both sums are over the same numbers
      have htotal : s.totalCost types args params = costs.foldr (· + ·) 0 := by
        have hgetD := congrArg (List.map fun cost : Option Cost => cost.getD 0) hmap
        rw [List.map_map, List.map_map] at hgetD
        rw [totalCost, ← List.sum_eq_foldr]
        exact congrArg List.sum (hgetD.trans (List.map_id costs))
      have hexact : s.exactMatches types args params = costs.count Cost.exact := by
        have hcount := congrArg (List.countP (· == some Cost.exact)) hmap
        rw [List.countP_map, List.countP_map] at hcount
        exact hcount
      have hrequired : requiredArity params ≤ args.length := by omega
      have hfits : args.length ≤ params.length := by omega
      simp [hrequired, hfits, htotal, hexact, eq_comm]

/-! ### The ranked candidates -/

/-- What decides between candidates: the total cost of the arguments, then the number of exact
matches, of which more are better, then the position. -/
def merit (s : Store) (types : Registry) (candidates : List (List Parameter))
    (args : List ScriptValue) (i : Nat) : Nat ×ₗ Int ×ₗ Nat :=
  let params := candidates[i]?.getD []
  toLex (s.totalCost types args params, toLex (-(s.exactMatches types args params : Int), i))

/-- The candidates that can be ranked are ranked. -/
theorem mem_rankByCost_iff : i ∈ s.rankByCost types candidates args ↔
    ∃ params, candidates[i]? = some params ∧ s.Viable types args params := by
  rw [mem_rankByCost]
  exact ⟨fun ⟨params, hi, h⟩ => ⟨params, hi, h.1, h.2.1, h.2.2⟩,
    fun ⟨params, hi, h⟩ => ⟨params, hi, h.required, h.fits, h.passable⟩⟩

/-- Ranked candidates are sorted by their merits. -/
theorem pairwise_merit (s : Store) (types : Registry) (candidates : List (List Parameter))
    (args : List ScriptValue) : (s.rankByCost types candidates args).Pairwise fun i j =>
      s.merit types candidates args i < s.merit types candidates args j := by
  let standings := candidates.zipIdx.filterMap (s.standing? types args)
  -- before the sort the standings are in the order of the candidates
  have hindex : standings.Pairwise (·.index < ·.index) := by
    have hpositions : candidates.zipIdx.Pairwise (·.2 < ·.2) := by
      rw [← List.pairwise_map, List.zipIdx_map_snd]
      exact List.pairwise_lt_range'
    refine List.pairwise_filterMap.2 (hpositions.imp fun {x y} hlt a ha b hb => ?_)
    rw [(standing?_eq_some_iff.1 ha).2, (standing?_eq_some_iff.1 hb).2]
    exact hlt
  have hkey : ∀ a ∈ standings, a.key = s.merit types candidates args a.index := by
    intro a ha
    obtain ⟨⟨params, i⟩, hmem, hstanding⟩ := List.mem_filterMap.1 ha
    obtain ⟨-, rfl⟩ := standing?_eq_some_iff.1 hstanding
    have hi : candidates[i]? = some params := List.mem_zipIdx_iff_getElem?.1 hmem
    simp only [Standing.key, merit, hi, Option.getD_some]
  refine List.pairwise_map.2 ((Standing.pairwise_key_mergeSort hindex).imp_of_mem ?_)
  intro a b ha hb hlt
  rw [List.mem_mergeSort] at ha hb
  rwa [hkey a ha, hkey b hb] at hlt

/-- No candidate is ranked twice. -/
theorem nodup_rankByCost (s : Store) (types : Registry) (candidates : List (List Parameter))
    (args : List ScriptValue) : (s.rankByCost types candidates args).Nodup :=
  (s.pairwise_merit types candidates args).imp fun hlt heq => absurd (heq ▸ hlt) (lt_irrefl _)

/-! ### One more candidate -/

/-- The position of a candidate after another one was put in at the position `k`. -/
def shifted (k i : Nat) : Nat := if i < k then i else i + 1

/-- The positions keep their order. -/
theorem shifted_lt_iff {k i j : Nat} : shifted k i < shifted k j ↔ i < j := by
  unfold shifted
  split <;> split <;> omega

/-- The position of the new candidate is left free. -/
theorem shifted_ne (k i : Nat) : shifted k i ≠ k := by
  unfold shifted
  split <;> omega

/-- Every other position is taken. -/
theorem exists_shifted {k j : Nat} (h : j ≠ k) : ∃ i, shifted k i = j := by
  obtain hlt | hlt := Nat.lt_or_gt_of_ne h
  · exact ⟨j, if_pos hlt⟩
  · exact ⟨j - 1, by unfold shifted; split <;> omega⟩

/-- The candidates are found at their new positions. -/
theorem getElem?_shifted {α : Type} (before : List α) (added : α) (after : List α) (i : Nat) :
    (before ++ added :: after)[shifted before.length i]? = (before ++ after)[i]? := by
  unfold shifted
  split
  · next hlt => rw [List.getElem?_append_left hlt, List.getElem?_append_left hlt]
  · next hge =>
    rw [List.getElem?_append_right (by omega), List.getElem?_append_right (by omega),
      show i + 1 - before.length = (i - before.length) + 1 by omega, List.getElem?_cons_succ]

/-- A new candidate changes nothing between two others. -/
theorem merit_shifted_lt_iff {before after : List (List Parameter)} {added : List Parameter}
    {i j : Nat} :
    s.merit types (before ++ added :: after) args (shifted before.length i) <
        s.merit types (before ++ added :: after) args (shifted before.length j) ↔
      s.merit types (before ++ after) args i < s.merit types (before ++ after) args j := by
  simp only [merit, getElem?_shifted, Prod.Lex.toLex_lt_toLex, shifted_lt_iff]

/-- A new candidate leaves the others as they are ranked without it. -/
theorem filter_rankByCost (s : Store) (types : Registry) (before after : List (List Parameter))
    (added : List Parameter) (args : List ScriptValue) :
    (s.rankByCost types (before ++ added :: after) args).filter (· ≠ before.length) =
      (s.rankByCost types (before ++ after) args).map (shifted before.length) := by
  let candidates := before ++ added :: after
  let Better (i j : Nat) := s.merit types candidates args i < s.merit types candidates args j
  have hnew : ((s.rankByCost types candidates args).filter (· ≠ before.length)).Pairwise Better :=
    (s.pairwise_merit types candidates args).filter _
  have hold : ((s.rankByCost types (before ++ after) args).map
      (shifted before.length)).Pairwise Better :=
    List.pairwise_map.2 ((s.pairwise_merit types (before ++ after) args).imp
      merit_shifted_lt_iff.2)
  have hnodup {l : List Nat} (hl : l.Pairwise Better) : l.Nodup :=
    hl.imp fun hlt heq => absurd (heq ▸ hlt) (lt_irrefl _)
  -- both are sorted by merit, and the same candidates are ranked
  refine List.Perm.eq_of_pairwise (fun i j _ _ hij hji => absurd hij hji.asymm) hnew hold ?_
  refine (List.perm_ext_iff_of_nodup (hnodup hnew) (hnodup hold)).2 fun j => ?_
  simp only [List.mem_filter, decide_eq_true_eq, List.mem_map]
  constructor
  · rintro ⟨hj, hne⟩
    obtain ⟨i, rfl⟩ := exists_shifted hne
    rw [mem_rankByCost_iff, getElem?_shifted] at hj
    exact ⟨i, mem_rankByCost_iff.2 hj, rfl⟩
  · rintro ⟨i, hi, rfl⟩
    refine ⟨?_, shifted_ne _ _⟩
    rw [mem_rankByCost_iff, getElem?_shifted]
    exact mem_rankByCost_iff.1 hi

/-- **Ranking sorts by merit.** The ranked positions are distinct and are those of the candidates
that can be ranked. They are sorted by the total cost, which stays below 2 ^ 32 for less than
2 ^ 28 arguments, then by falling numbers of exact matches, then by position. With one candidate
more, wherever it is put in, the others are ranked as before. -/
theorem ranking_sorts_by_merit (s : Store) (types : Registry) (candidates : List (List Parameter))
    (args : List ScriptValue) :
    let ranked := s.rankByCost types candidates args
    ranked.Nodup ∧
    (∀ i, i ∈ ranked ↔ ∃ params, candidates[i]? = some params ∧ s.Viable types args params) ∧
    ranked.Pairwise (fun i j =>
      s.merit types candidates args i < s.merit types candidates args j) ∧
    (args.length < 2 ^ 28 → ∀ params, s.totalCost types args params < 2 ^ 32) ∧
    ∀ before added after, candidates = before ++ after →
      (s.rankByCost types (before ++ added :: after) args).filter (· ≠ before.length) =
        ranked.map fun i => if i < before.length then i else i + 1 := by
  refine ⟨s.nodup_rankByCost types candidates args, fun i => mem_rankByCost_iff,
    s.pairwise_merit types candidates args, fun hlength params => ?_,
    fun before added after hcandidates => ?_⟩
  · -- each argument costs at most a conversion to the root
    calc s.totalCost types args params ≤ args.length * Cost.toObject := s.totalCost_le ..
      _ ≤ 2 ^ 28 * 10 := Nat.mul_le_mul hlength.le (Nat.le_refl _)
      _ < 2 ^ 32 := by decide
  · rw [hcandidates]
    exact s.filter_rankByCost types before after added args

/-- Two candidates of one cost, of which the second has an exact match and is ranked first, also
with a candidate between them that takes too few parameters. -/
theorem ranked_exact_match_first :
    let lenient : List Parameter := [.required .scriptValue, .required (.integer .int32)]
    let exact : List Parameter := [.required .object, .required .string]
    let args : List ScriptValue := [.boolean true, .string "7"]
    args.length < 2 ^ 28 ∧
      Store.initial.totalCost .empty args lenient = Store.initial.totalCost .empty args exact ∧
      Store.initial.totalCost .empty args exact < 2 ^ 32 ∧
      Store.initial.rankByCost .empty [lenient, exact] args = [1, 0] ∧
      (Store.initial.rankByCost .empty [lenient, [], exact] args).filter (· ≠ 1) = [2, 0] := by
  intro lenient exact args
  obtain ⟨hnodup, hmem, hsorted, hbound, hinsert⟩ :=
    Store.initial.ranking_sorts_by_merit .empty [lenient, exact] args
  -- both cost the same, and the second has one exact match
  have hranked : Store.initial.rankByCost .empty [lenient, exact] args = [1, 0] := by
    have hlenient : Store.initial.standing? .empty args (lenient, 0) = some ⟨0, 10, 0⟩ := rfl
    have hexact : Store.initial.standing? .empty args (exact, 1) = some ⟨1, 10, 1⟩ := rfl
    simp [rankByCost, hlenient, hexact, List.mergeSort, Standing.notAfter]
  have hadded := hinsert [lenient] [] [exact] rfl
  rw [hranked] at hadded
  exact ⟨by decide, by decide, hbound (by decide) exact, hranked, hadded⟩

end Store

end Membrane
