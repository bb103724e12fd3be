import Mathlib.Data.List.Induction
import Mathlib.Logic.ExistsUnique
import Membrane.Object.SlotTable

/-!
# Slot tables follow their history

A history is a list of operations on a table that was empty before them. It says of a name what the
last operation on that name leaves there (`SlotOperation.said`). A name that is not unset in the end
is in use since the operation that found it unset last (`SlotOperation.InUseSince`), which a
deletion does not change and a removal does. The states in the table are those that the history
says, and the order of its names is the order of these operations.

## Key results

- `SlotTable.state_perform`, `SlotTable.names_perform`: one operation
- `SlotTable.state_after`, `SlotTable.pairwise_names_after`: a history of operations
- `SlotTable.table_follows_history`: the table and its live names after a history
-/

namespace Membrane

/-- An operation on a name of a slot table. -/
inductive SlotOperation (α : Type) where
  | setLive (name : String) (a : α)
  | markDeleted (name : String)
  | remove (name : String)

namespace SlotOperation

variable {α : Type}

/-- The name that the operation is on. -/
def name : SlotOperation α → String
  | setLive name _ => name
  | markDeleted name => name
  | remove name => name

/-- What the operation leaves under its name; `none` when the name is unset then. -/
def outcome : SlotOperation α → Option (Slot α)
  | setLive _ a => some (.live a)
  | markDeleted _ => some .deleted
  | remove _ => none

/-- What a history says of a name: what the last operation on that name leaves, if there is one. -/
def said (ops : List (SlotOperation α)) (name : String) : Option (Slot α) :=
  (ops.filter (·.name = name)).getLast?.bind outcome

/-- The name is in use since the operation at `i`: that found it unset, and no later one does. -/
structure InUseSince (ops : List (SlotOperation α)) (name : String) (i : ℕ) : Prop where
  lt_length : i < ops.length
  unset : said (ops.take i) name = none
  used : ∀ j, i < j → j ≤ ops.length → (said (ops.take j) name).isSome

/-! ### Histories -/

variable {ops : List (SlotOperation α)} {op : SlotOperation α} {name : String} {i j : ℕ}

/-- The last operation speaks for its own name and leaves the others. -/
theorem said_concat (ops : List (SlotOperation α)) (op : SlotOperation α) (name : String) :
    said (ops ++ [op]) name = if op.name = name then op.outcome else said ops name := by
  unfold said
  rw [List.filter_append]
  split
  · next heq => simp [heq]
  · next hne => simp [hne]

/-- What was said before one more operation. -/
theorem said_take_concat (op : SlotOperation α) (hi : i ≤ ops.length) :
    said ((ops ++ [op]).take i) name = said (ops.take i) name := by
  rw [List.take_append_of_le_length hi]

/-- What is said once the one more operation is done. -/
theorem said_take_of_length_lt (op : SlotOperation α) (hi : ops.length < i) :
    said ((ops ++ [op]).take i) name = said (ops ++ [op]) name := by
  rw [List.take_of_length_le (by simpa [Nat.succ_le_iff] using hi)]

namespace InUseSince

/-- A name is in use since one operation at most. -/
theorem unique (hi : InUseSince ops name i) (hj : InUseSince ops name j) : i = j := by
  rcases Nat.lt_trichotomy i j with hlt | heq | hgt
  · simpa [hj.unset] using hi.used j hlt (Nat.le_of_lt hj.lt_length)
  · exact heq
  · simpa [hi.unset] using hj.used i hgt (Nat.le_of_lt hi.lt_length)

/-- A name stays in use when one more operation does not remove it. -/
theorem concat (h : InUseSince ops name i) (hop : (said (ops ++ [op]) name).isSome) :
    InUseSince (ops ++ [op]) name i where
  lt_length := by
    rw [List.length_append]
    exact Nat.lt_add_right _ h.lt_length
  unset := by
    rw [said_take_concat op (Nat.le_of_lt h.lt_length)]
    exact h.unset
  used j hij hj := by
    -- the whole history is the one prefix that is new
    rcases Nat.lt_or_ge ops.length j with hlast | hearlier
    · rwa [said_take_of_length_lt op hlast]
    · rw [said_take_concat op hearlier]
      exact h.used j hij hearlier

/-- A use that began, began at the last operation or earlier. -/
theorem le_length_of_concat (h : InUseSince (ops ++ [op]) name i) : i ≤ ops.length := by
  simpa [Nat.lt_succ_iff] using h.lt_length

/-- One more operation begins no use of a name that is in use. -/
theorem of_concat (hused : (said ops name).isSome) (h : InUseSince (ops ++ [op]) name i) :
    InUseSince ops name i := by
  have hle := h.le_length_of_concat
  have hunset : said (ops.take i) name = none := by
    rw [← said_take_concat op hle]
    exact h.unset
  -- the name was in use before the last operation, so its use did not begin there
  have hne : i ≠ ops.length := by
    rintro rfl
    rw [List.take_length] at hunset
    simp [hunset] at hused
  refine ⟨Nat.lt_of_le_of_ne hle hne, hunset, fun j hij hj => ?_⟩
  rw [← said_take_concat op hj]
  exact h.used j hij (by simpa using Nat.le_succ_of_le hj)

/-- The use of a name that was unset begins with the one more operation. -/
theorem eq_length_of_concat (hunset : said ops name = none)
    (h : InUseSince (ops ++ [op]) name i) : i = ops.length := by
  by_contra hne
  have hlt : i < ops.length := Nat.lt_of_le_of_ne h.le_length_of_concat hne
  have hused := h.used ops.length hlt (by simp)
  rw [said_take_concat op (Nat.le_refl _), List.take_length, hunset] at hused
  cases hused

end InUseSince

/-- A name that has a slot is in use since some operation. -/
theorem exists_inUseSince (hused : (said ops name).isSome) : ∃ i, InUseSince ops name i := by
  induction ops using List.reverseRecOn with
  | nil => cases hused
  | append_singleton ops op ih =>
    cases hbefore : said ops name with
    | some slot =>
      obtain ⟨i, hi⟩ := ih (by rw [hbefore]; rfl)
      exact ⟨i, hi.concat hused⟩
    | none =>
      -- the use begins with this operation
      refine ⟨ops.length, by simp, by simpa using hbefore, fun j hlt _ => ?_⟩
      rwa [said_take_of_length_lt op hlt]

end SlotOperation

/-! ### Tables -/

namespace SlotTable

open SlotOperation

variable {α : Type} {ops : List (SlotOperation α)} {name : String}

/-- The table after an operation. -/
def perform (t : SlotTable α) : SlotOperation α → SlotTable α
  | .setLive name a => t.setLive name a
  | .markDeleted name => t.markDeleted name
  | .remove name => t.remove name

/-- The table after a history of operations. -/
def after (ops : List (SlotOperation α)) : SlotTable α := ops.foldl perform empty

/-- The table after one more operation. -/
theorem after_concat (ops : List (SlotOperation α)) (op : SlotOperation α) :
    after (ops ++ [op]) = (after ops).perform op := by
  simp [after]

/-- An operation decides the state of its own name. -/
theorem state_perform (t : SlotTable α) (op : SlotOperation α) (name : String) :
    (t.perform op).state name = if op.name = name then op.outcome else t.state name := by
  -- an operation acts on the slot of its own name only
  split
  · next heq =>
    subst heq
    cases op <;> simp [perform, SlotOperation.name, outcome]
  · next hne =>
    cases op with
    | setLive other a => exact t.state_setLive_of_ne a (Ne.symm hne)
    | markDeleted other => exact t.state_markDeleted_of_ne (Ne.symm hne)
    | remove other => exact t.state_remove_of_ne (Ne.symm hne)

/-- An operation that leaves a slot adds its name, unless it is known; the other takes it out. -/
theorem names_perform (t : SlotTable α) (op : SlotOperation α) :
    (t.perform op).names =
      if op.outcome.isSome then
        if op.name ∈ t.names then t.names else t.names ++ [op.name]
      else t.names.filter (· != op.name) := by
  cases op with
  | setLive name a => exact t.names_setLive name a
  | markDeleted name => exact t.names_markDeleted name
  | remove name => exact t.names_remove name

/-- The state of a slot is what the last operation on its name said. -/
theorem state_after (ops : List (SlotOperation α)) (name : String) :
    (after ops).state name = said ops name := by
  induction ops using List.reverseRecOn with
  | nil => rfl
  | append_singleton ops op ih => rw [after_concat, state_perform, said_concat, ih]

/-- The names of the table are those in use. -/
theorem mem_names_after : name ∈ (after ops).names ↔ (said ops name).isSome := by
  rw [mem_names_iff, state_after]

/-- The names stand in the order of the operations since which they are in use. -/
theorem pairwise_names_after (ops : List (SlotOperation α)) :
    (after ops).names.Pairwise fun a b =>
      ∀ i j, InUseSince ops a i → InUseSince ops b j → i < j := by
  induction ops using List.reverseRecOn with
  | nil => exact .nil
  | append_singleton ops op ih =>
    -- names that were known before are in use since the same operations
    have hknown : (after ops).names.Pairwise fun a b =>
        ∀ i j, InUseSince (ops ++ [op]) a i → InUseSince (ops ++ [op]) b j → i < j :=
      ih.imp_of_mem fun ha hb hlt i j hi hj =>
        hlt i j (hi.of_concat (mem_names_after.1 ha)) (hj.of_concat (mem_names_after.1 hb))
    rw [after_concat, names_perform]
    split
    · split
      · exact hknown
      · next hnew =>
        -- the new name is in use since this operation, so later than any other
        refine List.pairwise_append.2 ⟨hknown, List.pairwise_singleton .., ?_⟩
        intro a ha b hb i j hi hj
        rw [List.mem_singleton.1 hb] at hj
        have hunset : said ops op.name = none := by
          simpa [mem_names_after] using hnew
        calc i < ops.length := (hi.of_concat (mem_names_after.1 ha)).lt_length
          _ = j := (hj.eq_length_of_concat hunset).symm
    · exact hknown.filter _

/-- Live names are those whose slot is live. -/
theorem mem_liveNames_iff {t : SlotTable α} :
    name ∈ t.liveNames ↔ ∃ a, t.state name = some (.live a) := by
  simp only [liveNames, List.mem_filter, Option.isSome_iff_exists, get?_eq_some_iff,
    and_iff_right_iff_imp, mem_names_iff]
  rintro ⟨a, ha⟩
  exact ⟨_, ha⟩

/-- **Slot tables follow their history.** After any operations on an empty table, the names in its
order are exactly the keys of its map, each of them once. The state of a name is what the last
operation on it says. The live names are listed once each and are as many as are counted; each is in
use since exactly one operation, and they stand in the order of these operations. -/
theorem table_follows_history (ops : List (SlotOperation α)) :
    let t := after ops
    (t.names.Nodup ∧ (t.contents.map (·.1)).Perm t.names) ∧
    (∀ name, t.state name = said ops name) ∧
    (t.liveNames.Nodup ∧ ∀ name, name ∈ t.liveNames ↔ ∃ a, t.state name = some (.live a)) ∧
    (∀ name ∈ t.liveNames, ∃! i, InUseSince ops name i) ∧
    t.liveNames.Pairwise (fun a b => ∀ i j, InUseSince ops a i → InUseSince ops b j → i < j) ∧
    t.liveNames.length = t.liveCount := by
  intro t
  refine ⟨⟨t.nodup_names, t.perm_names⟩, state_after ops,
    ⟨t.nodup_names.filter _, fun name => mem_liveNames_iff⟩, fun name hlive => ?_,
    (pairwise_names_after ops).filter _, t.length_liveNames⟩
  -- a live name is in use, and its use has one beginning
  obtain ⟨i, hi⟩ := exists_inUseSince (mem_names_after.1 (List.mem_filter.1 hlive).1)
  exact ⟨i, hi, fun j hj => hj.unique hi⟩

/-- A name that is deleted and bound again keeps its place; one that is removed and bound again goes
to the end. -/
theorem removed_name_rejoins_last :
    let ops : List (SlotOperation ℕ) :=
      [.setLive "b" 1, .setLive "a" 2, .markDeleted "b", .setLive "c" 3, .setLive "b" 4,
        .remove "a", .setLive "a" 5, .markDeleted "ghost"]
    let t := after ops
    t.liveNames = ["b", "c", "a"] ∧ t.liveCount = 3 ∧ t.state "ghost" = some .deleted ∧
      (∃! i, InUseSince ops "a" i) ∧
      ∀ i j, InUseSince ops "c" i → InUseSince ops "a" j → i < j := by
  intro ops t
  have hlive : t.liveNames = ["b", "c", "a"] := by decide +kernel
  obtain ⟨-, hstate, -, hsince, horder, hcount⟩ := table_follows_history ops
  -- `a` was removed, so its use began anew, after that of `c`
  refine ⟨hlive, ?_, ?_, hsince "a" (by rw [hlive]; decide), ?_⟩
  · rw [← hcount, hlive]
    rfl
  · rw [hstate]
    decide +kernel
  · rw [hlive] at horder
    exact (List.pairwise_cons.1 (List.pairwise_cons.1 horder).2).1 "a" List.mem_cons_self

end SlotTable

end Membrane
