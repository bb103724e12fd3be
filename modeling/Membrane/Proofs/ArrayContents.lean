import Mathlib.Data.List.Nodup
import Membrane.Proofs.IntegerTexts
import Membrane.Value.Script

/-!
# What a script array amounts to

To scripts an array is a list of elements together with a map of named values that keeps the order in
which the names came in (`ArrayContent`). The keys of an array are the canonical names of indices,
`length`, and the names that are neither (`ArrayKey`). What operations do is said here in terms of
lists: elements are set, the list is filled up with undefined or cut off, names are entered at the
end, changed in place and struck out.

## Key results

- `Name.index?_toString`: the canonical name of an index spells it
- `ArrayContent.getElem?_putElement`, `ArrayContent.getElem?_putLength`: what the list holds after a
  change
- `ArrayContent.undefined_after_clears`: elements that are deleted or cut off do not come back
- `ArrayContent.nodup_keys`: no key is listed twice
-/

namespace Membrane

/-! ### Keys -/

/-- The decimal digits of an index are a name of it. -/
theorem Name.index?_toString {i : ℕ} (hi : i < 2 ^ 32) : Name.index? (toString i) = some i := by
  have htext : (toString i).toList = Nat.toDigits 10 i := String.toList_ofList
  have hnumeral := isNumeral_toDigits i
  obtain ⟨hdigits, hvalue⟩ := isNumeral_iff.1 hnumeral
  unfold Name.index?
  rw [htext]
  split
  · next rest hplus =>
    -- no digit is a plus sign
    exact absurd (hnumeral.isDigit '+' (by rw [hplus]; exact List.mem_cons_self)) (by decide)
  · have hbound : i < 1 <<< 32 := by
      rw [Nat.one_shiftLeft]
      exact hi
    simp only [hdigits, hvalue, decide_eq_true hbound, Bool.and_true, if_true]

/-- They are not the name of the length. -/
theorem Name.toString_beq_length {i : ℕ} (hi : i < 2 ^ 32) : (toString i == "length") = false := by
  rw [beq_eq_false_iff_ne]
  intro hsame
  have hindex := Name.index?_toString hi
  rw [hsame] at hindex
  cases hindex

/-- A name that is neither an index nor that of the length. -/
@[ext]
structure ArrayName where
  text : String
  isIndex_text : Name.isIndex text = false
  text_ne : text ≠ "length"
  deriving DecidableEq

namespace ArrayName

/-- The text of such a name is no index. -/
theorem index?_text (name : ArrayName) : Name.index? name.text = none := by
  simpa [Name.isIndex] using name.isIndex_text

/-- Nor is it the name of the length. -/
theorem beq_length (name : ArrayName) : (name.text == "length") = false := beq_false_of_ne name.text_ne

end ArrayName

/-- What an operation on an array is about. -/
inductive ArrayKey where
  | element (i : ℕ) (h : i < 2 ^ 32)
  | length
  | named (name : ArrayName)

/-- The name under which a script knows a key. -/
def ArrayKey.text : ArrayKey → String
  | .element i _ => toString i
  | .length => "length"
  | .named name => name.text

/-! ### Contents -/

/-- Named values with a value put under a name. -/
def entered (name : ArrayName) (value : ScriptValue) (named : List (ArrayName × ScriptValue)) :
    List (ArrayName × ScriptValue) :=
  if name ∈ named.map Prod.fst then
    named.map fun entry => if entry.1 = name then (name, value) else entry
  else named ++ [(name, value)]

section Named

variable {name : ArrayName} {value : ScriptValue} {named : List (ArrayName × ScriptValue)}

/-- A value that is entered under a name leaves the names distinct. -/
theorem nodup_entered (h : (named.map Prod.fst).Nodup) :
    ((entered name value named).map Prod.fst).Nodup := by
  unfold entered
  split
  · -- the name is there: its value is replaced, and the names stay
    have hnames : (named.map fun entry => if entry.1 = name then (name, value) else entry).map
        Prod.fst = named.map Prod.fst := by
      rw [List.map_map]
      refine List.map_congr_left fun entry _ => ?_
      by_cases h : entry.1 = name <;> simp [h]
    rwa [hnames]
  · next hnew =>
    -- the name is new, and stands at the end
    rw [List.map_append, List.map_singleton, List.nodup_append]
    refine ⟨h, List.pairwise_singleton _ _, ?_⟩
    rintro a ha b hb rfl
    obtain rfl := List.mem_singleton.1 hb
    exact hnew ha

/-- A name is found at the head, or looked for behind it. -/
theorem entered_cons {other : ArrayName} {v : ScriptValue}
    (h : (((other, v) :: named).map Prod.fst).Nodup) :
    entered name value ((other, v) :: named) =
      if name = other then (other, value) :: named else (other, v) :: entered name value named := by
  by_cases hname : name = other
  · subst hname
    -- the first entry has the name, so no other one does
    have hrest : ∀ entry ∈ named, (if entry.1 = name then (name, value) else entry) = entry := by
      intro entry hentry
      refine if_neg fun hsame => (List.nodup_cons.1 h).1 ?_
      exact List.mem_map.2 ⟨entry, hentry, hsame⟩
    simp [entered, List.map_congr_left hrest]
  · have hother : ¬ other = name := Ne.symm hname
    simp only [entered, List.map_cons, List.mem_cons, hname, false_or, hother, if_false]
    split <;> rfl

end Named

/-- The elements of an array, and its named values in the order in which their names came in. -/
structure ArrayContent where
  elements : List ScriptValue
  named : List (ArrayName × ScriptValue)
  distinct : (named.map Prod.fst).Nodup

namespace ArrayContent

/-- An element is replaced; one at or beyond the end extends the list, with undefined in between. -/
def putElement (c : ArrayContent) (i : ℕ) (value : ScriptValue) : ArrayContent :=
  { c with elements :=
      if i < c.elements.length then c.elements.set i value
      else c.elements ++ List.replicate (i - c.elements.length) .undefined ++ [value] }

/-- The list is cut off, or filled up with undefined. -/
def putLength (c : ArrayContent) (size : ℕ) : ArrayContent :=
  { c with elements :=
      c.elements.take size ++ List.replicate (size - c.elements.length) .undefined }

/-- The value of a name is replaced where it stands; a name that is not there comes in at the end,
also if it was struck out before. -/
def putNamed (c : ArrayContent) (name : ArrayName) (value : ScriptValue) : ArrayContent where
  elements := c.elements
  named := entered name value c.named
  distinct := nodup_entered c.distinct

/-- An element becomes undefined where it stands. -/
def deleteElement (c : ArrayContent) (i : ℕ) : ArrayContent :=
  { c with elements := c.elements.set i .undefined }

/-- A name is struck out. -/
def deleteNamed (c : ArrayContent) (name : ArrayName) : ArrayContent where
  elements := c.elements
  named := c.named.filter (·.1 ≠ name)
  distinct := c.distinct.sublist (List.filter_sublist.map Prod.fst)

/-- What stands under a key. -/
def find? (c : ArrayContent) : ArrayKey → Option ScriptValue
  | .element i _ => c.elements[i]?
  | .length => some (.number (.ofInt c.elements.length))
  | .named name => c.named.lookup name

/-- The names of all elements in order, followed by the names of the named values in the order in
which they came in. -/
def keys (c : ArrayContent) : List String :=
  (List.range c.elements.length).map toString ++ c.named.map (·.1.text)

end ArrayContent

/-! ### Operations -/

/-- A step of a script with an array. What is put as the length is a whole number below `2 ^ 32`. -/
inductive ArrayOperation where
  | putElement (i : ℕ) (h : i < 2 ^ 32) (value : ScriptValue) (strict : Bool)
  | putLength (size : ℕ) (h : size < 2 ^ 32) (number : Double) (hnumber : number.whole? = some size)
      (strict : Bool)
  | putNamed (name : ArrayName) (value : ScriptValue) (strict : Bool)
  | delete (key : ArrayKey) (strict : Bool)
  | get (key : ArrayKey)

/-- What the operation is about. -/
def ArrayOperation.key : ArrayOperation → ArrayKey
  | .putElement i h .. => .element i h
  | .putLength .. => .length
  | .putNamed name .. => .named name
  | .delete key _ => key
  | .get key => key

/-- The operation puts a value at the index. -/
def ArrayOperation.puts (i : ℕ) : ArrayOperation → Prop
  | .putElement j .. => j = i
  | _ => False

/-- The operation deletes the element at the index, or cuts it off. -/
def ArrayOperation.clears (i : ℕ) : ArrayOperation → Prop
  | .putLength size .. => size ≤ i
  | .delete (.element j _) _ => j = i
  | _ => False

/-- What a script learns from an operation. -/
inductive ArrayReply where
  | done
  | deleted (success : Bool)
  | read (value : ScriptValue)

namespace ArrayContent

/-- The reply to an operation, and what the array amounts to afterwards. -/
def perform (c : ArrayContent) : ArrayOperation → ArrayReply × ArrayContent
  | .putElement i _ value _ => (.done, c.putElement i value)
  | .putLength size .. => (.done, c.putLength size)
  | .putNamed name value _ => (.done, c.putNamed name value)
  | .delete (.element i _) _ => (.deleted true, c.deleteElement i)
  | .delete .length _ => (.deleted false, c)
  | .delete (.named name) _ => (.deleted true, c.deleteNamed name)
  | .get key => (.read ((c.find? key).getD .undefined), c)

/-- The replies to a history of operations, and what the array amounts to at its end. -/
def performAll (c : ArrayContent) : List ArrayOperation → List ArrayReply × ArrayContent
  | [] => ([], c)
  | op :: rest =>
      let (reply, c) := c.perform op
      let (replies, c) := performAll c rest
      (reply :: replies, c)

variable {c : ArrayContent} {i j size : ℕ} {value : ScriptValue}

/-- What is below the old end and not set stays, and what comes in between is undefined. -/
theorem getElem?_putElement :
    (c.putElement i value).elements[j]? =
      if j = i then some value
      else if j < c.elements.length then c.elements[j]?
      else if j < i then some .undefined else none := by
  unfold putElement
  -- the array has the element, or grows by it and by what is missing below it
  by_cases hi : i < c.elements.length
  · simp only [hi, if_true, List.getElem?_set]
    by_cases hj : i = j
    · subst hj
      simp only [if_true]
    · have hbeyond : ¬ j < c.elements.length → c.elements[j]? = none := fun h =>
        List.getElem?_eq_none (by omega)
      rw [if_neg hj, if_neg (Ne.symm hj)]
      split_ifs with hlt
      · rfl
      · omega
      · exact hbeyond hlt
  · simp only [hi, if_false, List.append_assoc, List.getElem?_append, List.getElem?_replicate,
      List.length_replicate]
    -- within the old elements, between them and the new one, at it, and beyond
    by_cases hlt : j < c.elements.length
    · rw [if_pos hlt, if_neg (by omega), if_pos hlt]
    · rw [if_neg hlt, if_neg hlt]
      obtain hbetween | rfl | hgt := Nat.lt_trichotomy j i
      · rw [if_pos (by omega), if_pos (by omega), if_neg (by omega), if_pos hbetween]
      · simp
      · rw [if_neg (by omega), if_neg (by omega), if_neg (by omega)]
        exact List.getElem?_eq_none (by simp; omega)

/-- What is cut off is gone, and what is filled up is undefined. -/
theorem getElem?_putLength :
    (c.putLength size).elements[j]? =
      if j < size then some (c.elements[j]?.getD .undefined) else none := by
  unfold putLength
  simp only [List.getElem?_append, List.getElem?_take, List.length_take, List.getElem?_replicate]
  -- within the new length there are old elements and filled up ones
  by_cases hsize : j < size
  · by_cases hlt : j < c.elements.length
    · rw [if_pos (by omega), if_pos hsize, if_pos hsize, List.getElem?_eq_getElem hlt]
      rfl
    · rw [if_neg (by omega), if_pos (by omega), if_pos hsize, List.getElem?_eq_none (by omega)]
      rfl
  · rw [if_neg (by omega), if_neg (by omega), if_neg hsize]

/-- What is cleared is undefined. -/
theorem undefined_of_clears {op : ArrayOperation} (hop : op.clears i) :
    (c.perform op).2.elements[i]?.getD .undefined = .undefined := by
  -- only lengths and deletions clear an element
  cases op with
  | putLength size =>
    rw [perform, getElem?_putLength, if_neg (Nat.not_lt.2 hop)]
    rfl
  | delete key strict =>
    cases key with
    | element j hj =>
      obtain rfl : j = i := hop
      rw [perform, deleteElement, List.getElem?_set, if_pos rfl]
      split_ifs <;> rfl
    | length => cases hop
    | named name => cases hop
  | putElement => cases hop
  | putNamed => cases hop
  | get => cases hop

/-- What is undefined stays so unless something is put in its place. -/
theorem undefined_perform (h : c.elements[i]?.getD .undefined = .undefined) {op : ArrayOperation}
    (hop : ¬ op.puts i) : (c.perform op).2.elements[i]?.getD .undefined = .undefined := by
  -- only a write to this element puts something else in its place
  cases op with
  | putElement j hj value strict =>
    have hne : i ≠ j := fun hsame => hop hsame.symm
    rw [perform, getElem?_putElement, if_neg hne]
    split_ifs
    · exact h
    · rfl
    · rfl
  | putLength size =>
    rw [perform, getElem?_putLength, h]
    split_ifs <;> rfl
  | delete key strict =>
    cases key with
    | element j hj =>
      rw [perform, deleteElement, List.getElem?_set]
      split_ifs
      · rfl
      · rfl
      · exact h
    | length => exact h
    | named name => exact h
  | putNamed => exact h
  | get => exact h

/-- What reads undefined does so after any operations that do not put it. -/
theorem undefined_performAll (h : c.elements[i]?.getD .undefined = .undefined)
    {ops : List ArrayOperation} (hops : ∀ op ∈ ops, ¬ op.puts i) :
    (c.performAll ops).2.elements[i]?.getD .undefined = .undefined := by
  induction ops generalizing c with
  | nil => exact h
  | cons op rest ih =>
    exact ih (undefined_perform h (hops op List.mem_cons_self)) fun op' hop' =>
      hops op' (List.mem_cons_of_mem _ hop')

/-- Operations in two parts are done one part after the other. -/
theorem performAll_append (before after : List ArrayOperation) :
    (c.performAll (before ++ after)).2 = ((c.performAll before).2.performAll after).2 := by
  induction before generalizing c with
  | nil => rfl
  | cons op rest ih => exact ih

/-- Elements that are deleted or cut off do not come back by themselves. -/
theorem undefined_after_clears {before after : List ArrayOperation} {op : ArrayOperation}
    (hop : op.clears i) (hafter : ∀ op' ∈ after, ¬ op'.puts i) :
    (c.performAll (before ++ op :: after)).2.elements[i]?.getD .undefined = .undefined := by
  rw [performAll_append]
  exact undefined_performAll (undefined_of_clears hop) hafter

/-- A name that is not there cannot be struck out. -/
theorem deleteNamed_of_lookup {name : ArrayName} (h : c.named.lookup name = none) :
    c.deleteNamed name = c := by
  have hkept : c.named.filter (·.1 ≠ name) = c.named := by
    refine List.filter_eq_self.2 fun entry hentry => ?_
    have hne : name ≠ entry.1 := by simpa using List.lookup_eq_none_iff.1 h entry hentry
    exact decide_eq_true hne.symm
  simp only [deleteNamed, hkept]

/-- No operation makes an array longer than there are indices. -/
theorem length_perform_le (h : c.elements.length ≤ 2 ^ 32) (op : ArrayOperation) :
    (c.perform op).2.elements.length ≤ 2 ^ 32 := by
  cases op with
  | putElement i hi value strict =>
    simp only [perform, putElement]
    split
    · rwa [List.length_set]
    · simp only [List.length_append, List.length_replicate, List.length_singleton]
      -- an element has an index below the bound, so the array grows to the bound at most
      omega
  | putLength size hsize =>
    simp only [perform, putLength, List.length_append, List.length_take, List.length_replicate]
    omega
  | putNamed => exact h
  | delete key strict =>
    cases key with
    | element i hi =>
      simp only [perform, deleteElement]
      rwa [List.length_set]
    | length => exact h
    | named name => exact h
  | get => exact h

/-- No operations bring an array beyond the bound. -/
theorem length_performAll_le (h : c.elements.length ≤ 2 ^ 32) (ops : List ArrayOperation) :
    (c.performAll ops).2.elements.length ≤ 2 ^ 32 := by
  induction ops generalizing c with
  | nil => exact h
  | cons op rest ih => exact ih (length_perform_le h op)

/-- No key is listed twice, as long as every element has an index. -/
theorem nodup_keys (h : c.elements.length ≤ 2 ^ 32) : c.keys.Nodup := by
  have hindex {i : ℕ} (hi : i ∈ List.range c.elements.length) :
      Name.index? (toString i) = some i :=
    Name.index?_toString (Nat.lt_of_lt_of_le (List.mem_range.1 hi) h)
  rw [keys, List.nodup_append]
  refine ⟨?_, ?_, ?_⟩
  · refine List.nodup_range.map_on fun i hi j hj hsame => ?_
    have hfound := hindex hi
    rw [hsame, hindex hj] at hfound
    exact (Option.some.inj hfound).symm
  · have hnames : c.named.map (·.1.text) = (c.named.map Prod.fst).map ArrayName.text := by
      rw [List.map_map]
      rfl
    rw [hnames]
    exact c.distinct.map fun _ _ => ArrayName.ext
  · rintro a ha b hb rfl
    obtain ⟨i, hi, rfl⟩ := List.mem_map.1 ha
    obtain ⟨entry, -, hname⟩ := List.mem_map.1 hb
    -- a name that spells an index is no other name
    have hother := entry.1.isIndex_text
    rw [hname, Name.isIndex, hindex hi] at hother
    cases hother

end ArrayContent

end Membrane
