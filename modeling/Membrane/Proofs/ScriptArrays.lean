import Membrane.Proofs.ArrayContents
import Membrane.Proofs.Absence
import Membrane.Proofs.Definitions
import Membrane.Proofs.EndlessConversion

/-!
# Script arrays refine lists

A script array keeps its elements apart from its slots, and four functions decide by the name which of
the two an operation goes to. Together they make the array a list with a map of named values beside it
(`Store.HasContent`): every operation does to the content what it does to the list or to the map, and
replies as these do (`Realm.access_array`), as long as no object behind the array has the property in
question.

## Key results

- `Realm.access_array`: one operation
- `Realm.arrays_refine_lists`: a history of operations
-/

namespace Membrane

/-! ### Contents -/

/-- The slots that named values stand in. -/
def slotsOf (named : List (ArrayName × ScriptValue)) : List (String × Slot Descriptor) :=
  named.map fun entry => (entry.1.text, .live (.plain entry.2))

section Slots

variable {name : ArrayName} {value : ScriptValue} {named : List (ArrayName × ScriptValue)}

/-- The first named value has the first slot. -/
theorem slotsOf_cons (entry : ArrayName × ScriptValue) (named : List (ArrayName × ScriptValue)) :
    slotsOf (entry :: named) = (entry.1.text, .live (.plain entry.2)) :: slotsOf named := rfl

/-- A slot is found exactly where the value has its name. -/
theorem lookup_slotsOf :
    (slotsOf named).lookup name.text = (named.lookup name).map fun v => .live (.plain v) := by
  induction named with
  | nil => rfl
  | cons entry rest ih =>
    obtain ⟨other, v⟩ := entry
    -- array names are equal exactly when their texts are, and the table compares texts
    by_cases hname : name = other
    · subst hname
      simp [slotsOf_cons]
    · have htext : name.text ≠ other.text := mt ArrayName.ext hname
      simp [slotsOf_cons, List.lookup_cons, ih, beq_false_of_ne hname, beq_false_of_ne htext]

/-- A value entered under a name changes the slots as it changes the named values. -/
theorem putSlot_slotsOf (h : (named.map Prod.fst).Nodup) :
    SlotTable.putSlot name.text (.live (.plain value)) (slotsOf named) =
      slotsOf (entered name value named) := by
  induction named with
  | nil => rfl
  | cons entry rest ih =>
    obtain ⟨other, v⟩ := entry
    -- the name stands at most once, so a value entered at the head leaves the rest alone
    rw [entered_cons h, slotsOf_cons, SlotTable.putSlot]
    by_cases hname : name = other
    · subst hname
      simp only [if_true, slotsOf_cons]
    · have htext : name.text ≠ other.text := mt ArrayName.ext hname
      simp only [if_neg hname, if_neg htext, slotsOf_cons, ih (List.nodup_cons.1 h).2]

/-- Names have a slot each, so striking out the one strikes out the other. -/
theorem filter_slotsOf :
    (slotsOf named).filter (·.1 != name.text) = slotsOf (named.filter (·.1 ≠ name)) := by
  rw [slotsOf, slotsOf, List.filter_map]
  congr 1
  refine List.filter_congr fun entry _ => ?_
  by_cases hname : entry.1 = name
  · simp [hname]
  · have htext : entry.1.text ≠ name.text := mt ArrayName.ext hname
    simp [hname, htext]

end Slots

/-- The array amounts to the content. -/
structure Store.HasContent (s : Store) (id : ObjectId) (c : ArrayContent) : Prop where
  elements : s.elements? id = some c.elements.toArray
  slots : (s.slots id).slots = slotsOf c.named

namespace Store

variable {s : Store} {id : ObjectId} {c c' : ArrayContent}

/-- A new array has its elements and no named values. -/
theorem hasContent_newArray (s : Store) (elements : List ScriptValue) :
    ∃ id, (s.newArray elements).1 = .object id ∧
      (s.newArray elements).2.HasContent id ⟨elements, [], List.nodup_nil⟩ := by
  have hobject : (s.newArray elements).2.object? (.created s.heap.created.size) =
      some (.make (.array elements.toArray) (some arrayPrototype)) := s.heap.object?_create_self _
  refine ⟨_, rfl, ?_, ?_⟩
  · simp only [elements?, sort?, hobject]
    rfl
  · simp only [slots, hobject]
    rfl

namespace HasContent

/-- An array with a content is an object of the store. -/
theorem object (h : s.HasContent id c) : (s.object? id).isSome := by
  obtain ⟨o, ho, -⟩ := Option.map_eq_some_iff.1 (elements?_eq_some_iff.1 h.elements)
  rw [ho]
  rfl

/-- New elements leave the named values as they are. -/
theorem setElements (h : s.HasContent id c) (hnamed : c'.named = c.named) :
    (s.setElements id c'.elements.toArray).HasContent id c' where
  elements := elements?_setElements_self h.elements
  slots := by
    rw [hnamed, ← h.slots]
    obtain ⟨o, ho⟩ := Option.isSome_iff_exists.1 h.object
    have hnew : (s.setElements id c'.elements.toArray).object? id =
        some { o with sort := .array c'.elements.toArray } := by
      show (s.heap.modify id _).object? id = _
      rw [Heap.object?_modify_self, show s.heap.object? id = some o from ho]
      rfl
    simp only [Store.slots, hnew, ho]
    rfl

/-- New named values leave the elements as they are. -/
theorem modifySlots (h : s.HasContent id c) {f : SlotTable Descriptor → SlotTable Descriptor}
    (helements : c'.elements = c.elements)
    (hslots : (f (s.slots id)).slots = slotsOf c'.named) :
    (s.modifySlots id f).HasContent id c' where
  elements := by
    rw [helements, elements?_eq_some_iff, s.sort?_modifySlots]
    exact elements?_eq_some_iff.1 h.elements
  slots := by rw [slots_modifySlots_self s f h.object, hslots]

/-- A named value is what stands in the slot. -/
theorem get?_slots (h : s.HasContent id c) (name : ArrayName) :
    (s.slots id).get? name.text = (c.named.lookup name).map .plain := by
  rw [SlotTable.get?, ← SlotTable.lookup_slots, h.slots, lookup_slotsOf]
  cases c.named.lookup name <;> rfl

/-- A value that is put under a name is entered in its slot. -/
theorem setLive (h : s.HasContent id c) (name : ArrayName) (value : ScriptValue) :
    (s.modifySlots id (·.setLive name.text (.plain value))).HasContent id
      (c.putNamed name value) := by
  refine h.modifySlots rfl ?_
  rw [SlotTable.slots_setLive, h.slots]
  exact putSlot_slotsOf c.distinct

/-- A name that is struck out is removed from the table. -/
theorem remove (h : s.HasContent id c) (name : ArrayName) :
    (s.modifySlots id (·.remove name.text)).HasContent id (c.deleteNamed name) := by
  refine h.modifySlots rfl ?_
  rw [SlotTable.slots_remove, h.slots]
  exact filter_slotsOf

end HasContent

end Store

/-! ### Operations -/

namespace Realm

open Action

variable {R : Realm} {s : Store} {id : ObjectId} {c : ArrayContent}

/-- An operation on an array. -/
def access (R : Realm) (id : ObjectId) : ArrayOperation → Action BridgeError ArrayReply
  | .putElement i _ value strict => do
      R.put id (toString i) value strict
      return .done
  | .putLength _ _ number _ strict => do
      R.put id "length" (.number number) strict
      return .done
  | .putNamed name value strict => do
      R.put id name.text value strict
      return .done
  | .delete key strict => return .deleted (← R.delete id key.text strict)
  | .get key => return .read (← R.get id key.text)

/-- A named value is found in its slot. -/
theorem ownProperty_named (E : Engine) (h : s.HasContent id c) (name : ArrayName) :
    E.ownProperty s id name.text =
      ((c.named.lookup name).map fun v => ⟨.plain v, some (id, name.text)⟩, s) := by
  have hsort := Store.elements?_eq_some_iff.1 h.elements
  simp only [Engine.ownProperty, hsort, name.index?_text, name.beq_length, Engine.tableSlot,
    h.get?_slots]
  cases c.named.lookup name <;> rfl

/-- The own property under a key is the value that stands there. -/
theorem ownProperty_of_content (E : Engine) (h : s.HasContent id c) (key : ArrayKey) :
    ∃ flags home, E.ownProperty s id key.text =
      ((c.find? key).map fun v => ⟨.data v flags, home⟩, s) := by
  have hsort := Store.elements?_eq_some_iff.1 h.elements
  -- the length is computed, an element is read from the list, a name from its slot
  cases key with
  | length =>
    refine ⟨⟨true, false, false⟩, none, ?_⟩
    simp [Engine.ownProperty, hsort, ArrayKey.text, ArrayContent.find?]
  | element i hi =>
    refine ⟨.all, none, ?_⟩
    simp only [Engine.ownProperty, hsort, ArrayKey.text, ArrayContent.find?, Name.index?_toString hi,
      Name.toString_beq_length hi, List.getElem?_toArray]
    rfl
  | named name =>
    exact ⟨.all, some (id, name.text), ownProperty_named E h name⟩

/-- A read gives what stands under the key; what is found nowhere is undefined. -/
theorem get_of_content (R : Realm) (h : s.HasContent id c) (key : ArrayKey)
    (hbehind : R.toEngine.NothingBehind s id key.text) :
    ∃ cache, R.get id key.text s = (.ok ((c.find? key).getD .undefined), { s with cache }) ∧
      s.cache.AnswersAs R.types cache := by
  obtain ⟨flags, home, hown⟩ := ownProperty_of_content R.toEngine h key
  cases hfound : c.find? key with
  | some v =>
    rw [hfound] at hown
    exact ⟨s.cache, get_of_own hown rfl, .refl _ _⟩
  | none =>
    rw [hfound] at hown
    -- what the array itself lacks is sought behind it, where nothing is either
    have hself : R.toEngine.lacks s id key.text := by
      rw [Engine.lacks, hown]
      rfl
    exact getFrom_of_lacks R (hbehind.lacks hself)

/-- Elements are resized as the list is. -/
theorem resize_toArray (c : ArrayContent) (size : ℕ) :
    resize c.elements.toArray size = (c.putLength size).elements.toArray := by
  unfold resize
  rw [List.size_toArray]
  -- one of the two halves of the resized list is empty on either side
  split
  · next hle =>
    have hnone : size - c.elements.length = 0 := by omega
    simp [ArrayContent.putLength, hnone]
  · next hgt =>
    have hall : c.elements.take size = c.elements := List.take_of_length_le (by omega)
    simp [ArrayContent.putLength, hall]

/-- Elements are assigned as they are put into the list. -/
theorem assigned_toArray (c : ArrayContent) (i : ℕ) (value : ScriptValue) :
    assigned c.elements.toArray i value = (c.putElement i value).elements.toArray := by
  unfold assigned
  rw [List.size_toArray]
  split
  · next hbeyond =>
    -- the list grows by one undefined element at the index itself, which is then replaced
    obtain ⟨gap, rfl⟩ : ∃ gap, i = c.elements.length + gap := Nat.exists_eq_add_of_le hbeyond
    have hall : c.elements.take (c.elements.length + gap + 1) = c.elements :=
      List.take_of_length_le (by omega)
    have hroom : c.elements.length + gap + 1 - c.elements.length = gap + 1 := by omega
    have hgap : c.elements.length + gap - c.elements.length = gap := by omega
    have hwithin : ¬ c.elements.length + gap < c.elements.length := by omega
    rw [resize_toArray, List.setIfInBounds_toArray]
    simp only [ArrayContent.putLength, ArrayContent.putElement, hall, hroom, hgap, hwithin, if_false]
    rw [List.set_append_right _ _ (by omega), hgap, List.replicate_succ',
      List.set_append_right _ _ (by simp)]
    simp
  · next hwithin =>
    have hlt : i < c.elements.length := by omega
    simp only [ArrayContent.putElement, hlt, if_true, List.setIfInBounds_toArray]

/-- There is room for the elements of every length below `2 ^ 32`. -/
private theorem lacksRoom_eq_false (elements : Array ScriptValue) {size : ℕ} (hsize : size < 2 ^ 32) :
    lacksRoom elements size = false := by
  have hroom : 2 ^ 32 ≤ roomForValues := by decide
  have hfits : ¬ roomForValues < size := by omega
  simp [lacksRoom, hfits]

/-- A whole number below `2 ^ 32` that is put as the length resizes the elements. -/
theorem put_length (R : Realm) (h : s.HasContent id c) {size : ℕ} (hsize : size < 2 ^ 32)
    {number : Double} (hnumber : number.whole? = some size) (strict : Bool) :
    R.put id "length" (.number number) strict s =
      (.ok (), s.setElements id (c.putLength size).elements.toArray) := by
  have hsort := Store.elements?_eq_some_iff.1 h.elements
  have hwhole : (ScriptValue.number number).number?.bind Binary.whole? = some (.ofNat size) := hnumber
  have hlength : (ScriptValue.number number).length? = some size := by
    simp only [ScriptValue.length?, hwhole]
  simp only [put, bind_apply, getStore, hsort, arrayPut, hlength, setLength,
    lacksRoom_eq_false _ hsize, resize_toArray, beq_self_eq_true, if_true]
  rfl

/-- A deletion of an element leaves undefined in its place. -/
theorem delete_element (R : Realm) (h : s.HasContent id c) {i : ℕ} (hi : i < 2 ^ 32) (strict : Bool) :
    R.delete id (toString i) strict s =
      (.ok true, s.setElements id (c.deleteElement i).elements.toArray) := by
  have hsort := Store.elements?_eq_some_iff.1 h.elements
  simp only [delete, bind_apply, getStore, hsort, Name.index?_toString hi,
    Name.toString_beq_length hi, List.setIfInBounds_toArray]
  rfl

/-- A put under a name sets its slot, whether it is there or new. -/
theorem put_named (R : Realm) (h : s.HasContent id c) (name : ArrayName) (value : ScriptValue)
    (strict : Bool) :
    R.put id name.text value strict s =
      (.ok (), s.modifySlots id (·.setLive name.text (.plain value))) := by
  have hsort := Store.elements?_eq_some_iff.1 h.elements
  have hput : R.put id name.text value strict s = R.ordinaryPut id name.text value strict s := by
    simp only [put, bind_apply, getStore, hsort, arrayPut, name.index?_text, name.beq_length]
    rfl
  have hown := ownProperty_named R.toEngine h name
  have hslot := h.get?_slots name
  rw [hput]
  simp only [ordinaryPut, present, own, bind_apply, Action.state, hown, pure_apply]
  -- a new name is appended to the table; a known one is put back where it was found
  cases hlookup : c.named.lookup name with
  | none => rfl
  | some v =>
    rw [hlookup] at hslot
    have hback : s.putBack id name.text (.plain value) =
        s.modifySlots id (·.setLive name.text (.plain value)) := by
      simp only [Store.putBack, hslot]
      rfl
    rw [← hback]
    rfl

/-- A deletion of a name removes it from the slots. -/
theorem delete_named (R : Realm) (h : s.HasContent id c) (name : ArrayName) (strict : Bool) :
    ∃ t, R.delete id name.text strict s = (.ok true, t) ∧ t.HasContent id (c.deleteNamed name) ∧
      Store.ChangesOnly R.types id s t := by
  have hsort := Store.elements?_eq_some_iff.1 h.elements
  have hdelete : R.delete id name.text strict s = R.ordinaryDelete id name.text strict s := by
    simp only [delete, bind_apply, getStore, hsort, name.index?_text, name.beq_length]
    rfl
  have hown := ownProperty_named R.toEngine h name
  rw [hdelete]
  simp only [ordinaryDelete, own, bind_apply, Action.state, hown]
  -- nothing is to be struck out for a name without a value
  cases hlookup : c.named.lookup name with
  | none =>
    rw [ArrayContent.deleteNamed_of_lookup hlookup]
    exact ⟨s, rfl, h, Store.changesOnly_refl _ _ _⟩
  | some v =>
    exact ⟨_, rfl, h.remove name, Store.changesOnly_modifyObject R.types id fun _ => rfl⟩

/-- An operation does to an array what it does to the content, and to other objects nothing. -/
theorem access_array (R : Realm) (h : s.HasContent id c) (op : ArrayOperation)
    (hbehind : R.toEngine.NothingBehind s id op.key.text) :
    ∃ t, R.access id op s = (.ok (c.perform op).1, t) ∧ t.HasContent id (c.perform op).2 ∧
      Store.ChangesOnly R.types id s t := by
  have hsort := Store.elements?_eq_some_iff.1 h.elements
  -- every operation has its lemma; what is left is that the array alone has changed
  cases op with
  | putElement i hi value strict =>
    have hput : R.put id (toString i) value strict s = (.ok (), s.setElements id _) :=
      put_element h.elements (Name.index?_toString hi) strict
    rw [assigned_toArray] at hput
    refine ⟨_, ?_, h.setElements rfl, Store.changesOnly_modifyObject R.types id fun _ => rfl⟩
    simp only [access, bind_apply, hput]
    rfl
  | putLength size hsize number hnumber strict =>
    refine ⟨_, ?_, h.setElements rfl, Store.changesOnly_modifyObject R.types id fun _ => rfl⟩
    simp only [access, bind_apply, put_length R h hsize hnumber strict]
    rfl
  | putNamed name value strict =>
    refine ⟨_, ?_, h.setLive name value, Store.changesOnly_modifyObject R.types id fun _ => rfl⟩
    simp only [access, bind_apply, put_named R h name value strict]
    rfl
  | delete key strict =>
    cases key with
    | element i hi =>
      refine ⟨_, ?_, h.setElements rfl, Store.changesOnly_modifyObject R.types id fun _ => rfl⟩
      simp only [access, bind_apply, ArrayKey.text, delete_element R h hi strict]
      rfl
    | length =>
      refine ⟨s, ?_, h, Store.changesOnly_refl _ _ _⟩
      simp only [access, bind_apply, ArrayKey.text, delete, getStore, hsort]
      rfl
    | named name =>
      obtain ⟨t, hdelete, hcontent, honly⟩ := delete_named R h name strict
      refine ⟨t, ?_, hcontent, honly⟩
      simp only [access, bind_apply, ArrayKey.text, hdelete]
      rfl
  | get key =>
    obtain ⟨cache, hget, hanswers⟩ := get_of_content R h key hbehind
    refine ⟨{ s with cache }, ?_, ⟨h.elements, h.slots⟩, Store.changesOnly_cache hanswers⟩
    simp only [access, bind_apply, hget]
    rfl

/-- The own names of an array are the keys of its content. -/
theorem ownNames_of_content (h : s.HasContent id c) : Engine.ownNames s id = c.keys := by
  have hlive (named : List (ArrayName × ScriptValue)) :
      (slotsOf named).filter (·.2.isLive) = slotsOf named := by
    refine List.filter_eq_self.2 fun slot hslot => ?_
    obtain ⟨entry, -, rfl⟩ := List.mem_map.1 hslot
    rfl
  simp only [Engine.ownNames, h.elements, SlotTable.liveNames_eq, h.slots, hlive, ArrayContent.keys,
    List.size_toArray]
  simp [slotsOf, Function.comp_def]

/-- A history of operations, one after the other. -/
theorem access_array_all (R : Realm) (h : s.HasContent id c) (ops : List ArrayOperation)
    (hbehind : ∀ op ∈ ops, R.toEngine.NothingBehind s id op.key.text) :
    ∃ t, ops.mapM (R.access id) s = (.ok (c.performAll ops).1, t) ∧
      t.HasContent id (c.performAll ops).2 := by
  induction ops generalizing s c with
  | nil => exact ⟨s, rfl, h⟩
  | cons op rest ih =>
    obtain ⟨t, hop, hcontent, honly⟩ := access_array R h op (hbehind op List.mem_cons_self)
    -- what stands behind the array is as it was
    obtain ⟨u, hrest, hfinal⟩ := ih hcontent fun op' hop' =>
      honly.nothingBehind (hbehind op' (List.mem_cons_of_mem _ hop'))
    refine ⟨u, ?_, hfinal⟩
    rw [List.mapM_cons, bind_apply, hop]
    simp only [bind_apply, hrest]
    rfl

/-- A script array is a list with a map of named values beside it. Every history of puts, deletions and
reads succeeds with the replies that these give, as long as nothing behind the array has the properties
in question, and leaves an array that amounts to what these are then. Elements that were deleted or cut
off are undefined until something is put in their place. The own names are the indices of the list
followed by the names in the map; as long as there are not more elements than indices, none of them
stands twice, and the number that is read as the length is exactly that of the list. -/
theorem arrays_refine_lists (R : Realm) (h : s.HasContent id c) (ops : List ArrayOperation)
    (hbehind : ∀ op ∈ ops, R.toEngine.NothingBehind s id op.key.text) :
    ∃ t, ops.mapM (R.access id) s = (.ok (c.performAll ops).1, t) ∧
      t.HasContent id (c.performAll ops).2 ∧
      (∀ before op after i, ops = before ++ op :: after → op.clears i →
        (∀ op' ∈ after, ¬ op'.puts i) →
          (c.performAll ops).2.elements[i]?.getD .undefined = .undefined) ∧
      Engine.ownNames t id = (c.performAll ops).2.keys ∧
      (c.elements.length ≤ 2 ^ 32 →
        (c.performAll ops).2.keys.Nodup ∧
          (.ofInt (c.performAll ops).2.elements.length : Double).whole? =
            some ((c.performAll ops).2.elements.length : ℤ)) := by
  obtain ⟨t, hrun, hcontent⟩ := access_array_all R h ops hbehind
  refine ⟨t, hrun, hcontent, ?_, ownNames_of_content hcontent, fun hlength => ?_⟩
  · -- a cleared element is undefined until something is put there again
    rintro before op after i rfl hclears hafter
    exact ArrayContent.undefined_after_clears hclears hafter
  · -- below the limit every index prints differently and the length is a whole double
    have hfinal := ArrayContent.length_performAll_le hlength ops
    refine ⟨ArrayContent.nodup_keys hfinal, ?_⟩
    refine (Binary.whole?_ofInt (by decide) (by decide) (by decide) ?_).1
    show Int.natAbs _ ≤ 2 ^ 53
    omega

/-- An element far behind the end, a name, and a cut: what is cut off does not come back. -/
theorem array_cut_and_filled :
    let R := (⟨.empty, .default, .byCost⟩ : Engine).realm 0
    let s := (Store.initial.newArray [.boolean true]).2
    let tag : ArrayName := ⟨"tag", by decide, by decide⟩
    let ops : List ArrayOperation := [.putElement 2 (by decide) (.string "far") true,
      .putNamed tag .null true, .putLength 1 (by decide) (.ofInt 1) (by decide +kernel) true,
      .putLength 3 (by decide) (.ofInt 3) (by decide +kernel) true, .get (.element 2 (by decide)),
      .delete (.element 0 (by decide)) true, .get (.element 0 (by decide)), .get .length]
    s.HasContent (.created 3) ⟨[.boolean true], [], List.nodup_nil⟩ ∧
      ∃ t, ops.mapM (R.access (.created 3)) s =
          (.ok [.done, .done, .done, .done, .read .undefined, .deleted true, .read .undefined,
            .read (.number (.ofInt 3))], t) ∧
        Engine.ownNames t (.created 3) = ["0", "1", "2", "tag"] := by
  intro R s tag ops
  obtain ⟨_, hid, hcontent⟩ := Store.initial.hasContent_newArray [.boolean true]
  cases hid
  refine ⟨hcontent, ?_⟩
  have hbehind : ∀ op ∈ ops, R.toEngine.NothingBehind s (.created 3) op.key.text := by
    intro op _ p hp _
    have hchain : (s.heap.chain (.created 3)).tail = [.created 2, .created 0] := rfl
    rw [hchain] at hp
    -- the prototypes have no slots at all
    obtain rfl | hp := List.mem_cons.1 hp
    · rfl
    · obtain rfl := List.mem_singleton.1 hp
      rfl
  obtain ⟨t, hrun, -, -, hnames, -⟩ := arrays_refine_lists R hcontent ops hbehind
  exact ⟨t, hrun, hnames.trans (by decide +kernel)⟩

end Realm

end Membrane
