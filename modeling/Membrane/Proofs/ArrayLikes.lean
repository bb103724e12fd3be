import Membrane.Proofs.ArrayContents
import Membrane.Proofs.ArrayNames
import Membrane.Proofs.EndlessConversion
import Membrane.Proofs.IndexedNames
import Membrane.Proofs.ReadOnly
import Membrane.Proofs.Reachability
import Membrane.Proofs.TwiceRounded

/-!
# Sequences that scripts read

A sequence is read by its `length` and by the names of the indices below it. An array gives its
elements in their order. A wrapper of an instance that counts gives the script forms of what an indexer
returns, if index names are left to this indexer (`Registry.IndexesBy`): the slots of index names stay
unused and the slot `length` goes on to count, whatever else happens, until such a name is deleted or
defined (`Store.IsSequence.steps`).

## Key results

- `Realm.arrayLike_of_length`: a sequence is refused by its length, or read name by name
- `Engine.tracks_indexed`: the slots of index names stay unused
- `Store.IsSequence.step`: a wrapper that is a sequence stays one
- `Realm.Serves`: bodies that count and look up the items that the host has, as typed accessors do
  (`Realm.serves_of_accessors`)
- `Realm.array_like_faithful`: what arrays and wrappers give
-/

namespace Membrane

/-! ### Lengths -/

namespace Binary

variable {F : FloatFormat} {n b : ℕ}

/-- What an integer is as a number: its leading bits. -/
theorem ofInt_natCast (hp : 0 < F.precision) (hlow : F.precision ≤ F.offset + 1) (hn : n ≤ 2 ^ b)
    (hhigh : F.offset + b + 1 ≤ F.top) :
    (∀ m, (ofInt n : Binary F).exceeds m ↔ m < roundBits F.precision n) ∧
      (ofInt n : Binary F).positivePart = roundBits F.precision n := by
  have hunit : 0 < 2 ^ F.offset := Nat.two_pow_pos _
  have hnegative : decide ((n : ℤ) < 0) = false := decide_eq_false (by omega)
  -- the magnitude is the rounded number in units of the smallest one, so both questions are about
  -- it
  obtain ⟨exponent, significand, h, hint, hmagnitude⟩ :=
    ofQuotient_roundBits (F := F) false hp hlow hn hhigh
  rw [ofInt, hnegative, Int.natAbs_natCast, hint]
  constructor
  · intro m
    simp only [exceeds, isFinite, isNegative, magnitude, hmagnitude, Bool.not_false, Bool.and_self,
      Bool.true_and, decide_eq_true_eq, Nat.mul_lt_mul_right hunit]
  · simp only [positivePart, isNegative, magnitude, hmagnitude, Bool.false_eq_true, if_false]
    exact Nat.mul_div_cancel _ hunit

/-- Numbers of few bits keep all of them. -/
theorem roundBits_of_le (hp : 0 < F.precision) (hn : n ≤ 2 ^ F.precision) :
    roundBits F.precision n = n := by
  simpa using roundBits_mul (e := 0) hp hn

/-- A length is compared with the limit of sequences as it is, and below the limit it is not rounded. -/
theorem length_ofInt (hn : n < 2 ^ 64) :
    ((ofInt n : Double).exceeds Realm.longestSequence ↔ Realm.longestSequence < n) ∧
      (n ≤ Realm.longestSequence → (ofInt n : Double).positivePart = n) := by
  have hlimit : Realm.longestSequence = 2 ^ 24 := by decide
  obtain ⟨hexceeds, hpart⟩ :=
    ofInt_natCast (F := .double) (b := 64) (by decide) (by decide) hn.le (by decide)
  rw [hexceeds, hpart]
  -- below the limit of the precision nothing is rounded, and above it every number is far too long
  by_cases hexact : n ≤ 2 ^ 53
  · rw [roundBits_of_le (F := .double) (by decide) hexact]
    exact ⟨Iff.rfl, fun _ => rfl⟩
  · -- all bits of the limit are among those that are kept
    have hlong : 53 ≤ n.log2 := (Nat.le_log2 (by omega)).2 (by omega)
    have hbits : 2 ^ 52 ≤ roundBits FloatFormat.double.precision n :=
      Nat.le_trans (le_roundHalfEven (by decide) hlong) (Nat.le_mul_of_pos_right _ (Nat.two_pow_pos _))
    exact ⟨⟨fun _ => by omega, fun _ => by omega⟩, fun hle => by omega⟩

end Binary

namespace Realm

open Action

variable {ι ε α : Type} {s t : Store} {id : ObjectId} {elements : Array ScriptValue}

/-- A sequence is refused by its length, or read name by name. -/
theorem arrayLike_of_length (R : Realm) (hlike : s.isArrayLike R.types id) {n : ℕ} (hn : n < 2 ^ 64)
    (hlength : R.get id "length" s = (.ok (.number (.ofInt n)), t)) :
    R.arrayLike id s =
      if n ≤ longestSequence then ((List.range n).mapM fun i => R.get id (toString i)) t
      else (.error (.invocation (.notArrayLike (s.className R.types id))), t) := by
  obtain ⟨hexceeds, hpart⟩ := Binary.length_ofInt hn
  simp only [arrayLike, bind_apply, getStore, hlike, Bool.not_true, Bool.false_eq_true, if_false,
    hlength, ScriptValue.number?]
  -- the length that is read is a double, but it tells whether the count is beyond the limit
  split
  · next hlong => rw [if_neg (Nat.not_le.2 (hexceeds.1 hlong)), Action.throw]
  · next hshort =>
    have hle : n ≤ longestSequence := Nat.not_lt.1 fun h => hshort (hexceeds.2 h)
    rw [if_pos hle, hpart hle]

/-- A loop of steps that leave the store as it is. -/
theorem mapM_of_forall {f : ι → Action ε α} {g : ι → α} {l : List ι}
    (h : ∀ i ∈ l, f i s = (.ok (g i), s)) : l.mapM f s = (.ok (l.map g), s) := by
  induction l with
  | nil => rfl
  | cons i rest ih =>
    have hrest := ih fun j hj => h j (List.mem_cons_of_mem i hj)
    simp only [List.mapM_cons, bind_apply, h i List.mem_cons_self, hrest, pure_apply, List.map_cons]

/-! ### Arrays -/

/-- An array gives its elements, unless there are too many. -/
theorem arrayLike_array (R : Realm) (helements : s.elements? id = some elements)
    (hsize : elements.size < 2 ^ 64) :
    R.arrayLike id s =
      if elements.size ≤ longestSequence then (.ok elements.toList, s)
      else (.error (.invocation (.notArrayLike "Array")), s) := by
  have hsort : s.sort? id = some (.array elements) := Store.elements?_eq_some_iff.1 helements
  -- the length of an array is made on request, and reading it runs nothing
  have hlength : R.get id "length" s = (.ok (.number (.ofInt elements.size)), s) := by
    refine get_of_own (h := ⟨.data _ ⟨true, false, false⟩, none⟩) ?_ rfl
    simp only [Engine.ownProperty, hsort, beq_self_eq_true, if_true]
  have hclass : s.className R.types id = "Array" := by
    simp only [Store.className, hsort]
  rw [R.arrayLike_of_length (by simp only [Store.isArrayLike, hsort]) hsize hlength, hclass]
  split
  · next hle =>
    have hlimit : longestSequence = 2 ^ 24 := by decide
    -- each element is found under the digits of its index
    have hget : ∀ i ∈ List.range elements.size, R.get id (toString i) s =
        (.ok (elements[i]?.getD .undefined), s) := by
      intro i hi
      have hlt : i < elements.size := List.mem_range.1 hi
      have hown := ownProperty_element R.toEngine helements (Name.index?_toString (i := i) (by omega))
      rw [Array.getElem?_eq_getElem hlt, Option.map_some] at hown
      rw [Array.getElem?_eq_getElem hlt, Option.getD_some]
      exact get_of_own hown rfl
    rw [mapM_of_forall hget]
    -- what was read one after the other are the elements in order
    congr 2
    refine List.ext_getElem (by simp) fun i hi hi' => ?_
    have hlt : i < elements.size := hi'
    simp [Array.getElem?_eq_getElem hlt]
  · rfl

end Realm

/-! ### Index names of wrappers -/

/-- No digit is an upper-case character. -/
theorem Name.normalize_toString (i : ℕ) : Name.normalize (toString i) = toString i := by
  have htext : (toString i).toList = Nat.toDigits 10 i := String.toList_ofList
  -- no digit is an upper-case letter, by a look at all ten of them
  have hdigits : ∀ n < 58, 48 ≤ n → LetterCase.isUppercase (Char.ofNat n) = false := by
    decide +kernel
  have hlower : (toString i).toList.any LetterCase.isUppercase = false := by
    rw [htext, List.any_eq_false]
    intro c hc
    have hdigit : c.isDigit := Nat.isDigit_of_mem_toDigits (by decide) (by decide) hc
    have hrange : 48 ≤ c.toNat ∧ c.toNat ≤ 57 := by
      simpa [Char.isDigit, UInt32.le_iff_toNat_le] using hdigit
    have hcapital := hdigits c.toNat (by omega) hrange.1
    rw [Char.ofNat_toNat] at hcapital
    rw [hcapital]
    exact Bool.false_ne_true
  rw [Name.normalize, hlower]
  rfl

/-- Index names of an instance are left to the indexer: it is the first one along the chain of the type
or, where there is none, the one explicit indexer. -/
structure Registry.IndexesBy (types : Registry) (t : TypeId) (i : Indexer) : Prop where
  enumeration : types.isEnumeration t = false
  first : (types.indexer? t <|> types.explicitIndexer? t) = some (.indexer i)

/-- An index name resolves to the indexer that answers for it. -/
theorem Registry.IndexesBy.resolve {types : Registry} {t : TypeId} {i : Indexer}
    (h : types.IndexesBy t i) {key : String} (hkey : Name.isIndex key) :
    types.resolve t key .onInstance = .indexer i := by
  simp only [Registry.resolve, h.enumeration, Registry.resolveInstance, hkey, if_true]
  have hfirst := h.first
  -- an indexer of the type itself, or an explicit one
  cases hindexer : types.indexer? t with
  | some member =>
    rw [hindexer] at hfirst
    simpa using hfirst
  | none =>
    rw [hindexer] at hfirst
    simpa using congrArg (·.getD .undefined) hfirst

namespace Store

/-- The slots of index names of a wrapper were never used, as long as no access took one of them. -/
structure Indexed (E : Engine) (id : ObjectId) (target : HostRef) (s : Store)
    (accesses : List Access) : Prop where
  wrapper : s.hostTarget? id = some target
  cache : s.cache.Sound E.types
  unused : (∀ a ∈ accesses, ∀ key, Name.isIndex key → ¬ a.displaces key) →
    ∀ key, Name.isIndex key → (s.slots id).state key = none

end Store

namespace Engine

open Store

variable {E : Engine} {s t : Store} {id : ObjectId} {index : ℕ} {target : HostRef} {i : Indexer}
  {key : String}

/-- What an object wraps is read off its sort. -/
theorem hostTarget?_of_sort?_eq (htarget : s.hostTarget? id = some target)
    (hsort : t.sort? id = s.sort? id) : t.hostTarget? id = some target := by
  rw [hostTarget?_eq_some_iff, hsort]
  exact hostTarget?_eq_some_iff.1 htarget

/-- A request for an index name is no use of its slot. -/
theorem state_ownProperty_index (hindexes : E.types.IndexesBy target.type i)
    (htarget : s.hostTarget? (.created index) = some target) (hcache : s.cache.Sound E.types)
    (hkey : Name.isIndex key) (hunused : (s.slots (.created index)).state key = none)
    (other : ObjectId) (name : String) :
    ((E.ownProperty s other name).2.slots (.created index)).state key = none := by
  have hhost := isHostObject_of_hostTarget? htarget
  -- a request for the name itself finds the indexer, which is not bound
  by_cases hasked : .created index = other ∧ key = Name.normalize name
  · obtain ⟨rfl, rfl⟩ := hasked
    obtain ⟨cache, -, hown⟩ :=
      Realm.ownProperty_key E htarget hcache (hindexes.resolve hkey) hunused
    rw [hown]
    exact hunused
  · rw [state_ownProperty_other (isSome_of_isHostObject hhost) fun hother hname =>
      hasked ⟨hother, hname⟩, hunused]

/-- A write under an index name goes to the indexer, and one under another name leaves the slot as it
is. -/
theorem state_assign_index (hindexes : E.types.IndexesBy target.type i)
    (htarget : s.hostTarget? (.created index) = some target) (hcache : s.cache.Sound E.types)
    (hkey : Name.isIndex key) (hunused : (s.slots (.created index)).state key = none)
    (name : String) (value : ScriptValue) (strict : Bool) :
    ((E.assign s (.created index) name value strict).slots (.created index)).state key = none := by
  -- a write to the name itself goes through the indexer, any other one to another slot
  by_cases hname : key = Name.normalize name
  · subst hname
    obtain ⟨cache, -, hown⟩ :=
      Realm.ownProperty_key E htarget hcache (hindexes.resolve hkey) hunused
    have hdeleted : (s.slots (.created index)).isDeleted (Name.normalize name) = false :=
      SlotTable.isDeleted_of_unused hunused
    simp only [assign, hdeleted, hown, assignFound, Bool.false_eq_true, if_false]
    exact hunused
  · obtain ⟨t, ht, hassign⟩ := E.assign_cases s (.created index) name value strict
    have hstate : (t.slots (.created index)).state key = none := by
      obtain rfl | rfl := ht
      · exact hunused
      · exact state_ownProperty_index hindexes htarget hcache hkey hunused _ name
    obtain hassign | ⟨d, hassign⟩ := hassign
    · rw [hassign, hstate]
    · rw [hassign, state_setLive_other t _ hname d, hstate]

/-- Nothing is put back into a slot that was never used. -/
theorem state_putBack_unused (hunused : (s.slots id).state key = none) (other : String)
    (d : Descriptor) : ((s.putBack id other d).slots id).state key = none := by
  -- nothing is put back into a slot that is unused
  by_cases hother : key = other
  · subst hother
    have hunchanged : s.putBack id key d = s := by
      simp only [putBack, SlotTable.get?, hunused]
      rfl
    rw [hunchanged, hunused]
  · obtain hput | hput := s.putBack_eq id other d
    · rw [hput, hunused]
    · rw [hput, state_setLive_other s id hother, hunused]

/-- No access but a deletion or a definition takes the slot of an index name. -/
theorem tracks_indexed (hindexes : E.types.IndexesBy target.type i) :
    E.Tracks (.created index) (Indexed E (.created index) target) where
  host h := isHostObject_of_hostTarget? h.wrapper
  elsewhere h hsame hcache :=
    ⟨hostTarget?_of_sort?_eq h.wrapper (by simp only [sort?, hsame]), hcache ▸ h.cache,
      fun hspared key hkey => by simpa only [slots, hsame] using h.unused hspared key hkey⟩
  own {s _} h other name := by
    have hhost := isHostObject_of_hostTarget? h.wrapper
    exact ⟨hostTarget?_of_sort?_eq h.wrapper
        (sort?_ownProperty (isSome_of_isHostObject hhost) other name),
      sound_ownProperty h.cache other name, fun hspared key hkey =>
        state_ownProperty_index hindexes h.wrapper h.cache hkey (h.unused hspared key hkey) other name⟩
  putBack {s _} h other d hd := by
    refine ⟨hostTarget?_of_sort?_eq h.wrapper (sort?_putBack s _ other d), ?_,
      fun hspared key hkey => state_putBack_unused (h.unused hspared key hkey) other d⟩
    obtain hput | hput := s.putBack_eq (.created index) other d <;> rw [hput] <;> exact h.cache
  assign {s _} h name value strict := by
    have hhost := isHostObject_of_hostTarget? h.wrapper
    obtain ⟨hsort, hcache⟩ := kept_assign (isSome_of_isHostObject hhost) h.cache name value strict
    refine ⟨hostTarget?_of_sort?_eq h.wrapper hsort, hcache, fun hspared key hkey => ?_⟩
    -- what was spared by all accesses was spared by those before the last one
    have hbefore := h.unused (fun a ha => hspared a (List.mem_append_left _ ha)) key hkey
    exact state_assign_index hindexes h.wrapper h.cache hkey hbefore name value strict
  delete {s _} h name := by
    refine ⟨hostTarget?_modifySlots _ h.wrapper, h.cache, fun hspared key hkey => ?_⟩
    -- the deletion of an index name would displace it
    have hname : key ≠ Name.normalize name := by
      rintro rfl
      exact hspared (.delete name) (by simp) _ hkey (by simp [Access.displaces])
    have hbefore := h.unused (fun a ha => hspared a (List.mem_append_left _ ha)) key hkey
    rw [state_markDeleted_other s _ hname, hbefore]
  define {s _} h name value flags := by
    refine ⟨hostTarget?_modifySlots _ h.wrapper, h.cache, fun hspared key hkey => ?_⟩
    -- and so would its definition
    have hname : key ≠ name := by
      rintro rfl
      exact hspared (.define key value flags) (by simp) key hkey (by simp [Access.displaces])
    have hbefore := h.unused (fun a ha => hspared a (List.mem_append_left _ ha)) key hkey
    rw [state_setLive_other s _ hname, hbefore]

/-- Two statements are tracked together. -/
theorem Tracks.and {P Q : Store → List Access → Prop} (hP : E.Tracks id P) (hQ : E.Tracks id Q) :
    E.Tracks id fun s accesses => P s accesses ∧ Q s accesses where
  host h := hP.host h.1
  elsewhere h hsame hcache := ⟨hP.elsewhere h.1 hsame hcache, hQ.elsewhere h.2 hsame hcache⟩
  own h other name := ⟨hP.own h.1 other name, hQ.own h.2 other name⟩
  putBack h key _ hd := ⟨hP.putBack h.1 key hd, hQ.putBack h.2 key hd⟩
  assign h name value strict := ⟨hP.assign h.1 name value strict, hQ.assign h.2 name value strict⟩
  delete h name := ⟨hP.delete h.1 name, hQ.delete h.2 name⟩
  define h name value flags := ⟨hP.define h.1 name value flags, hQ.define h.2 name value flags⟩

/-! ### Wrappers as sequences -/

/-- What can happen to a store at once while a sequence keeps the names that it is read by: an entry
into the engine, however deep, that makes no access to the object which displaces one of them, or what
goes on outside the engine. -/
inductive SparingStep (E : Engine) (id : ObjectId) : Store → Store → Prop where
  | enter (depth : ℕ) (hook : Hook) (s : Store) {accesses : List Access}
      (hnoted : (E.watchWithin id depth hook s).2 =
        (E.performWithin depth hook s).2.noting accesses)
      (hspared : ∀ a ∈ accesses, ∀ key, key = "length" ∨ Name.isIndex key → ¬ a.displaces key) :
      SparingStep E id s (E.performWithin depth hook s).2
  | outside {s t : Store} (hheap : t.heap = s.heap)
      (hcache : s.cache.Sound E.types → t.cache.Sound E.types) : SparingStep E id s t

end Engine

namespace Store

variable {E : Engine} {s t : Store} {id : ObjectId} {index : ℕ} {target : HostRef} {i : Indexer}

/-- A wrapper that is read as a sequence: its length counts, and index names are left to the
indexer. -/
structure IsSequence (E : Engine) (id : ObjectId) (target : HostRef) (s : Store) : Prop where
  wrapper : s.hostTarget? id = some target
  cache : s.cache.Sound E.types
  length : s.Shows E id "length" (.count target)
  unused : ∀ key, Name.isIndex key → (s.slots id).state key = none

/-- What makes an object a sequence is in the object and in the cache. -/
theorem IsSequence.congr (h : s.IsSequence E id target) (hobject : t.object? id = s.object? id)
    (hcache : t.cache.Sound E.types) : t.IsSequence E id target where
  wrapper := Engine.hostTarget?_of_sort?_eq h.wrapper (by simp only [sort?, hobject])
  cache := hcache
  length := h.length.keep (by simp only [sort?, hobject]) (by simp only [slots, hobject])
  unused key hkey := by simpa only [slots, hobject] using h.unused key hkey

/-- A new wrapper of an instance that counts is a sequence. -/
theorem isSequence_wrap (hcache : s.cache.Sound E.types)
    (hcountable : E.types.isCountable target.type) :
    (s.wrap E.types target).2.IsSequence E (.created s.heap.created.size) target := by
  have hspared := Engine.spared_wrap hcache hcountable
  have hobject : (s.wrap E.types target).2.object? (.created s.heap.created.size) =
      some (wrapperOf E.types target) := s.heap.object?_create_self _
  have hwrapper : (s.wrap E.types target).2.sort? (.created s.heap.created.size) =
      some (.wrapper target) := sort?_of_object? hobject
  refine ⟨hostTarget?_eq_some_iff.2 hwrapper, hcache, hspared.shows (by simp), fun key hkey => ?_⟩
  -- the count is the only thing bound at first, and its name is no index
  have hne : key ≠ "length" := by
    rintro rfl
    cases hkey
  simp only [slots, hobject, wrapperOf, hcountable, if_true, Option.map_some, Option.getD_some]
  exact SlotTable.state_setLive_of_ne _ _ hne

/-- One step leaves a sequence one. -/
theorem IsSequence.step (h : s.IsSequence E (.created index) target)
    (hindexes : E.types.IndexesBy target.type i) (hstep : E.SparingStep (.created index) s t) :
    t.IsSequence E (.created index) target := by
  cases hstep with
  | enter depth hook _ hnoted hspared =>
    have htracks := (E.tracks_spared index "length" (d := .count target) rfl).and
      (Engine.tracks_indexed hindexes)
    have hstart : Tracked (fun s accesses => Spared E (.created index) "length" (.count target) s
        accesses ∧ Indexed E (.created index) target s accesses) s s :=
      ⟨[], (noting_nil s).symm,
        ⟨isHostObject_of_hostTarget? h.wrapper, h.cache, fun _ => h.length⟩,
        ⟨h.wrapper, h.cache, fun _ => h.unused⟩⟩
    obtain ⟨-, accesses, hnoted', hlength, hindexed⟩ :=
      htracks.watchWithin_agree depth hook s s hstart
    -- what was noted is one list, so the accesses that are spared are those that are tracked
    obtain rfl := noting_injective (hnoted.symm.trans hnoted')
    exact ⟨hindexed.wrapper, hindexed.cache,
      hlength.shows fun a ha => hspared a ha "length" (.inl rfl),
      hindexed.unused fun a ha key hkey => hspared a ha key (.inr hkey)⟩
  | outside hheap hcache => exact h.congr (by simp only [object?, hheap]) (hcache h.cache)

/-- A sequence stays one, whatever happens. -/
theorem IsSequence.steps (h : s.IsSequence E (.created index) target)
    (hindexes : E.types.IndexesBy target.type i)
    (hsteps : Relation.ReflTransGen (E.SparingStep (.created index)) s t) :
    t.IsSequence E (.created index) target := by
  induction hsteps with
  | refl => exact h
  | tail _ hstep ih => exact ih.step hindexes hstep

end Store

namespace Store

variable {E : Engine} {s : Store} {index : ℕ} {target : HostRef}

/-- What is there already stays as it is. -/
theorem object?_adding (objects : Array ScriptObject) (hobject : (s.object? (.created index)).isSome) :
    (s.adding objects).object? (.created index) = s.object? (.created index) := by
  obtain ⟨o, ho⟩ := Option.isSome_iff_exists.1 hobject
  have hlt : index < s.heap.created.size := (Array.getElem?_eq_some_iff.1 ho).1
  exact Array.getElem?_append_left hlt

/-- The script form of an item adds objects at most. -/
theorem IsSequence.fromHost (h : s.IsSequence E (.created index) target) (v : HostValue) :
    (s.fromHost E.types v).2.IsSequence E (.created index) target := by
  obtain ⟨objects, hform⟩ := s.fromHost_snd E.types v
  rw [hform]
  exact h.congr (object?_adding objects (isSome_of_isHostObject (isHostObject_of_hostTarget? h.wrapper)))
    h.cache

end Store

namespace Engine

variable {E : Engine} {s t : Store}

/-- Objects are added one by one. -/
theorem leadsTo_adding (E : Engine) (s : Store) (objects : List ScriptObject) :
    E.LeadsTo s (s.adding objects.toArray) := by
  induction objects generalizing s with
  | nil => exact (Store.adding_empty s).symm ▸ .refl
  | cons o rest ih =>
    have hcreated : s.adding (o :: rest).toArray = (s.create o).2.adding rest.toArray := by
      rw [Store.create_eq, Store.adding_adding]
      simp
    rw [hcreated]
    exact .head (.create o s) (ih _)

/-- Making script forms leads on: it adds objects, and does nothing else. -/
theorem leadsTo_fromHost (E : Engine) (s : Store) (v : HostValue) :
    E.LeadsTo s (s.fromHost E.types v).2 := by
  obtain ⟨objects, hform⟩ := s.fromHost_snd E.types v
  rw [hform]
  exact E.leadsTo_adding s objects.toList

/-- The script form of a value, as it is made somewhere between two stores. -/
def FormedBetween (E : Engine) (s t : Store) (v : HostValue) (form : ScriptValue) : Prop :=
  ∃ u, E.LeadsTo s u ∧ form = (u.fromHost E.types v).1 ∧ E.LeadsTo (u.fromHost E.types v).2 t

/-- What was formed later was formed after any earlier store. -/
theorem FormedBetween.of_leadsTo {u : Store} {v : HostValue} {form : ScriptValue}
    (h : E.FormedBetween s t v form) (hleads : E.LeadsTo u s) : E.FormedBetween u t v form := by
  obtain ⟨w, hw, hform, ht⟩ := h
  exact ⟨w, hleads.trans hw, hform, ht⟩

end Engine

namespace Realm

open Action

variable {E : Engine} {depth index n : ℕ} {s : Store} {target : HostRef} {i : Indexer}
  {count : HostRef → Program .count} {items : List HostValue} {v : HostValue}
  {I : ℕ → Store → Prop}

/-- Bodies that count and look up items while the wrapper is read. What holds before an item is looked
up says that the bodies give what they should, and they leave the wrapper a sequence. -/
structure Serves (E : Engine) (depth : ℕ) (id : ObjectId) (target : HostRef)
    (count : HostRef → Program .count) (i : Indexer) (items : List HostValue)
    (I : ℕ → Store → Prop) : Prop where
  cached : ∀ n s cache, I n s → I n { s with cache }
  formed : ∀ n v, items[n]? = some v → ∀ s, I n s → I (n + 1) (s.fromHost E.types v).2
  count : ∀ s, I 0 s → s.IsSequence E id target → ∃ t,
    (E.realm depth).run (count target) s = (.ok items.length, t) ∧ I 0 t ∧ t.IsSequence E id target
  item : ∀ (n : ℕ) (hn : IntegerKind.InRange .int32 n) (v : HostValue), items[n]? = some v →
    ∀ s, I n s → s.IsSequence E id target → ∃ get ∈ i.get, ∃ t,
      (E.realm depth).run (get target (.integer .int32 ⟨n, hn⟩)) s = (.ok v, t) ∧ I n t ∧
        t.IsSequence E id target

/-- Typed accessors count and look up the items of the instance. -/
theorem serves_of_accessors (E : Engine) (depth : ℕ) (id : ObjectId) (target : HostRef)
    {layout : String} {c : Carrier}
    (hget : i.get = some (Accessor.elementGetter layout (.integer .int32) c))
    (hitems : ∀ v ∈ items, ∃ r, E.types.extract c v = .ok r ∧ c.wrap r = v) :
    Serves E depth id target (Accessor.counter layout fun storage => .done storage.items.length) i
      items fun _ s => ∃ held, s.borrow E.types target layout .shared = .ok held ∧
        held.storage.items = items where
  cached n s cache hs := hs
  formed n v hv s hs := by
    obtain ⟨objects, hform⟩ := s.fromHost_snd E.types v
    rw [hform]
    exact hs
  count := by
    rintro s ⟨held, hheld, hstored⟩ hsequence
    refine ⟨s, ?_, ⟨held, hheld, hstored⟩, hsequence⟩
    rw [Accessor.counter, run_peek, show s.borrow (E.realm depth).types target layout .shared =
      .ok held from hheld]
    simp only [Except.map, hstored]
    rfl
  item := by
    rintro n hn v hv s ⟨held, hheld, hstored⟩ hsequence
    refine ⟨_, hget, s, ?_, ⟨held, hheld, hstored⟩, hsequence⟩
    obtain ⟨r, hr, rfl⟩ := hitems v (List.mem_of_getElem? hv)
    -- the index goes through the key type and back, and the value through the carrier
    have hkey : (E.realm depth).types.extract (.integer .int32) (.integer .int32 ⟨n, hn⟩) =
        .ok ⟨n, hn⟩ := Carrier.extract_wrap (c := .integer .int32) rfl ⟨n, hn⟩
    -- what is looked up in the storage is the value at that position
    have hfound : Accessor.lookup held.storage (.item n) = .ok (c.wrap r) := by
      show (held.storage.items[n]?).elim _ Except.ok = _
      rw [hstored, hv]
      rfl
    rw [Accessor.elementGetter, run_extract, hkey]
    simp only [Accessor.placeOf, Carrier.wrap, HostValue.asInt?]
    rw [run_peek, show s.borrow (E.realm depth).types target layout .shared = .ok held from hheld]
    simp only [Except.map, hfound]
    rw [Program.reread, run_extract, show (E.realm depth).types.extract c (c.wrap r) = .ok r from hr]
    rfl

/-- The text of an index is the index at the key type. -/
theorem indexKey_toString (R : Realm) (hkey : i.keyType = .integer .int32)
    (hn : IntegerKind.InRange .int32 n) :
    R.indexKey i (toString n) = .ok (.integer .int32 ⟨n, hn⟩) := by
  rw [indexKey, hkey]
  exact (R.types.coerce_string_of_integer ⟨n, hn⟩).2

/-- An item is read under the name of its index. -/
theorem get_item (hserves : Serves E depth (.created index) target count i items I)
    (hindexes : E.types.IndexesBy target.type i) (hkey : i.keyType = .integer .int32)
    (h : s.IsSequence E (.created index) target) (hI : I n s) (hn : n < 2 ^ 24)
    (hv : items[n]? = some v) :
    ∃ t, (E.realm depth).get (.created index) (toString n) s =
        (.ok (t.fromHost E.types v).1, (t.fromHost E.types v).2) ∧
      I n t ∧ t.IsSequence E (.created index) target ∧ E.LeadsTo s t := by
  have hrange : IntegerKind.InRange .int32 n := by
    constructor
    · show (-2147483648 : ℤ) ≤ n
      omega
    · show (n : ℤ) ≤ 2147483647
      omega
  have hname : Name.isIndex (toString n) := by
    rw [Name.isIndex, Name.index?_toString (by omega)]
    rfl
  -- the name is its own key, and so one of the names that are left to the indexer
  have hunused := h.unused _ hname
  rw [← Name.normalize_toString n] at hunused
  obtain ⟨cache, hsound, hget⟩ := get_key (E.realm depth) h.wrapper h.cache
    (by rw [Name.normalize_toString]; exact hindexes.resolve hname) hunused
  have hcached : ({ s with cache } : Store).IsSequence E (.created index) target :=
    h.congr rfl hsound
  obtain ⟨get, hmem, t, hrun, hIt, hsequence⟩ :=
    hserves.item n hrange v hv _ (hserves.cached n s cache hI) hcached
  refine ⟨t, ?_, hIt, hsequence, ?_⟩
  · rw [hget, read, Option.mem_def.1 hmem, indexKey_toString _ hkey hrange]
    dsimp only
    rw [readIndexed_eq _ hrun]
    rfl
  · have hcache : E.Step s { s with cache } := .outside rfl fun _ => hsound
    exact .head hcache (E.leadsTo_run hrun)

/-- The items from a position on are read in their order. -/
theorem mapM_get_items (hserves : Serves E depth (.created index) target count i items I)
    (hindexes : E.types.IndexesBy target.type i) (hkey : i.keyType = .integer .int32)
    (hlength : items.length ≤ 2 ^ 24) (rest : List HostValue) (k : ℕ)
    (hrest : items.drop k = rest) (h : s.IsSequence E (.created index) target) (hI : I k s) :
    ∃ forms t, ((List.range' k rest.length).mapM fun n =>
        (E.realm depth).get (.created index) (toString n)) s = (.ok forms, t) ∧
      E.LeadsTo s t ∧ List.Forall₂ (E.FormedBetween s t) rest forms := by
  -- on the items left: what the bodies rely on moves from one item to the next
  induction rest generalizing k s with
  | nil => exact ⟨[], s, rfl, .refl, .nil⟩
  | cons v rest ih =>
    have hv : items[k]? = some v := by
      rw [← Nat.add_zero k, ← List.getElem?_drop, hrest]
      rfl
    have hlt : k < items.length := (List.getElem?_eq_some_iff.1 hv).1
    have hrest' : items.drop (k + 1) = rest := by
      rw [← List.drop_drop, hrest]
      rfl
    obtain ⟨t, hget, hIt, hsequence, hst⟩ := get_item hserves hindexes hkey h hI (by omega) hv
    obtain ⟨forms, u, hloop, htu, hforms⟩ :=
      ih (k + 1) hrest' (hsequence.fromHost v) (hserves.formed k v hv t hIt)
    have hsu : E.LeadsTo s (t.fromHost E.types v).2 := hst.trans (E.leadsTo_fromHost t v)
    refine ⟨(t.fromHost E.types v).1 :: forms, u, ?_, hsu.trans htu,
      .cons ⟨t, hst, rfl, htu⟩ (hforms.imp fun _ _ hform => hform.of_leadsTo hsu)⟩
    simp only [List.length_cons, List.range'_succ, List.mapM_cons, bind_apply, hget, hloop, pure_apply]

/-- A wrapper that is a sequence gives the script forms of the items. -/
theorem arrayLike_sequence (hserves : Serves E depth (.created index) target count i items I)
    (hcount : (E.types.entry? target.type).bind (·.count) = some count)
    (hindexes : E.types.IndexesBy target.type i) (hkey : i.keyType = .integer .int32)
    (hlength : items.length ≤ 2 ^ 24) (h : s.IsSequence E (.created index) target) (hI : I 0 s) :
    ∃ forms t, (E.realm depth).arrayLike (.created index) s = (.ok forms, t) ∧
      List.Forall₂ (E.FormedBetween s t) items forms := by
  have hlimit : longestSequence = 2 ^ 24 := by decide
  have hlike : s.isArrayLike E.types (.created index) := by
    have hcountable : E.types.isCountable target.type := by
      simp [Registry.isCountable, hcount]
    simpa only [Store.isArrayLike, Store.hostTarget?_eq_some_iff.1 h.wrapper] using hcountable
  -- the count runs host code first, which has to leave a sequence that still serves
  obtain ⟨t, hrun, hIt, hsequence⟩ := hserves.count s hI h
  have hread : (E.realm depth).get (.created index) "length" s =
      (.ok (.number (.ofInt items.length)), t) := by
    have hshows : s.Shows E (.created index) (Name.normalize "length") (.count target) := h.length
    show (E.realm depth).getMember (.object (.created index)) "length" s = _
    rw [Engine.getMember_of_count (E.realm depth) hshows hcount
      (Store.isHostObject_of_hostTarget? h.wrapper) h.cache]
    simp only [bind_apply, guarded, Action.mapError, contained, hrun]
    rfl
  have hst : E.LeadsTo s t := E.leadsTo_run hrun
  -- from there on the elements are read one after the other
  obtain ⟨forms, u, hloop, -, hforms⟩ :=
    mapM_get_items hserves hindexes hkey hlength items 0 rfl hsequence hIt
  refine ⟨forms, u, ?_, hforms.imp fun _ _ hform => hform.of_leadsTo hst⟩
  rw [arrayLike_of_length _ hlike (by omega) hread, if_pos (by omega), List.range_eq_range', hloop]

end Realm

/-! ### Lists -/

/-- The indexer of a type of lists. -/
def listIndexer : Indexer :=
  .make (.integer .int32) (.primitive .bool)
    (some (Accessor.elementGetter "List" (.integer .int32) .bool))
    (some (Accessor.elementSetter "List" (.integer .int32) .bool))

/-- An indexer over texts of the same type. -/
def entryIndexer : Indexer :=
  .make .string (.primitive .bool) (some (Accessor.elementGetter "List" .string .bool)) none

/-- A type that counts and has indexers. -/
def listType (indexers : List Indexer) : Registry :=
  let list : TypeEntry := { TypeEntry.make "List" .reference with indexers }
  (Registry.empty.declare (list.withCount
    (Accessor.counter "List" fun storage => .done storage.items.length))).2

/-- A list of two items. -/
def listInstance : Store :=
  (Store.initial.newInstance (.declared 0)
    { Storage.empty "List" with items := [.bool true, .bool false] }).2

namespace Realm

open Action

/-- What is read of a sequence. An array, whose size fits into 64 bits, gives its elements in their
order, unless there are more than `2 ^ 24`. A wrapper of an instance that counts, to which an indexer
over integers of 32 bits is left, goes on to give the script forms of the items that the host has at the
moment, in their order, whatever happened since it was made, as long as neither the length nor the name
of an index was deleted on it or defined. -/
theorem array_like_faithful (E : Engine) (depth : ℕ) :
    let R := E.realm depth
    (∀ s id elements, s.elements? id = some elements → elements.size < 2 ^ 64 →
      R.arrayLike id s =
        if elements.size ≤ 2 ^ 24 then (.ok elements.toList, s)
        else (.error (.invocation (.notArrayLike "Array")), s)) ∧
    ∀ (s₀ s : Store) (target : HostRef) (count : HostRef → Program .count) (i : Indexer)
      (items : List HostValue) (I : ℕ → Store → Prop), s₀.cache.Sound E.types →
      (E.types.entry? target.type).bind (·.count) = some count → E.types.IndexesBy target.type i →
      i.keyType = .integer .int32 →
      let made := s₀.wrap E.types target
      let id := ObjectId.created s₀.heap.created.size
      Relation.ReflTransGen (E.SparingStep id) made.2 s →
      Serves E depth id target count i items I → I 0 s → items.length ≤ 2 ^ 24 →
      made.1 = .object id ∧ ∃ forms t, R.arrayLike id s = (.ok forms, t) ∧
        List.Forall₂ (E.FormedBetween s t) items forms := by
  intro R
  constructor
  · -- arrays
    intro s id elements helements hsize
    have hlimit : longestSequence = 2 ^ 24 := by decide
    rw [← hlimit]
    exact R.arrayLike_array helements hsize
  · -- wrappers of countable instances
    intro s₀ s target count i items I hcache hcount hindexes hkey made id hsteps hserves hI hlength
    have hcountable : E.types.isCountable target.type := by
      simp [Registry.isCountable, hcount]
    have hsequence := (Store.isSequence_wrap hcache hcountable).steps hindexes hsteps
    exact ⟨rfl, arrayLike_sequence hserves hcount hindexes hkey hlength hsequence hI⟩

/-- The elements of an array, and the items of a list, the first of which was written to. -/
theorem array_like_of_changed_list :
    let E : Engine := ⟨listType [listIndexer], .default, .byCost⟩
    let id := ObjectId.created 3
    let target : HostRef := ⟨.declared 0, 0⟩
    let array := (Store.initial.newArray [.null, .boolean true]).2
    let made := (listInstance.wrap E.types target).2
    let s := (E.performWithin 1 (.setMember id "0" (.boolean false)) made).2
    (E.realm 1).arrayLike id array = (.ok [.null, .boolean true], array) ∧
      E.SparingStep id made s ∧
      ((E.realm 1).arrayLike id s).1 = .ok [.boolean false, .boolean false] := by
  intro E id target array made s
  have hnoted : (E.watchWithin id 1 (.setMember id "0" (.boolean false)) made).2 =
      s.noting [.assign "0" (.boolean false)] := rfl
  have hstep : E.SparingStep id made s :=
    .enter 1 _ made hnoted fun a ha key _ => by
      obtain rfl := List.mem_singleton.1 ha
      exact Bool.false_ne_true
  have hitems : ∀ v ∈ [HostValue.bool false, .bool false],
      ∃ r, E.types.extract .bool v = .ok r ∧ Carrier.bool.wrap r = v := by
    intro v hv
    obtain rfl : v = .bool false := by simpa using hv
    exact ⟨false, rfl, rfl⟩
  have hserves := serves_of_accessors E 1 id (i := listIndexer) target rfl hitems
  obtain ⟨harray, hsequence⟩ := array_like_faithful E 1
  have hread := harray array id #[.null, .boolean true] rfl (by decide)
  rw [if_pos (by decide)] at hread
  obtain ⟨-, forms, t, hitems, hforms⟩ := hsequence listInstance s target _ listIndexer _ _
    (ResolutionCache.sound_empty _) rfl ⟨rfl, rfl⟩ rfl (.single hstep) hserves ⟨_, rfl, rfl⟩
    (by decide)
  -- the form of a boolean is the same wherever it is made
  obtain ⟨_, _, ⟨_, -, rfl, -⟩, hrest, rfl⟩ := List.forall₂_cons_left_iff.1 hforms
  obtain ⟨_, _, ⟨_, -, rfl, -⟩, hnil, rfl⟩ := List.forall₂_cons_left_iff.1 hrest
  cases hnil
  exact ⟨hread, hstep, congrArg Prod.fst hitems⟩

/-- Where an indexer over texts comes first, index names go to that one. -/
theorem items_out_of_reach :
    let E : Engine := ⟨listType [entryIndexer, listIndexer], .default, .byCost⟩
    let R := E.realm 1
    let target : HostRef := ⟨.declared 0, 0⟩
    let made := (listInstance.wrap E.types target).2
    E.types.onChain (.declared 0) TypeEntry.indexers = [entryIndexer, listIndexer] ∧
      E.types.isCountable (.declared 0) ∧
      (R.countOf target made).1 = .ok 2 ∧
      (∀ get ∈ listIndexer.get,
        (R.run (get target (.integer .int32 ⟨0, by decide⟩)) made).1 = .ok (.bool true) ∧
          (R.run (get target (.integer .int32 ⟨1, by decide⟩)) made).1 = .ok (.bool false)) ∧
      (R.arrayLike (.created 3) made).1 = .ok [.undefined, .undefined] := by
  intro E R target made
  have hlength : R.get (.created 3) "length" made = (.ok (.number (.ofInt 2)), made) := rfl
  refine ⟨rfl, rfl, rfl, fun get hget => ?_, ?_⟩
  · obtain rfl := Option.some.inj hget
    exact ⟨rfl, rfl⟩
  · -- the length is that of the list, but the elements are asked of the entries
    rw [arrayLike_of_length R rfl (by decide) hlength, if_pos (by decide)]
    rfl

end Realm

end Membrane
