import Membrane.Proofs.Severance
import Membrane.Proofs.Strictness

/-!
# The spelling of names does not show

Wrappers and type references keep their slots under normalized names, and spellings of an ASCII name
that differ in letter case have the same normal form (`Name.normalize_respelled`). So a request for
an own property finds the same thing under both spellings (`Engine.ownProperty_respelled`), unless it
is an element of an indexer, which sees the spelling itself. Prototypes are plain objects, to which
two spellings are two names, so reads agree as long as no prototype has either of them.

## Key results

* `Engine.respelled_take_eq`: a history of visits to a host object and the same history with other
  spellings leave the same stores and get the same replies, but for the names that refusals quote.
-/

namespace Membrane

namespace Name

/-- The name is made of ASCII characters. -/
def isAscii (name : String) : Bool := name.toList.all (·.toNat < 128)

/-- Both names are the same but for the case of ASCII letters. -/
def sameLetters (a b : String) : Bool := a.toList.map Char.toLower == b.toList.map Char.toLower

open LetterCase

/-- The first run of either table is that of the ASCII capitals, the others lie beyond. -/
private theorem beyond_ascii :
    (∀ r ∈ uppercaseRuns.drop 1, 128 ≤ r.first) ∧
      ∀ m ∈ lowercaseShifts.drop 1, 128 ≤ m.run.first := by
  decide +kernel

/-- A run that begins beyond ASCII has no ASCII character. -/
private theorem not_contains_of_ascii {r : CharRun} {c : Char} (hr : 128 ≤ r.first)
    (hc : c.toNat < 128) : r.contains c = false := by
  have hfirst : ¬ r.first ≤ c.toNat := by omega
  simp [CharRun.contains, hfirst]

/-- Of ASCII characters the first run alone decides. -/
private theorem isUppercase_of_ascii {c : Char} (hc : c.toNat < 128) :
    isUppercase c = inRuns (uppercaseRuns.take 1) c := by
  have hbeyond : inRuns (uppercaseRuns.drop 1) c = false :=
    List.any_eq_false.2 fun r hr => by simp [not_contains_of_ascii (beyond_ascii.1 r hr) hc]
  calc isUppercase c = inRuns (uppercaseRuns.take 1 ++ uppercaseRuns.drop 1) c := by
        rw [List.take_append_drop, isUppercase]
    _ = (inRuns (uppercaseRuns.take 1) c || inRuns (uppercaseRuns.drop 1) c) := List.any_append
    _ = inRuns (uppercaseRuns.take 1) c := by rw [hbeyond, Bool.or_false]

/-- ASCII characters are shifted by the first run alone. -/
private theorem shiftIn_of_ascii {c : Char} (hc : c.toNat < 128) :
    shiftIn lowercaseShifts c = shiftIn (lowercaseShifts.take 1) c := by
  have hbeyond : (lowercaseShifts.drop 1).find? (·.run.contains c) = none :=
    List.find?_eq_none.2 fun m hm => by simp [not_contains_of_ascii (beyond_ascii.2 m hm) hc]
  have hfind : lowercaseShifts.find? (·.run.contains c) =
      (lowercaseShifts.take 1).find? (·.run.contains c) := by
    calc lowercaseShifts.find? (·.run.contains c)
        = (lowercaseShifts.take 1 ++ lowercaseShifts.drop 1).find? (·.run.contains c) := by
          rw [List.take_append_drop]
      _ = (lowercaseShifts.take 1).find? (·.run.contains c) := by
          rw [List.find?_append, hbeyond, Option.or_none]
  rw [shiftIn, shiftIn, hfind]

/-- The ASCII characters one by one. -/
private theorem ascii_cases :
    ∀ n < 128, Char.ofNat n ≠ 'İ' ∧
      shiftIn (lowercaseShifts.take 1) (Char.ofNat n) = (Char.ofNat n).toLower ∧
      (inRuns (uppercaseRuns.take 1) (Char.ofNat n) = false →
        (Char.ofNat n).toLower = Char.ofNat n) := by
  decide +kernel

/-- An ASCII character has one lower-case form. -/
theorem lowerChar_of_ascii {c : Char} (h : c.toNat < 128) : lowerChar c = [c.toLower] := by
  obtain ⟨hdotted, hshift, -⟩ := ascii_cases c.toNat h
  rw [Char.ofNat_toNat] at hdotted hshift
  rw [lowerChar, if_neg hdotted, shiftIn_of_ascii h, hshift]

/-- An ASCII character that is no capital is its own lower-case form. -/
theorem toLower_of_not_isUppercase {c : Char} (h : c.toNat < 128)
    (hlower : isUppercase c = false) : c.toLower = c := by
  obtain ⟨-, -, hcapital⟩ := ascii_cases c.toNat h
  rw [Char.ofNat_toNat] at hcapital
  rw [isUppercase_of_ascii h] at hlower
  exact hcapital hlower

/-- ASCII texts are put in lower case character by character. -/
private theorem lowerAfter_of_ascii (before cs : List Char) (h : ∀ c ∈ cs, c.toNat < 128) :
    lowerAfter before cs = cs.map Char.toLower := by
  induction cs generalizing before with
  | nil => rfl
  | cons c rest ih =>
    have hc : c.toNat < 128 := h c List.mem_cons_self
    -- the letter whose form depends on its neighbours is no ASCII letter
    have hsigma : c ≠ 'Σ' := by
      rintro rfl
      exact absurd hc (by decide)
    have hrest := ih (c :: before) fun d hd => h d (List.mem_cons_of_mem c hd)
    rw [lowerAfter, if_neg hsigma, lowerChar_of_ascii hc, hrest]
    rfl

/-- An ASCII name is normalized character by character. -/
private theorem normalize_of_isAscii {name : String} (h : isAscii name) :
    normalize name = String.ofList (name.toList.map Char.toLower) := by
  have hchars : ∀ c ∈ name.toList, c.toNat < 128 := by simpa [isAscii] using h
  unfold normalize
  split
  · rw [lowercase, lowerAfter_of_ascii [] _ hchars]
  · next hnone =>
    -- every character is its own lower-case form
    have hsame : name.toList.map Char.toLower = name.toList := by
      have hlower : ∀ c ∈ name.toList, c.toLower = c := by
        intro c hc
        have hc' : isUppercase c = false := by
          have hnot := List.any_eq_false.1 (Bool.eq_false_iff.2 hnone) c hc
          exact Bool.eq_false_iff.2 hnot
        exact toLower_of_not_isUppercase (hchars c hc) hc'
      rw [List.map_congr_left hlower, List.map_id']
    rw [hsame, String.ofList_toList]

/-- Outside ASCII there are no letters of the other case to confuse a character with. -/
theorem toLower_of_not_ascii {c : Char} (h : ¬ c.toNat < 128) : c.toLower = c := by
  have hcapital : ¬ (c.val ≥ 'A'.val ∧ c.val ≤ 'Z'.val) := by
    rintro ⟨-, hle⟩
    have hle' : c.toNat ≤ 90 := UInt32.le_iff_toNat_le.1 hle
    omega
  exact dif_neg hcapital

/-- The lower-case form of an ASCII character is one. -/
theorem toLower_lt_of_ascii {c : Char} (h : c.toNat < 128) : c.toLower.toNat < 128 := by
  have hlower : ∀ n < 128, (Char.ofNat n).toLower.toNat < 128 := by decide
  have hc := hlower c.toNat h
  rwa [Char.ofNat_toNat] at hc

/-- A name with the same letters as an ASCII name is one. -/
private theorem isAscii_of_sameLetters {a b : String} (ha : isAscii a) (hab : sameLetters a b) :
    isAscii b := by
  have hletters : a.toList.map Char.toLower = b.toList.map Char.toLower := by
    simpa [sameLetters] using hab
  have hchars : ∀ c ∈ a.toList, c.toNat < 128 := by simpa [isAscii] using ha
  suffices h : ∀ d ∈ b.toList, d.toNat < 128 by simpa [isAscii] using h
  intro d hd
  have hmem : d.toLower ∈ a.toList.map Char.toLower := by
    rw [hletters]
    exact List.mem_map_of_mem hd
  obtain ⟨c, hc, hcd⟩ := List.mem_map.1 hmem
  have hlt : d.toLower.toNat < 128 := hcd ▸ toLower_lt_of_ascii (hchars c hc)
  -- a character beyond ASCII is left alone by this lower case, so its form is beyond as well
  by_cases hascii : d.toNat < 128
  · exact hascii
  · rwa [toLower_of_not_ascii hascii] at hlt

/-- Spellings of an ASCII name have one normal form. -/
theorem normalize_respelled {a b : String} (ha : isAscii a) (hab : sameLetters a b) :
    normalize b = normalize a := by
  have hletters : a.toList.map Char.toLower = b.toList.map Char.toLower := by
    simpa [sameLetters] using hab
  rw [normalize_of_isAscii ha, normalize_of_isAscii (isAscii_of_sameLetters ha hab), hletters]

end Name

/-! ### Own properties -/

namespace Engine

open Store

variable {E : Engine} {s : Store} {id : ObjectId} {a b : String}

/-- A request for the name finds an element of an indexer. -/
def isIndexed (E : Engine) (s : Store) (id : ObjectId) (name : String) : Bool :=
  (E.ownProperty s id name).1.any fun
    | ⟨.index .., none⟩ => true
    | _ => false

/-- Under two spellings of one name a host object has the same property, unless that is an element
of an indexer. -/
theorem ownProperty_respelled (hhost : s.isHostObject id)
    (hkey : Name.normalize b = Name.normalize a) (hindexed : E.isIndexed s id a = false) :
    E.ownProperty s id b = E.ownProperty s id a := by
  unfold isIndexed at hindexed
  unfold ownProperty at hindexed ⊢
  obtain ⟨target, hsort⟩ | ⟨type, hsort⟩ := isHostObject_iff.1 hhost
  · simp only [hsort, hkey] at hindexed ⊢
    unfold hostSlot at hindexed ⊢
    cases hslot : (s.slots id).state (Name.normalize a) with
    | some slot => cases slot <;> rfl
    | none =>
      simp only [hslot, bindInstance] at hindexed ⊢
      generalize E.resolve s target.type (Name.normalize a) .onInstance = r at hindexed ⊢
      obtain ⟨member, t⟩ := r
      -- the spelling goes into elements alone
      cases member with
      | indexer i => cases hindexed
      | _ => rfl
  · simp only [hsort, hkey]

/-- The object does not have the property. -/
def lacks (E : Engine) (s : Store) (id : ObjectId) (name : String) : Bool :=
  (E.ownProperty s id name).1.all (·.descriptor.isAbsent)

/-- The objects, asked one after the other, do not have the property. -/
def allLack (E : Engine) (name : String) : List ObjectId → Store → Bool
  | [], _ => true
  | id :: rest, s => E.lacks s id name && allLack E name rest (E.lookedUp id name s)

/-- The prototypes of the object, asked after the object itself, do not have the property. -/
def prototypesLack (E : Engine) (s : Store) (id : ObjectId) (name : String) : Bool :=
  E.allLack name (s.heap.chain id).tail (E.lookedUp id name s)

/-- An object that does not have the property under either spelling is left alike by requests for
both. -/
private theorem lookedUp_respelled (hkey : Name.normalize b = Name.normalize a)
    (hlacks : E.lacks s id a) :
    E.lookedUp id b s = E.lookedUp id a s := by
  by_cases hhost : s.isHostObject id
  · have hindexed : E.isIndexed s id a = false := by
      -- an element would be there
      unfold lacks at hlacks
      unfold isIndexed
      cases hfound : (E.ownProperty s id a).1 with
      | none => rfl
      | some h =>
        obtain ⟨d, home⟩ := h
        rw [hfound] at hlacks
        cases d with
        | absent => rfl
        | _ => cases hlacks
    rw [lookedUp, lookedUp, ownProperty_respelled hhost hkey hindexed]
  · rw [lookedUp, lookedUp, (ownProperty_of_other E hhost a).1, (ownProperty_of_other E hhost b).1]

end Engine

/-! ### Reading, writing and deleting -/

/-- The outcome with another name quoted in a refusal. -/
def Outcome.quoting {α : Type} (name : String) : Outcome BridgeError α → Outcome BridgeError α
  | .error (.invocation (.readOnly _)) => .error (.invocation (.readOnly name))
  | .error (.invocation (.unknownMember _)) => .error (.invocation (.unknownMember name))
  | outcome => outcome

/-- What is no refusal quotes no name. -/
theorem Outcome.quoting_eq_self {α : Type} {outcome : Outcome BridgeError α} (name : String)
    (h : ∀ e, outcome = .error e → e.isRefusal = false) : outcome.quoting name = outcome := by
  unfold quoting
  split
  · cases h _ rfl
  · cases h _ rfl
  · rfl

namespace Realm

open Action

variable {R : Realm} {s : Store} {id : ObjectId} {a b : String}

/-- What is present is what is found and not deleted. -/
private theorem present_apply (R : Realm) (id : ObjectId) (name : String) (s : Store) :
    (R.present id name : Action BridgeError (Option Handle)) s =
      (.ok ((R.toEngine.ownProperty s id name).1.filter (!·.descriptor.isAbsent)),
        R.toEngine.lookedUp id name s) := rfl

/-- Nothing is present under a name that the object lacks. -/
theorem present_of_lacks (hlacks : R.toEngine.lacks s id a) :
    (R.present id a : Action BridgeError (Option Handle)) s =
      (.ok none, R.toEngine.lookedUp id a s) := by
  have hnone : (R.toEngine.ownProperty s id a).1.filter (!·.descriptor.isAbsent) = none := by
    refine Option.filter_eq_none_iff.2 fun h hh => ?_
    unfold Engine.lacks at hlacks
    rw [hh] at hlacks
    simpa using hlacks
  rw [present_apply, hnone]

/-- A host object presents the same under every spelling. -/
private theorem present_respelled (hhost : s.isHostObject id)
    (hkey : Name.normalize b = Name.normalize a) (hindexed : R.toEngine.isIndexed s id a = false) :
    (R.present id b : Action BridgeError (Option Handle)) s = R.present id a s := by
  rw [present_apply, present_apply, Engine.lookedUp, Engine.lookedUp,
    Engine.ownProperty_respelled hhost hkey hindexed]

/-- Objects that lack both spellings are passed over alike. -/
private theorem getFrom_respelled (hkey : Name.normalize b = Name.normalize a)
    {chain : List ObjectId} (ha : R.toEngine.allLack a chain s)
    (hb : R.toEngine.allLack b chain s) : R.getFrom b chain s = R.getFrom a chain s := by
  induction chain generalizing s with
  | nil => rfl
  | cons id rest ih =>
    simp only [Engine.allLack, Bool.and_eq_true] at ha hb
    have hlooked := Engine.lookedUp_respelled hkey ha.1
    simp only [getFrom, bind_apply, present_of_lacks ha.1, present_of_lacks hb.1, hlooked]
    exact ih ha.2 (hlooked ▸ hb.2)

/-- A read of a host object that does not get as far as a prototype with the property. -/
theorem get_respelled (hhost : s.isHostObject id) (hkey : Name.normalize b = Name.normalize a)
    (hindexed : R.toEngine.isIndexed s id a = false) (ha : R.toEngine.prototypesLack s id a)
    (hb : R.toEngine.prototypesLack s id b) : R.get id b s = R.get id a s := by
  have hpresent := present_respelled hhost hkey hindexed
  have hlooked : R.toEngine.lookedUp id b s = R.toEngine.lookedUp id a s :=
    congrArg Prod.snd (Engine.ownProperty_respelled hhost hkey hindexed)
  show R.getFrom b (id :: (s.heap.chain id).tail) s = R.getFrom a (id :: (s.heap.chain id).tail) s
  simp only [getFrom, bind_apply, hpresent, present_apply]
  -- what the object itself has is read at once; else both spellings are sought behind it
  cases (R.toEngine.ownProperty s id a).1.filter (!·.descriptor.isAbsent) with
  | some h => rfl
  | none =>
    unfold Engine.prototypesLack at hb
    rw [hlooked] at hb
    exact getFrom_respelled hkey ha hb

private theorem putThrough_respelled (R : Realm) (h : Handle) (a b : String) (value : ScriptValue)
    (strict : Bool) (s : Store) :
    R.putThrough h b value strict s = ((R.putThrough h a value strict s).1.quoting b,
      (R.putThrough h a value strict s).2) := by
  unfold putThrough
  split
  · -- what is written does not depend on the name, and nothing is refused
    have hunrefusing : Unrefusing (do let _ ← R.writeThrough h value) :=
      (R.unrefusing_writeThrough h value).bind fun _ => unrefusing_pure ()
    rw [Outcome.quoting_eq_self b (hunrefusing s)]
  · split <;> rfl

theorem put_respelled (hhost : s.isHostObject id) (hkey : Name.normalize b = Name.normalize a)
    (hindexed : R.toEngine.isIndexed s id a = false) (value : ScriptValue) (strict : Bool) :
    R.put id b value strict s = ((R.put id a value strict s).1.quoting b,
      (R.put id a value strict s).2) := by
  -- wrappers and type references are written to in the same way
  have hput : ∀ name, R.put id name value strict s = R.hostPut id name value strict s := by
    intro name
    obtain ⟨target, hsort⟩ | ⟨type, hsort⟩ := Store.isHostObject_iff.1 hhost
    · simp only [put, bind_apply, getStore, hsort]
    · simp only [put, bind_apply, getStore, hsort]
  rw [hput, hput]
  simp only [hostPut, bind_apply, getStore, hkey]
  -- the refusals quote the name, everything else goes by the normalized one
  split
  · rfl
  · simp only [bind_apply, present_respelled hhost hkey hindexed, present_apply]
    cases (R.toEngine.ownProperty s id a).1.filter (!·.descriptor.isAbsent) with
    | some h => exact R.putThrough_respelled h a b value strict _
    | none =>
      simp only [putFound, hkey]
      split
      · rfl
      · split <;> rfl

/-- A delete on a host object is the same under every spelling. -/
theorem delete_respelled (hhost : s.isHostObject id) (hkey : Name.normalize b = Name.normalize a)
    (strict : Bool) : R.delete id b strict s = R.delete id a strict s := by
  obtain ⟨target, hsort⟩ | ⟨type, hsort⟩ := Store.isHostObject_iff.1 hhost
  · simp only [delete, bind_apply, getStore, hsort, hkey]
  · simp only [delete, bind_apply, getStore, hsort, hkey]

end Realm

/-! ### Histories -/

/-- What a visit does with a member. -/
inductive Deed where
  | read
  | write (value : ScriptValue)
  | remove

namespace Deed

/-- What a deed gives when it succeeds. -/
@[reducible] def Answer : Deed → Type
  | .read => ScriptValue
  | .write _ => Unit
  | .remove => Bool

/-- Does the deed with the member of an object. -/
def take (R : Realm) (id : ObjectId) (name : String) : (deed : Deed) →
    Action BridgeError deed.Answer
  | .read => R.perform (.getMember (.object id) name)
  | .write value => R.perform (.setMember id name value)
  | .remove => R.perform (.deleteMember id name)

/-- The outcome with another name quoted: only refused writes quote one. -/
def quoting (name : String) : (deed : Deed) → Outcome BridgeError deed.Answer →
    Outcome BridgeError deed.Answer
  | .write _, outcome => outcome.quoting name
  | _, outcome => outcome

end Deed

/-- A visit to a member under an ASCII name, and another spelling of the name. -/
structure Visit where
  deed : Deed
  name : String
  spelling : String
  isAscii : Name.isAscii name
  same : Name.sameLetters name spelling

namespace Visit

/-- The visit under the name that it was made with. -/
def asNamed (v : Visit) : Deed × String := (v.deed, v.name)

/-- The visit under the other spelling. -/
def asSpelled (v : Visit) : Deed × String := (v.deed, v.spelling)

/-- Neither an indexer nor a prototype has to do with the visit: the name finds no element of an
indexer, and if the visit reads, the prototypes have the property under neither spelling. -/
def isPlain (E : Engine) (id : ObjectId) (s : Store) (v : Visit) : Bool :=
  !E.isIndexed s id v.name &&
    match v.deed with
    | .read => E.prototypesLack s id v.name && E.prototypesLack s id v.spelling
    | _ => true

/-- A plain visit does not go to the indexer. -/
theorem not_isIndexed_of_isPlain {E : Engine} {id : ObjectId} {s : Store} {v : Visit}
    (h : v.isPlain E id s) : E.isIndexed s id v.name = false := by
  simp only [isPlain, Bool.and_eq_true, Bool.not_eq_true'] at h
  exact h.1

end Visit

/-- The store that deeds with the members of an object leave, whatever becomes of each. -/
def Realm.visitAll (R : Realm) (id : ObjectId) (s : Store) (visits : List (Deed × String)) :
    Store :=
  visits.foldl (fun s (deed, name) => (deed.take R id name s).2) s

namespace Engine

/-- Every visit of a history is plain when it is made. -/
def isPlainHistory (E : Engine) (depth : Nat) (id : ObjectId) : Store → List Visit → Bool
  | _, [] => true
  | s, v :: rest =>
      v.isPlain E id s &&
        isPlainHistory E depth id (v.deed.take (E.realm depth) id v.name s).2 rest

variable {E : Engine} {depth index : Nat} {s : Store}

/-- A wrapper or type reference stays one. -/
private theorem isHostObject_take (hhost : s.isHostObject (.created index)) (deed : Deed)
    (name : String) :
    (deed.take (E.realm depth) (.created index) name s).2.isHostObject (.created index) := by
  have hstart : Watched (.created index) s s := ⟨[], s.noting_nil.symm, .nil hhost⟩
  -- an object that is followed over the entries stays a host object
  have hafter : ∀ hook, ((E.realm depth).perform hook s).2.isHostObject (.created index) := by
    intro hook
    obtain ⟨accesses, -, hfollows⟩ := (E.watchWithin_agree index (depth + 1) hook s s hstart).2
    exact hfollows.1
  cases deed with
  | read => exact hafter _
  | write value => exact hafter _
  | remove => exact hafter _

/-- One visit, under the name and under the other spelling. -/
private theorem take_respelled (E : Engine) (depth : Nat)
    (hhost : s.isHostObject (.created index)) (v : Visit)
    (hplain : v.isPlain E (.created index) s) :
    v.deed.take (E.realm depth) (.created index) v.spelling s =
      (v.deed.quoting v.spelling (v.deed.take (E.realm depth) (.created index) v.name s).1,
        (v.deed.take (E.realm depth) (.created index) v.name s).2) := by
  have hkey := Name.normalize_respelled v.isAscii v.same
  have hindexed := Visit.not_isIndexed_of_isPlain hplain
  obtain ⟨deed, name, spelling, hascii, hsame⟩ := v
  -- a read may go behind the object, where the name counts as spelled
  cases deed with
  | read =>
    simp only [Visit.isPlain, Bool.and_eq_true] at hplain
    show (E.realm depth).get _ spelling s = (E.realm depth).get _ name s
    exact Realm.get_respelled hhost hkey hindexed hplain.2.1 hplain.2.2
  | write value =>
    have hput := Realm.put_respelled (R := E.realm depth) hhost hkey hindexed value
      E.options.strict
    exact hput
  | remove =>
    show (E.realm depth).delete _ spelling E.options.strict s =
      (E.realm depth).delete _ name E.options.strict s
    exact Realm.delete_respelled hhost hkey _

/-- A history is plain if every visit is where it begins. -/
private theorem isPlainHistory_append {history : List Visit} {v : Visit} {id : ObjectId} :
    E.isPlainHistory depth id s (history ++ [v]) ↔
      E.isPlainHistory depth id s history ∧
        v.isPlain E id ((E.realm depth).visitAll id s (history.map Visit.asNamed)) := by
  -- by the history, since each visit is judged in the store it meets
  induction history generalizing s with
  | nil => simp [isPlainHistory, Realm.visitAll]
  | cons first rest ih =>
    simp only [List.cons_append, isPlainHistory, Bool.and_eq_true, ih, and_assoc]
    rfl

/-- A host object stays one over any visits. -/
private theorem isHostObject_visitAll (hhost : s.isHostObject (.created index))
    (visits : List (Deed × String)) :
    ((E.realm depth).visitAll (.created index) s visits).isHostObject (.created index) := by
  induction visits generalizing s with
  | nil => exact hhost
  | cons visit rest ih => exact ih (isHostObject_take hhost visit.1 visit.2)

/-- Plain visits leave the same store under both spellings. -/
private theorem visitAll_respelled (hhost : s.isHostObject (.created index))
    {history : List Visit} (hplain : E.isPlainHistory depth (.created index) s history) :
    (E.realm depth).visitAll (.created index) s (history.map Visit.asSpelled) =
      (E.realm depth).visitAll (.created index) s (history.map Visit.asNamed) := by
  induction history generalizing s with
  | nil => rfl
  | cons v rest ih =>
    simp only [isPlainHistory, Bool.and_eq_true] at hplain
    -- the two runs are in one store after every visit
    have hfirst := E.take_respelled depth hhost v hplain.1
    simp only [Realm.visitAll, List.map_cons, List.foldl_cons, Visit.asSpelled, Visit.asNamed,
      hfirst]
    exact ih (isHostObject_take hhost v.deed v.name) hplain.2

/-- A history of visits to a wrapper or type reference and the same history with every name spelled
in another letter case: before and after every visit both have the same store, and so the same own
names, host storage and log of entered host code; the replies are the same, apart from the names
that refused writes quote; and the property that a visit goes through is the same. -/
theorem respelled_take_eq (E : Engine) (depth : Nat) {index : Nat} {s₀ : Store}
    (hhost : s₀.isHostObject (.created index)) (history : List Visit) (v : Visit)
    (hplain : E.isPlainHistory depth (.created index) s₀ (history ++ [v])) :
    let id := ObjectId.created index
    let R := E.realm depth
    let s := R.visitAll id s₀ (history.map Visit.asNamed)
    R.visitAll id s₀ (history.map Visit.asSpelled) = s ∧
      v.deed.take R id v.spelling s =
        (v.deed.quoting v.spelling (v.deed.take R id v.name s).1, (v.deed.take R id v.name s).2) ∧
      E.ownProperty s id v.spelling = E.ownProperty s id v.name := by
  intro id R s
  obtain ⟨hhistory, hvisit⟩ := isPlainHistory_append.1 hplain
  have hhost' : s.isHostObject id := isHostObject_visitAll hhost _
  refine ⟨visitAll_respelled hhost hhistory, E.take_respelled depth hhost' v hvisit, ?_⟩
  -- after the same history the visit begins in the same store under both spellings
  have hkey := Name.normalize_respelled v.isAscii v.same
  exact ownProperty_respelled hhost' hkey (Visit.not_isIndexed_of_isPlain hvisit)

/-- A type reference whose slot `prototype` is deleted under one spelling or another before a member
is written that it does not have. -/
theorem respelled_unknown_member :
    let E : Engine := ⟨.empty, ⟨true, false, false⟩, .byCost⟩
    let s₀ := (Store.initial.typeReference .object).2
    let s := (E.realm 0).visitAll (.created 4) s₀ [(.remove, "prototype")]
    s₀.isHostObject (.created 4) ∧
      E.isPlainHistory 0 (.created 4) s₀ [⟨.remove, "prototype", "PROTOTYPE", rfl, rfl⟩,
        ⟨.write .null, "extra", "Extra", rfl, rfl⟩] ∧
      (E.realm 0).visitAll (.created 4) s₀ [(.remove, "PROTOTYPE")] = s ∧
      (Deed.take (E.realm 0) (.created 4) "extra" (.write .null) s).1 =
        .error (.invocation (.unknownMember "extra")) ∧
      (Deed.take (E.realm 0) (.created 4) "Extra" (.write .null) s).1 =
        .error (.invocation (.unknownMember "Extra")) := by
  intro E s₀ s
  have hhost : s₀.isHostObject (.created 4) := rfl
  have hplain : E.isPlainHistory 0 (.created 4) s₀ [⟨.remove, "prototype", "PROTOTYPE", rfl, rfl⟩,
      ⟨.write .null, "extra", "Extra", rfl, rfl⟩] := by decide +kernel
  obtain ⟨hstore, hreply, -⟩ := respelled_take_eq E 0 hhost
    [⟨.remove, "prototype", "PROTOTYPE", rfl, rfl⟩] ⟨.write .null, "extra", "Extra", rfl, rfl⟩ hplain
  -- the name that the refusal quotes is the spelling of the visit
  have hrefused : (Deed.take (E.realm 0) (.created 4) "extra" (.write .null) s).1 =
      .error (.invocation (.unknownMember "extra")) := rfl
  have hquoted : (Deed.take (E.realm 0) (.created 4) "Extra" (.write .null) s).1 =
      Outcome.quoting "Extra" (Deed.take (E.realm 0) (.created 4) "extra" (.write .null) s).1 :=
    congrArg Prod.fst hreply
  refine ⟨hhost, hplain, hstore, hrefused, ?_⟩
  rw [hquoted, hrefused]
  rfl

/-- To a prototype two spellings are two names: a member of it is found under one spelling, when the
other one finds nothing. -/
theorem respelled_onto_prototype :
    let E : Engine := ⟨.empty, .default, .byCost⟩
    let R := E.realm 0
    let id := ObjectId.created 4
    let s := (R.define (.created 0) "foo" (.plain (.boolean true))
      (Store.initial.typeReference .object).2).2
    s.isHostObject id ∧ Name.isAscii "Foo" ∧ Name.sameLetters "Foo" "foo" ∧
      E.isIndexed s id "Foo" = false ∧ E.prototypesLack s id "Foo" ∧
      (R.getMember (.object id) "Foo" s).1 = .ok .undefined ∧
      (R.getMember (.object id) "foo" s).1 = .ok (.boolean true) := by
  intro E R id s
  exact ⟨rfl, rfl, rfl, by decide +kernel, by decide +kernel, rfl, rfl⟩

end Engine

end Membrane
