import Membrane.Proofs.Grounding
import Membrane.Proofs.Precedence
import Membrane.Proofs.Spelling

/-!
# Names and their keys

A name with an upper-case character has its lower-cased form as its key, every other name is its own
key. The two rules agree on names without title-case letters: these are the characters that
lower-casing changes although they are not upper-case (`LetterCase.isTitlecase_iff`). What
lower-casing gives it leaves alone (`LetterCase.lowercase_lowercase`), and it does not see the case
of ASCII letters (`LetterCase.lowercase_respelled`).

## Key results

* `Name.keys_unless_titlecase`: which names have their lower-cased form as their key, which
  spellings of a name share a key, and that a lookup under the key of a declared name finds a member
  of that key.
-/

namespace Membrane

/-! ### Runs by code points -/

namespace CharRun

/-- Membership of a code point. -/
def hasCode (r : CharRun) (n : Nat) : Bool :=
  decide (r.first ≤ n) && decide (n ≤ r.last) && (n - r.first) % r.step == 0

/-- The code points of a run. -/
def codes (r : CharRun) : List Nat :=
  (List.range ((r.last - r.first) / r.step + 1)).map fun i => r.first + r.step * i

/-- The code points between the ends of the runs overlap. -/
def meets (r q : CharRun) : Bool := r.first.ble q.last && q.first.ble r.last

/-- The run whose members lie `distance` further. -/
def moved (r : CharRun) (distance : Int) : CharRun :=
  ⟨(r.first + distance).toNat, (r.last + distance).toNat, r.step⟩

variable {r : CharRun} {n : Nat}

/-- A code of a run is within its bounds. -/
theorem bounds_of_hasCode (h : r.hasCode n) : r.first ≤ n ∧ n ≤ r.last := by
  simp only [hasCode, Bool.and_eq_true, decide_eq_true_eq] at h
  exact h.1

/-- And it is among those that are listed for the run. -/
theorem mem_codes (h : r.hasCode n) : n ∈ r.codes := by
  simp only [hasCode, Bool.and_eq_true, decide_eq_true_eq, beq_iff_eq] at h
  obtain ⟨⟨hfirst, hlast⟩, hstep⟩ := h
  have hle : (n - r.first) / r.step ≤ (r.last - r.first) / r.step :=
    Nat.div_le_div_right (by omega)
  refine List.mem_map.2 ⟨(n - r.first) / r.step, List.mem_range.2 (by omega), ?_⟩
  rw [Nat.mul_div_cancel' (Nat.dvd_of_mod_eq_zero hstep)]
  omega

/-- Between the ends of a run only the runs that it meets count. -/
theorem any_near (runs : List CharRun) (hfirst : r.first ≤ n) (hlast : n ≤ r.last) :
    (runs.filter r.meets).any (·.hasCode n) = runs.any (·.hasCode n) := by
  rw [List.any_filter]
  refine congrArg (List.any runs) (funext fun q => ?_)
  cases hq : q.hasCode n with
  | false => rw [Bool.and_false]
  | true =>
    obtain ⟨hq₁, hq₂⟩ := bounds_of_hasCode hq
    -- a run that has a code within the bounds meets them
    have hmeets : r.meets q := by
      simp only [meets, Bool.and_eq_true, Nat.ble_eq]
      omega
    rw [hmeets, Bool.and_self]

end CharRun

namespace LetterCase

/-! ### Characters -/

/-- The title-case letters: digraphs with one capital and Greek capitals with a small iota. -/
def titlecaseRuns : List CharRun := [
  ⟨0x1C5, 0x1CB, 3⟩, ⟨0x1F2, 0x1F2, 1⟩, ⟨0x1F88, 0x1F8F, 1⟩, ⟨0x1F98, 0x1F9F, 1⟩,
  ⟨0x1FA8, 0x1FAF, 1⟩, ⟨0x1FBC, 0x1FCC, 0x10⟩, ⟨0x1FFC, 0x1FFC, 1⟩]

/-- The character is a title-case letter. -/
def isTitlecase (c : Char) : Bool := inRuns titlecaseRuns c

/-- The character has a lower-case form other than itself. -/
def changes (c : Char) : Bool := c == 'İ' || inRuns (lowercaseShifts.map (·.run)) c

/- The tables are compared run by run: for each run the members are looked for in the runs near it,
all of them being too many to go through for every character. -/

/-- A run of characters that change has only capitals and title-case letters. -/
private def hasCapitals (m : CharShift) : Bool :=
  let near := (uppercaseRuns ++ titlecaseRuns).filter m.run.meets
  m.run.codes.all fun n => near.any (·.hasCode n)

/-- The images of a run are other characters, which do not change. -/
private def hasSettledImages (m : CharShift) : Bool :=
  let near := (lowercaseShifts.map (·.run)).filter (m.run.moved m.distance).meets
  m.run.codes.all fun n =>
    let image := (n + m.distance).toNat
    Nat.isValidChar image ∧ image ≠ n ∧ image ≠ 'İ'.toNat ∧ !near.any (·.hasCode image)

/-- The members of a run are no capitals, but they change. -/
private def changesBesides (r : CharRun) : Bool :=
  let capitals := uppercaseRuns.filter r.meets
  let shifts := (lowercaseShifts.map (·.run)).filter r.meets
  r.codes.all fun n => !capitals.any (·.hasCode n) && shifts.any (·.hasCode n)

/-- What the tables say of each other, letter by letter. -/
private theorem tables_agree :
    (lowercaseShifts.all hasCapitals ∧ lowercaseShifts.all hasSettledImages) ∧
      titlecaseRuns.all changesBesides := by
  decide +kernel

/-- The capital that has a form of two characters, and the letter that has two small forms. -/
private theorem special_capitals :
    (isUppercase 'İ' ∧ lowerChar 'İ' ≠ ['İ'] ∧ (lowerChar 'İ').all (!changes ·)) ∧
      changes 'Σ' ∧ changes 'ς' = false ∧ changes 'σ' = false := by
  decide +kernel

variable {c d : Char}

/-- A valid code is that of its character. -/
private theorem toNat_ofNat_of_isValidChar {n : Nat} (h : n.isValidChar) :
    (Char.ofNat n).toNat = n := by
  rw [Char.ofNat, dif_pos h]
  rfl

/-- A character that does not change is its own small form. -/
theorem lowerChar_of_changes_eq_false (h : changes c = false) : lowerChar c = [c] := by
  simp only [changes, Bool.or_eq_false_iff, beq_eq_false_iff_ne, inRuns, List.any_map] at h
  have hfind : lowercaseShifts.find? (·.run.contains c) = none :=
    List.find?_eq_none.2 (by simpa using h.2)
  rw [lowerChar, if_neg h.1, shiftIn, hfind]

/-- The lower-case form of a character that changes is another character, which does not change. -/
theorem lowerChar_of_changes (h : changes c) :
    lowerChar c ≠ [c] ∧ ∀ d ∈ lowerChar c, changes d = false := by
  by_cases hdotted : c = 'İ'
  · subst hdotted
    exact ⟨special_capitals.1.2.1, by simpa using special_capitals.1.2.2⟩
  obtain ⟨m, hfind⟩ : ∃ m, lowercaseShifts.find? (·.run.contains c) = some m := by
    simp only [changes, beq_eq_false_iff_ne.2 hdotted, Bool.false_or, inRuns, List.any_map] at h
    exact Option.isSome_iff_exists.1 (by simpa using h)
  have hm := List.mem_of_find?_eq_some hfind
  have hcontains := List.find?_some hfind
  have hcode : m.run.hasCode c.toNat := hcontains
  obtain ⟨hvalid, hne, hdotless, hnone⟩ := of_decide_eq_true
    (List.all_eq_true.1 (List.all_eq_true.1 tables_agree.1.2 m hm) _ (CharRun.mem_codes hcode))
  -- the table says so of the code point of the image, which is that of a character
  have himage := toNat_ofNat_of_isValidChar hvalid
  have hlower : lowerChar c = [Char.ofNat (c.toNat + m.distance).toNat] := by
    rw [lowerChar, if_neg hdotted, shiftIn, hfind]
  rw [hlower]
  refine ⟨fun heq => hne ?_, fun d hd => ?_⟩
  · rw [← himage, List.singleton_inj.1 heq]
  · obtain rfl := List.mem_singleton.1 hd
    obtain ⟨hfirst, hlast⟩ := CharRun.bounds_of_hasCode hcode
    rw [CharRun.any_near _ (by simp only [CharRun.moved]; omega)
      (by simp only [CharRun.moved]; omega), ← himage, Bool.not_eq_true'] at hnone
    rw [changes, Bool.or_eq_false_iff]
    refine ⟨beq_eq_false_iff_ne.2 fun heq => hdotless ?_, hnone⟩
    rw [← himage, heq]

/-- A title-case letter changes, although it is no capital. -/
theorem changes_of_isTitlecase (h : isTitlecase c) : isUppercase c = false ∧ changes c := by
  obtain ⟨r, hr, hcode⟩ := List.any_eq_true.1 h
  obtain ⟨hfirst, hlast⟩ := CharRun.bounds_of_hasCode hcode
  have hcases := List.all_eq_true.1
    (List.all_eq_true.1 tables_agree.2 r hr) _ (CharRun.mem_codes hcode)
  rw [Bool.and_eq_true, Bool.not_eq_true', CharRun.any_near _ hfirst hlast,
    CharRun.any_near _ hfirst hlast] at hcases
  exact ⟨hcases.1, by rw [changes, Bool.or_eq_true]; exact .inr hcases.2⟩

/-- A character changes if its small form is another one. -/
theorem changes_iff : changes c ↔ lowerChar c ≠ [c] := by
  cases h : changes c with
  | true => exact iff_of_true rfl (lowerChar_of_changes h).1
  | false => exact iff_of_false Bool.false_ne_true fun hne => hne (lowerChar_of_changes_eq_false h)

/-- Of the characters that are not upper-case, lower-casing changes the title-case letters. -/
theorem changes_eq_isTitlecase (h : isUppercase c = false) : changes c = isTitlecase c := by
  refine Bool.eq_iff_iff.2 ⟨fun hchanges => ?_, fun htitle => (changes_of_isTitlecase htitle).2⟩
  obtain rfl | hrun : c = 'İ' ∨ inRuns (lowercaseShifts.map (·.run)) c := by
    simpa [changes] using hchanges
  · cases special_capitals.1.1.symm.trans h
  · -- every code of a run with small forms is a capital or a title-case letter
    obtain ⟨r, hr, hcode⟩ := List.any_eq_true.1 hrun
    obtain ⟨m, hm, rfl⟩ := List.mem_map.1 hr
    obtain ⟨hfirst, hlast⟩ := CharRun.bounds_of_hasCode hcode
    have hcapital := List.all_eq_true.1
      (List.all_eq_true.1 tables_agree.1.1 m hm) _ (CharRun.mem_codes hcode)
    rw [CharRun.any_near _ hfirst hlast, List.any_append] at hcapital
    have hupper : uppercaseRuns.any (·.hasCode c.toNat) = false := h
    rw [hupper, Bool.false_or] at hcapital
    exact hcapital

/-- The title-case letters are the characters that lower-casing changes although they are not
upper-case. -/
theorem isTitlecase_iff (c : Char) :
    isTitlecase c ↔ isUppercase c = false ∧ lowerChar c ≠ [c] := by
  rw [← changes_iff]
  constructor
  · exact changes_of_isTitlecase
  · rintro ⟨hsmall, hchanges⟩
    rwa [← changes_eq_isTitlecase hsmall]

/-- The capital sigma changes. -/
theorem ne_sigma_of_changes_eq_false (h : changes c = false) : c ≠ 'Σ' := by
  rintro rfl
  cases special_capitals.2.1.symm.trans h

/-! ### Texts -/

/-- A text of characters that do not change is its own small form. -/
theorem lowerAfter_eq_self (before : List Char) {cs : List Char}
    (h : ∀ c ∈ cs, changes c = false) : lowerAfter before cs = cs := by
  induction cs generalizing before with
  | nil => rfl
  | cons c rest ih =>
    have hc := h c List.mem_cons_self
    rw [lowerAfter, if_neg (ne_sigma_of_changes_eq_false hc), lowerChar_of_changes_eq_false hc,
      ih _ fun d hd => h d (List.mem_cons_of_mem c hd)]
    rfl

/-- A small form has no character that changes. -/
theorem changes_of_mem_lowerAfter {before cs : List Char} (h : d ∈ lowerAfter before cs) :
    changes d = false := by
  induction cs generalizing before with
  | nil => cases h
  | cons c rest ih =>
    rw [lowerAfter, List.mem_append] at h
    obtain h | h := h
    · split at h
      · -- either form of the sigma stays
        split at h
        · exact List.mem_singleton.1 h ▸ special_capitals.2.2.1
        · exact List.mem_singleton.1 h ▸ special_capitals.2.2.2
      · cases hc : changes c with
        | true => exact (lowerChar_of_changes hc).2 d h
        | false =>
          rw [lowerChar_of_changes_eq_false hc, List.mem_singleton] at h
          exact h ▸ hc
    · exact ih h

/-- Lower-casing leaves exactly the texts alone of which no character changes. -/
theorem lowercase_eq_self_iff {text : String} :
    lowercase text = text ↔ ∀ c ∈ text.toList, changes c = false := by
  constructor
  · intro h c hc
    rw [← h, lowercase, String.toList_ofList] at hc
    exact changes_of_mem_lowerAfter hc
  · intro h
    rw [lowercase, lowerAfter_eq_self [] h, String.ofList_toList]

/-- A small form stays. -/
theorem lowercase_lowercase (text : String) : lowercase (lowercase text) = lowercase text := by
  refine lowercase_eq_self_iff.2 fun c hc => ?_
  rw [lowercase, String.toList_ofList] at hc
  exact changes_of_mem_lowerAfter hc

/-! ### The case of ASCII letters -/

/-- The ASCII characters. -/
private def asciiRun : CharRun := ⟨0, 127, 1⟩

/-- An ASCII letter and its small form count alike in the context of a sigma. -/
private theorem ascii_in_context :
    let cased := casedRuns.filter asciiRun.meets
    let ignorable := caseIgnorableRuns.filter asciiRun.meets
    (List.range 128).all fun n =>
      let small := (Char.ofNat n).toLower.toNat
      (cased.any (·.hasCode small) == cased.any (·.hasCode n)) &&
        (ignorable.any (·.hasCode small) == ignorable.any (·.hasCode n)) := by
  decide +kernel

/-- In its context an ASCII letter counts like the other one. -/
private theorem context_toLower (c : Char) :
    isCased c.toLower = isCased c ∧ isCaseIgnorable c.toLower = isCaseIgnorable c := by
  -- beyond ASCII the simple mapping keeps every character
  by_cases hascii : c.toNat < 128
  · have hsmall := Name.toLower_lt_of_ascii hascii
    have hcases := List.all_eq_true.1 ascii_in_context _ (List.mem_range.2 hascii)
    simp only [Char.ofNat_toNat, Bool.and_eq_true, beq_iff_eq] at hcases
    rw [CharRun.any_near _ (Nat.zero_le _) (Nat.le_of_lt_succ hsmall),
      CharRun.any_near _ (Nat.zero_le _) (Nat.le_of_lt_succ hascii),
      CharRun.any_near _ (Nat.zero_le _) (Nat.le_of_lt_succ hsmall),
      CharRun.any_near _ (Nat.zero_le _) (Nat.le_of_lt_succ hascii)] at hcases
    exact hcases
  · rw [Name.toLower_of_not_ascii hascii]
    exact ⟨rfl, rfl⟩

/-- The small form of a letter is that of its simple one. -/
private theorem lowerChar_toLower (c : Char) : lowerChar c.toLower = lowerChar c := by
  by_cases hascii : c.toNat < 128
  · have htwice : ∀ n < 128, (Char.ofNat n).toLower.toLower = (Char.ofNat n).toLower := by decide
    have hc := htwice c.toNat hascii
    rw [Char.ofNat_toNat] at hc
    rw [Name.lowerChar_of_ascii hascii,
      Name.lowerChar_of_ascii (Name.toLower_lt_of_ascii hascii), hc]
  · rw [Name.toLower_of_not_ascii hascii]

/-- The simple mapping neither makes nor removes a title-case letter. -/
theorem isTitlecase_toLower (c : Char) : isTitlecase c.toLower = isTitlecase c := by
  have hbeyond : ∀ {c : Char}, c.toNat < 128 → isTitlecase c = false := by
    refine fun hc => List.any_eq_false.2 fun r hr hcode => ?_
    have hfirst : ∀ r ∈ titlecaseRuns, 128 ≤ r.first := by decide
    have hle := (CharRun.bounds_of_hasCode hcode).1
    have := hfirst r hr
    omega
  by_cases hascii : c.toNat < 128
  · rw [hbeyond hascii, hbeyond (Name.toLower_lt_of_ascii hascii)]
  · rw [Name.toLower_of_not_ascii hascii]

/-- Nothing else is mapped to the capital sigma. -/
private theorem toLower_eq_sigma_iff (c : Char) : c.toLower = 'Σ' ↔ c = 'Σ' := by
  by_cases hascii : c.toNat < 128
  · have hsigma : ∀ {c : Char}, c.toNat < 128 → c ≠ 'Σ' := by
      rintro _ hc rfl
      exact absurd hc (by decide)
    simp only [hsigma hascii, hsigma (Name.toLower_lt_of_ascii hascii)]
  · rw [Name.toLower_of_not_ascii hascii]

/-- What comes after a sigma counts alike. -/
theorem casedNext_map_toLower (cs : List Char) :
    casedNext (cs.map Char.toLower) = casedNext cs := by
  induction cs with
  | nil => rfl
  | cons c rest ih =>
    obtain ⟨hcased, hignorable⟩ := context_toLower c
    unfold casedNext at ih ⊢
    rw [List.map_cons, List.dropWhile_cons, List.dropWhile_cons, hignorable]
    cases isCaseIgnorable c with
    | true => exact ih
    | false => exact hcased

/-- The small form of a text is that of its simple one. -/
theorem lowerAfter_map_toLower (before cs : List Char) :
    lowerAfter (before.map Char.toLower) (cs.map Char.toLower) = lowerAfter before cs := by
  induction cs generalizing before with
  | nil => rfl
  | cons c rest ih =>
    rw [List.map_cons, lowerAfter, lowerAfter, ← List.map_cons, ih, lowerChar_toLower,
      casedNext_map_toLower, casedNext_map_toLower]
    simp only [toLower_eq_sigma_iff]

/-- Texts that differ only in the case of ASCII letters have one lower-cased form. -/
theorem lowercase_respelled {a b : String} (h : Name.sameLetters a b) :
    lowercase b = lowercase a := by
  have hletters : a.toList.map Char.toLower = b.toList.map Char.toLower := by
    simpa [Name.sameLetters] using h
  rw [lowercase, lowercase, ← lowerAfter_map_toLower [] a.toList, hletters,
    ← lowerAfter_map_toLower [] b.toList]

end LetterCase

namespace Name

open LetterCase

/-! ### Keys -/

/-- The name has a capital. -/
def hasUppercase (name : String) : Bool := name.toList.any isUppercase

/-- The name has a title-case letter. -/
def hasTitlecase (name : String) : Bool := name.toList.any isTitlecase

/-- A name with a capital is lowered as a whole. -/
theorem normalize_of_hasUppercase {name : String} (h : hasUppercase name) :
    normalize name = lowercase name := if_pos h

/-- A name without capitals is kept. -/
theorem normalize_of_hasUppercase_eq_false {name : String} (h : hasUppercase name = false) :
    normalize name = name := if_neg (Bool.eq_false_iff.1 h)

/-- A name without upper-case characters is its own lower-cased form if it has no title-case letter
either. -/
theorem lowercase_eq_self_iff {name : String} (h : hasUppercase name = false) :
    lowercase name = name ↔ hasTitlecase name = false := by
  rw [LetterCase.lowercase_eq_self_iff, hasTitlecase, List.any_eq_false]
  refine forall₂_congr fun c hc => ?_
  rw [changes_eq_isTitlecase (by simpa using List.any_eq_false.1 h c hc), Bool.not_eq_true]

/-- The key is the small form unless there are title-case letters and no capitals. -/
theorem normalize_eq_lowercase_iff (name : String) :
    normalize name = lowercase name ↔ hasUppercase name ∨ hasTitlecase name = false := by
  cases h : hasUppercase name with
  | true => simp [normalize_of_hasUppercase h]
  | false =>
    rw [normalize_of_hasUppercase_eq_false h, eq_comm, lowercase_eq_self_iff h]
    simp

/-- A key is its own key. -/
theorem normalize_normalize (name : String) : normalize (normalize name) = normalize name := by
  cases h : hasUppercase name with
  | true =>
    rw [normalize_of_hasUppercase h]
    cases h' : hasUppercase (lowercase name) with
    | true => rw [normalize_of_hasUppercase h', lowercase_lowercase]
    | false => exact normalize_of_hasUppercase_eq_false h'
  | false =>
    have hself := normalize_of_hasUppercase_eq_false h
    rw [hself, hself]

section Respelled

variable {a b : String}

/-- The simple mapping keeps what is no capital. -/
private theorem toLower_of_isUppercase_eq_false {c : Char} (h : isUppercase c = false) :
    c.toLower = c := by
  by_cases hascii : c.toNat < 128
  · exact toLower_of_not_isUppercase hascii h
  · exact toLower_of_not_ascii hascii

/-- A name without upper-case characters has no other spelling without them. -/
theorem eq_of_sameLetters (hab : sameLetters a b) (ha : hasUppercase a = false)
    (hb : hasUppercase b = false) : a = b := by
  -- without capitals the simple mapping keeps the name
  have hself : ∀ {name : String}, hasUppercase name = false →
      name.toList.map Char.toLower = name.toList := by
    intro name h
    have hchars : ∀ c ∈ name.toList, c.toLower = c := fun c hc =>
      toLower_of_isUppercase_eq_false (by simpa using List.any_eq_false.1 h c hc)
    rw [List.map_congr_left hchars, List.map_id']
  have hletters : a.toList.map Char.toLower = b.toList.map Char.toLower := by
    simpa [sameLetters] using hab
  rw [hself ha, hself hb] at hletters
  exact String.toList_inj.1 hletters

/-- Both spellings have title-case letters, or neither has. -/
theorem hasTitlecase_respelled (hab : sameLetters a b) : hasTitlecase b = hasTitlecase a := by
  have hletters : a.toList.map Char.toLower = b.toList.map Char.toLower := by
    simpa [sameLetters] using hab
  have hsmall (name : String) :
      hasTitlecase name = (name.toList.map Char.toLower).any isTitlecase := by
    rw [List.any_map, hasTitlecase]
    exact congrArg (List.any _) (funext fun c => (isTitlecase_toLower c).symm)
  rw [hsmall a, hsmall b, hletters]

/-- Two spellings share a key unless one has an upper-case character, the other has none, and both
have the same title-case letter. -/
theorem normalize_eq_iff_of_sameLetters (hab : sameLetters a b) :
    normalize b = normalize a ↔ hasUppercase b = hasUppercase a ∨ hasTitlecase a = false := by
  have hlower := lowercase_respelled hab
  -- lower-casing sees no difference between the two, so only a key that is not lower-cased can
  cases ha : hasUppercase a with
  | true =>
    rw [normalize_of_hasUppercase ha]
    cases hb : hasUppercase b with
    | true => simp [normalize_of_hasUppercase hb, hlower]
    | false =>
      rw [normalize_of_hasUppercase_eq_false hb, ← hlower, eq_comm, lowercase_eq_self_iff hb,
        hasTitlecase_respelled hab]
      simp
  | false =>
    rw [normalize_of_hasUppercase_eq_false ha]
    cases hb : hasUppercase b with
    | true => simp [normalize_of_hasUppercase hb, hlower, lowercase_eq_self_iff ha]
    | false => simp [normalize_of_hasUppercase_eq_false hb, eq_of_sameLetters hab ha hb]

end Respelled

end Name

/-! ### Declared names -/

namespace Registry

variable {types : Registry} {t : TypeId} {key : String}

/-- The members that a lookup by name on a type goes through, as their names and keys. -/
def declared (types : Registry) (t : TypeId) (scope : MemberScope) : List (String × String) :=
  if types.isEnumeration t then (types.own t TypeEntry.constants).map fun c => (c.name, c.key)
  else match scope with
    | .onInstance =>
        (types.onChain t TypeEntry.properties).map (fun p => (p.name, p.key)) ++
          (types.onChain t TypeEntry.fields).map (fun f => (f.name, f.key)) ++
          (types.onChain t TypeEntry.methods).map (fun m => (m.name, m.key))
    | .onType =>
        ((types.own t TypeEntry.properties).filter (·.isStatic)).map (fun p => (p.name, p.key)) ++
          ((types.own t TypeEntry.fields).filter (·.isStatic)).map (fun f => (f.name, f.key)) ++
          ((types.own t TypeEntry.methods).filter (·.isStatic)).map (fun m => (m.name, m.key))

/-- What a lookup on the type gave is a member of that key. -/
def HasKey (types : Registry) (t : TypeId) (key : String) : ResolvedMember → Prop
  | .property p => p.key = key
  | .field f => f.key = key
  | .methodGroup group => group.methods ≠ [] ∧ ∀ m ∈ group.methods, m.key = key
  | .constant value => ∃ c ∈ types.own t TypeEntry.constants, c.key = key ∧ c.value = value
  | .indexer _ | .undefined => False

/-- Where one of the sources of a lookup by name has something, what they give has the key that
each of them goes by. -/
private theorem exists_hasKey {p : Option Property} {f : Option Field} {methods : List Method}
    (hp : ∀ q, p = some q → q.key = key) (hf : ∀ q, f = some q → q.key = key)
    (hmethods : ∀ m ∈ methods, m.key = key) (hsome : p.isSome ∨ f.isSome ∨ methods ≠ []) :
    ∃ r, (p.map ResolvedMember.property <|> f.map ResolvedMember.field <|> group? t methods) =
      some r ∧ types.HasKey t key r := by
  -- a property comes first, then a field, then the methods
  cases p with
  | some p => exact ⟨.property p, rfl, hp p rfl⟩
  | none =>
    cases f with
    | some f => exact ⟨.field f, rfl, hf f rfl⟩
    | none =>
      cases methods with
      | nil => simp at hsome
      | cons m rest => exact ⟨_, rfl, List.cons_ne_nil m rest, hmethods⟩

/-- A constant that is declared is found under its key. -/
private theorem exists_constant {c : Constant} (hc : c ∈ types.own t TypeEntry.constants)
    (hkey : c.key = key) :
    ∃ value, types.constant? t key = some value ∧ types.HasKey t key (.constant value) := by
  cases hentry : types.entry? t with
  | none => simp [own, hentry] at hc
  | some e =>
    have hown : types.own t TypeEntry.constants = e.constants := by simp [own, hentry]
    rw [hown] at hc
    -- some constant has the key, so the first one that has it is found
    have hsome : (e.constants.find? (·.key == key)).isSome :=
      List.find?_isSome.2 ⟨c, hc, beq_iff_eq.2 hkey⟩
    obtain ⟨found, hfind⟩ := Option.isSome_iff_exists.1 hsome
    refine ⟨found.value, by simp [constant?, hentry, hfind], found, ?_, ?_, rfl⟩
    · exact hown ▸ List.mem_of_find?_eq_some hfind
    · simpa using List.find?_some hfind

/-- A member that is declared for instances is found under its key. -/
private theorem exists_named {name : String}
    (hname : (name, key) ∈
      (types.onChain t TypeEntry.properties).map (fun p => (p.name, p.key)) ++
        (types.onChain t TypeEntry.fields).map (fun f => (f.name, f.key)) ++
        (types.onChain t TypeEntry.methods).map (fun m => (m.name, m.key))) :
    ∃ r, types.named? t key = some r ∧ types.HasKey t key r := by
  refine exists_hasKey (fun p hp => by simpa using List.find?_some hp)
    (fun f hf => by simpa using List.find?_some hf) (fun m hm => ?_) ?_
  · simpa using (List.mem_filter.1 (GroundedIn.mem_of_mem_visibleOverloads hm)).2
  · simp only [List.mem_append, List.mem_map, Prod.mk.injEq] at hname
    obtain (⟨p, hp, -, hkey⟩ | ⟨f, hf, -, hkey⟩) | ⟨m, hm, -, hkey⟩ := hname
    · exact .inl (List.find?_isSome.2 ⟨p, hp, beq_iff_eq.2 hkey⟩)
    · exact .inr (.inl (List.find?_isSome.2 ⟨f, hf, beq_iff_eq.2 hkey⟩))
    · -- the first overload of the key is never hidden
      refine .inr (.inr fun hnil => ?_)
      have hhead := head?_visibleOverloads
        ((types.onChain t TypeEntry.methods).filter (·.key == key))
      rw [hnil, List.head?_nil, eq_comm, List.head?_eq_none_iff, List.filter_eq_nil_iff] at hhead
      exact hhead m hm (beq_iff_eq.2 hkey)

/-- A static member that is declared is found under its key. -/
private theorem exists_static {name : String}
    (hname : (name, key) ∈
      ((types.own t TypeEntry.properties).filter (·.isStatic)).map (fun p => (p.name, p.key)) ++
        ((types.own t TypeEntry.fields).filter (·.isStatic)).map (fun f => (f.name, f.key)) ++
        ((types.own t TypeEntry.methods).filter (·.isStatic)).map (fun m => (m.name, m.key))) :
    ∃ r, types.static? t key = some r ∧ types.HasKey t key r := by
  -- what is found has the key, and the declared name makes sure that something is found
  refine exists_hasKey (fun p hp => ?_) (fun f hf => ?_) (fun m hm => ?_) ?_
  · exact (by simpa using List.find?_some hp : p.isStatic = true ∧ p.key = key).2
  · exact (by simpa using List.find?_some hf : f.isStatic = true ∧ f.key = key).2
  · exact (by simpa using (List.mem_filter.1 hm).2 : m.isStatic = true ∧ m.key = key).2
  · simp only [List.mem_append, List.mem_map, List.mem_filter, Prod.mk.injEq] at hname
    obtain (⟨p, ⟨hp, hstatic⟩, -, hkey⟩ | ⟨f, ⟨hf, hstatic⟩, -, hkey⟩) |
      ⟨m, ⟨hm, hstatic⟩, -, hkey⟩ := hname
    · exact .inl (List.find?_isSome.2 ⟨p, hp, by simp [hstatic, hkey]⟩)
    · exact .inr (.inl (List.find?_isSome.2 ⟨f, hf, by simp [hstatic, hkey]⟩))
    · exact .inr (.inr (List.ne_nil_of_mem (List.mem_filter.2 ⟨hm, by simp [hstatic, hkey]⟩)))

/-- A lookup under the key of a declared name gives a member of that key. -/
theorem hasKey_resolve {scope : MemberScope} {name : String}
    (hname : (name, key) ∈ types.declared t scope) (hindex : Name.isIndex key = false) :
    types.HasKey t key (types.resolve t key scope) := by
  unfold declared at hname
  unfold resolve
  split at hname
  · next henum =>
    obtain ⟨c, hc, hpair⟩ := List.mem_map.1 hname
    obtain ⟨value, hconstant, hkey⟩ := exists_constant hc (Prod.mk.inj hpair).2
    rw [if_pos henum, hconstant]
    exact hkey
  · next henum =>
    rw [if_neg henum]
    cases scope with
    | onInstance =>
      -- the named members come before the indexers
      obtain ⟨r, hnamed, hkey⟩ := exists_named hname
      simp only [resolveInstance, hindex, hnamed]
      exact hkey
    | onType =>
      obtain ⟨r, hstatic, hkey⟩ := exists_static hname
      simp only [resolveStatic, hindex, hstatic]
      exact hkey

end Registry

namespace Name

/-- The title-case letters are what lower-casing changes although it is not upper-case. The key of a
name is its lower-cased form if and only if the name has an upper-case character or no title-case
letter. Every key is its own key. Two spellings of a name share a key if and only if both or neither
have upper-case characters or there is no title-case letter, and under every spelling that shares
the key of a declared name a lookup finds a member of that key. -/
theorem keys_unless_titlecase (name spelling : String) :
    (∀ c, LetterCase.isTitlecase c ↔
      LetterCase.isUppercase c = false ∧ LetterCase.lowerChar c ≠ [c]) ∧
    (normalize name = LetterCase.lowercase name ↔ hasUppercase name ∨ hasTitlecase name = false) ∧
    normalize (normalize name) = normalize name ∧
    (sameLetters name spelling →
      (normalize spelling = normalize name ↔
        hasUppercase spelling = hasUppercase name ∨ hasTitlecase name = false) ∧
      (hasUppercase spelling = hasUppercase name ∨ hasTitlecase name = false →
        ∀ (types : Registry) (t : TypeId) (scope : MemberScope),
          (name, normalize name) ∈ types.declared t scope → isIndex (normalize name) = false →
          types.HasKey t (normalize name) (types.resolve t (normalize spelling) scope))) := by
  refine ⟨LetterCase.isTitlecase_iff, normalize_eq_lowercase_iff name, normalize_normalize name, ?_⟩
  intro hsame
  have hiff := normalize_eq_iff_of_sameLetters hsame
  refine ⟨hiff, fun hshared types t scope hname hindex => ?_⟩
  -- both spellings have one key, so one of them is looked up for both
  rw [hiff.2 hshared]
  exact Registry.hasKey_resolve hname hindex

/-- A type with two properties, one of whose names has a title-case letter. -/
def sizes : Registry :=
  (Registry.empty.declare (((TypeEntry.make "Sizes" .reference).withProperty
    (.make "Größe" .string none none)).withProperty (.make "aǅ" .string none none))).2

/-- The property without title-case letters is found under other spellings of its name. -/
theorem size_found_respelled :
    sameLetters "Größe" "GRößE" ∧ isIndex (normalize "Größe") = false ∧
      normalize "GRößE" = normalize "Größe" ∧
      sizes.HasKey (.declared 0) (normalize "Größe")
        (sizes.resolve (.declared 0) (normalize "GRößE") .onInstance) := by
  obtain ⟨hsame, hindex, hshared, hname⟩ :
      sameLetters "Größe" "GRößE" ∧ isIndex (normalize "Größe") = false ∧
        (hasUppercase "GRößE" = hasUppercase "Größe" ∨ hasTitlecase "Größe" = false) ∧
        ("Größe", normalize "Größe") ∈ sizes.declared (.declared 0) .onInstance := by
    decide +kernel
  obtain ⟨hiff, hfound⟩ := (keys_unless_titlecase "Größe" "GRößE").2.2.2 hsame
  exact ⟨hsame, hindex, hiff.2 hshared, hfound hshared sizes (.declared 0) .onInstance hname hindex⟩

/-- A title-case letter is its own key. Behind a letter it is kept or lower-cased as that letter is
small or capital, so the property is not found under the other spelling of its name. -/
theorem titlecase_letter_keeps_case :
    normalize "ǅ" ≠ LetterCase.lowercase "ǅ" ∧
      sameLetters "aǅ" "Aǅ" ∧ normalize "aǅ" ≠ normalize "Aǅ" ∧
      ("aǅ", normalize "aǅ") ∈ sizes.declared (.declared 0) .onInstance ∧
      (sizes.resolve (.declared 0) (normalize "Aǅ") .onInstance).isUndefined := by
  decide +kernel

end Name

end Membrane
