import Mathlib.Data.List.TakeWhile
import Mathlib.Data.Nat.Digits.Defs
import Membrane.Proofs.Narrowing

/-!
# Integers in texts

A text spells an integer (`Spells`) if it is, apart from blanks at both ends, an optional sign in front
of decimal digits that denote it by their places. The reader accepts exactly these texts, and a text
has two ranges to pass on its way to an integer kind: one that does not spell an integer, or spells
one that intermediate results cannot hold, is no number, and one that spells any other integer outside
the kind is too large or too small for it. The written form of an integer spells it.

## Key results

- `trimsTo_iff`, `readInteger?_eq_some_iff`: what is trimmed and what is read
- `spells_toString`: the written form of an integer spells it
- `Registry.integer_texts`: what integer kinds make of every text
-/

namespace Membrane

open Conversion

/-! ### Blanks at both ends -/

/-- What is left of a text without the blanks at both ends. -/
structure TrimsTo (text body : List Char) : Prop where
  between : ∃ before after, text = before ++ body ++ after ∧
    (∀ c ∈ before, isBlank c) ∧ ∀ c ∈ after, isBlank c
  head : ∀ c ∈ body.head?, isBlank c = false
  last : ∀ c ∈ body.getLast?, isBlank c = false

section Trimming

variable {text body before : List Char}

/-- Nothing is cut off in front of what is no blank. -/
theorem dropWhile_of_head (h : ∀ c ∈ text.head?, isBlank c = false) :
    text.dropWhile isBlank = text := by
  cases text with
  | nil => rfl
  | cons c rest => rw [List.dropWhile_cons_of_neg (by simp [h c rfl])]

/-- What is left does not start with a blank. -/
theorem head_dropWhile (text : List Char) :
    ∀ c ∈ (text.dropWhile isBlank).head?, isBlank c = false := by
  intro c hc
  have hnot := List.head?_dropWhile_not isBlank text
  rwa [Option.mem_def.1 hc] at hnot

/-- The blanks around the text are what is cut off. -/
theorem trimsTo_trimBlanks (text : List Char) : TrimsTo text (trimBlanks text) := by
  -- the blanks are cut off in front first, and then at the end of what is left
  have hfront := List.takeWhile_append_dropWhile (p := isBlank) (l := text)
  have hback := List.takeWhile_append_dropWhile (p := isBlank)
    (l := (text.dropWhile isBlank).reverse)
  have hsplit : text.dropWhile isBlank =
      trimBlanks text ++ ((text.dropWhile isBlank).reverse.takeWhile isBlank).reverse := by
    rw [trimBlanks, ← List.reverse_append, hback, List.reverse_reverse]
  constructor
  · refine ⟨text.takeWhile isBlank, ((text.dropWhile isBlank).reverse.takeWhile isBlank).reverse,
      ?_, fun c hc => List.mem_takeWhile_imp hc, fun c hc => ?_⟩
    · rw [List.append_assoc, ← hsplit, hfront]
    · exact List.mem_takeWhile_imp (List.mem_reverse.1 hc)
  · intro c hc
    refine head_dropWhile text c ?_
    rw [hsplit, List.head?_append, hc]
    rfl
  · rw [trimBlanks, List.getLast?_reverse]
    exact head_dropWhile _

/-- There is one way to trim a text. -/
theorem trimsTo_iff : TrimsTo text body ↔ trimBlanks text = body := by
  refine ⟨fun h => ?_, fun h => h ▸ trimsTo_trimBlanks text⟩
  obtain ⟨⟨before, after, rfl, hbefore, hafter⟩, hhead, hlast⟩ := h
  have hfront : (before ++ (body ++ after)).dropWhile isBlank = (body ++ after).dropWhile isBlank :=
    List.dropWhile_append_of_pos hbefore
  rw [trimBlanks, List.append_assoc, hfront]
  -- a text of blanks only has nothing to stop at
  cases body with
  | nil =>
    have hnothing : after.dropWhile isBlank = [] := List.dropWhile_eq_nil_iff.2 hafter
    rw [List.nil_append, hnothing]
    rfl
  | cons c rest =>
    have hback : ((c :: rest ++ after).reverse).dropWhile isBlank =
        (c :: rest).reverse.dropWhile isBlank := by
      rw [List.reverse_append]
      exact List.dropWhile_append_of_pos fun a ha => hafter a (List.mem_reverse.1 ha)
    have hall : (c :: rest ++ after).dropWhile isBlank = c :: rest ++ after :=
      dropWhile_of_head hhead
    rw [hall, hback, dropWhile_of_head, List.reverse_reverse]
    rwa [List.head?_reverse]

end Trimming

/-! ### Decimal digits -/

/-- One or more decimal digits, and the number that they denote by their places. -/
structure IsNumeral (digits : List Char) (m : ℕ) : Prop where
  ne_nil : digits ≠ []
  isDigit : ∀ c ∈ digits, c.isDigit
  value : Nat.ofDigits 10 (digits.reverse.map fun c => c.toNat - '0'.toNat) = m

/-- An optional sign in front of decimal digits, and the integer that they denote together. -/
inductive IsInteger : List Char → ℤ → Prop where
  | unsigned {digits m} (h : IsNumeral digits m) : IsInteger digits m
  | plus {digits m} (h : IsNumeral digits m) : IsInteger ('+' :: digits) m
  | minus {digits m} (h : IsNumeral digits m) : IsInteger ('-' :: digits) (-m)

/-- The text is, apart from blanks at both ends, the integer. -/
def Spells (s : String) (n : ℤ) : Prop := ∃ body, TrimsTo s.toList body ∧ IsInteger body n

section Digits

variable {text digits : List Char} {m : ℕ} {n : ℤ}

/-- The value of the digits is that of the library, which reads them from the lowest one. -/
theorem digitsValue_eq (digits : List Char) :
    digitsValue digits = Nat.ofDigits 10 (digits.reverse.map fun c => c.toNat - '0'.toNat) := by
  rw [Nat.ofDigits_eq_foldr, List.foldr_map, List.foldr_reverse, digitsValue]
  congr 1
  funext n c
  simp only [Nat.cast_id]
  omega

/-- A numeral is recognized, with its value. -/
theorem isNumeral_iff : IsNumeral digits m ↔ isDigits digits ∧ digitsValue digits = m := by
  constructor
  · rintro ⟨hne, hdigit, hvalue⟩
    exact ⟨by simpa [isDigits, hne] using hdigit, by rw [digitsValue_eq, hvalue]⟩
  · rintro ⟨hdigits, hvalue⟩
    simp only [isDigits, Bool.and_eq_true, Bool.not_eq_true', List.isEmpty_eq_false_iff,
      List.all_eq_true] at hdigits
    exact ⟨hdigits.1, hdigits.2, by rw [← digitsValue_eq, hvalue]⟩

/-- The digits of a number are a numeral for it. -/
theorem isNumeral_toDigits (m : ℕ) : IsNumeral (Nat.toDigits 10 m) m := by
  have hvalue : Nat.ofDigitChars 10 (Nat.toDigits 10 m) 0 = digitsValue (Nat.toDigits 10 m) := by
    simp only [Nat.ofDigitChars, digitsValue, Nat.mul_comm]
  rw [Nat.ofDigitChars_toDigits (by decide) (by decide)] at hvalue
  refine ⟨Nat.toDigits_ne_nil, fun c hc => Nat.isDigit_of_mem_toDigits (by decide) (by decide) hc, ?_⟩
  rw [← digitsValue_eq, ← hvalue]

/-- A sign is no digit. -/
theorem splitSign_of_isNumeral (h : IsNumeral digits m) : splitSign digits = (false, digits) := by
  obtain ⟨hne, hdigit, -⟩ := h
  unfold splitSign
  split
  · exact absurd (hdigit '-' (by simp)) (by decide)
  · exact absurd (hdigit '+' (by simp)) (by decide)
  · rfl

/-- After its sign, a text is read as a numeral. -/
theorem readInteger?_of_split {negative : Bool} (hsplit : splitSign text = (negative, digits)) :
    readInteger? text = some n ↔ ∃ m, IsNumeral digits m ∧ signed negative m = n := by
  rw [readInteger?, hsplit]
  simp only [isNumeral_iff]
  by_cases hdigits : isDigits digits <;> simp [hdigits]

/-- The reader accepts the written forms of integers, and nothing else. -/
theorem readInteger?_eq_some_iff : readInteger? text = some n ↔ IsInteger text n := by
  constructor
  · intro h
    generalize hsplit : splitSign text = split at h
    obtain ⟨negative, digits⟩ := split
    obtain ⟨m, hm, rfl⟩ := (readInteger?_of_split hsplit).1 h
    -- a sign that was split off, or none
    unfold splitSign at hsplit
    split at hsplit <;> cases hsplit
    · exact .minus hm
    · exact .plus hm
    · exact .unsigned hm
  · rintro (h | h | h)
    · exact (readInteger?_of_split (splitSign_of_isNumeral h)).2 ⟨_, h, rfl⟩
    · exact (readInteger?_of_split rfl).2 ⟨_, h, rfl⟩
    · exact (readInteger?_of_split rfl).2 ⟨_, h, rfl⟩

/-- A text spells what is read from it once the blanks around it are cut off. -/
theorem spells_iff {s : String} : Spells s n ↔ readInteger? (trimBlanks s.toList) = some n := by
  simp only [Spells, trimsTo_iff, readInteger?_eq_some_iff]
  exact exists_eq_left'

/-- A text spells one integer at most. -/
theorem Spells.unique {s : String} {m : ℤ} (hm : Spells s m) (hn : Spells s n) : m = n :=
  Option.some.inj ((spells_iff.1 hm).symm.trans (spells_iff.1 hn))

/-- Neither a digit nor a sign is blank. -/
theorem isBlank_of_isInteger (h : IsInteger text n) : ∀ c ∈ text, isBlank c = false := by
  have hnumeral {digits : List Char} {m : ℕ} (h : IsNumeral digits m) :
      ∀ c ∈ digits, isBlank c = false := by
    intro c hc
    have hdigit := h.isDigit c hc
    simp only [Char.isDigit, Bool.and_eq_true, decide_eq_true_eq, ge_iff_le, UInt32.le_iff_toNat_le]
      at hdigit
    have hlow : 48 ≤ c.toNat := hdigit.1
    have hhigh : c.toNat ≤ 57 := hdigit.2
    simp [isBlank]
    omega
  intro c hc
  -- digits alone, or digits after a sign
  obtain h | h | h := h
  · exact hnumeral h c hc
  · obtain rfl | hc := List.mem_cons.1 hc
    · rfl
    · exact hnumeral h c hc
  · obtain rfl | hc := List.mem_cons.1 hc
    · rfl
    · exact hnumeral h c hc

/-- The text of an integer is read as that integer. -/
theorem isInteger_toString (n : ℤ) : IsInteger (toString n).toList n := by
  cases n with
  | ofNat m =>
    have htext : (toString (Int.ofNat m)).toList = Nat.toDigits 10 m := String.toList_ofList
    rw [htext]
    exact .unsigned (isNumeral_toDigits m)
  | negSucc m =>
    have htext : (toString (Int.negSucc m)).toList = '-' :: Nat.toDigits 10 (m + 1) := by
      show ("-" ++ String.ofList (Nat.toDigits 10 (m + 1))).toList = _
      simp
    rw [htext]
    exact .minus (isNumeral_toDigits (m + 1))

/-- The written form of an integer spells it. -/
theorem spells_toString (n : ℤ) : Spells (toString n) n := by
  have hinteger := isInteger_toString n
  have hblank := isBlank_of_isInteger hinteger
  refine ⟨(toString n).toList, ⟨⟨[], [], by simp, by simp, by simp⟩, ?_, ?_⟩, hinteger⟩
  · exact fun c hc => hblank c (List.mem_of_mem_head? hc)
  · exact fun c hc => hblank c (List.mem_of_mem_getLast? hc)

end Digits

/-! ### Texts at integer kinds -/

namespace Registry

variable {types : Registry} {s : String} {k : IntegerKind} {n : ℤ}

/-- The bounds of the parser are those of 128 bits. -/
theorem isWithin_iff : widestLow ≤ n ∧ n ≤ widestHigh ↔ -2 ^ 127 ≤ n ∧ n < 2 ^ 127 := by
  have hpow : (1 <<< 127 : Nat) = 2 ^ 127 := Nat.one_shiftLeft 127
  simp only [widestLow, widestHigh, hpow]
  omega

/-- Intermediate results hold the integers of every kind. -/
theorem within_of_inRange (h : k.InRange n) : -2 ^ 127 ≤ n ∧ n < 2 ^ 127 := by
  obtain ⟨hlow, hhigh⟩ := range_widest k
  obtain ⟨hn, hn'⟩ := h
  exact isWithin_iff.1 ⟨by omega, by omega⟩

/-- A text goes to an integer kind by way of the integer that it spells. -/
theorem coerce_string (types : Registry) (s : String) (k : IntegerKind) :
    types.coerce (.string s) (.integer k) = match readNumeric s (.integer k) with
      | .ok n => ofNumeric (.integer k) n
      | .error e => .error e := by
  have hassignable : types.isAssignable .string (.integer k) = false :=
    types.isAssignable_eq_false_of_ne rfl rfl nofun
  simp only [coerce, HostValue.runtimeType?, Option.any_some, hassignable, kind, numeric?]
  cases readNumeric s (.integer k) <;> rfl

/-- A text that spells an integer is read, and then narrowed. -/
theorem coerce_string_of_spells (types : Registry) (k : IntegerKind) (h : Spells s n)
    (hwithin : -2 ^ 127 ≤ n ∧ n < 2 ^ 127) :
    types.coerce (.string s) (.integer k) = narrow k n := by
  have hread : readNumeric s (.integer k) = .ok (.int n) := by
    simp only [readNumeric, spells_iff.1 h, if_pos (isWithin_iff.2 hwithin)]
  rw [coerce_string, hread]
  rfl

/-- Any other text is refused by the parser. -/
theorem coerce_string_of_not_spells (types : Registry) (k : IntegerKind)
    (h : ¬ ∃ n, Spells s n ∧ -2 ^ 127 ≤ n ∧ n < 2 ^ 127) :
    types.coerce (.string s) (.integer k) = .error (.parse s k.name) := by
  have hread : readNumeric s (.integer k) = .error (.parse s k.name) := by
    simp only [readNumeric]
    split
    · next n hn =>
      have hwithin : ¬ (widestLow ≤ n ∧ n ≤ widestHigh) := fun hwithin =>
        h ⟨n, spells_iff.2 hn, isWithin_iff.1 hwithin⟩
      rw [if_neg hwithin]
      rfl
    · rfl
  rw [coerce_string, hread]

/-- Every integer of a kind is spelled by its text form, which the kind takes back. -/
theorem coerce_string_of_integer (types : Registry) (n : Sized k) :
    types.coerce (.integer k n) .string = .ok (.string (toString n.val)) ∧
      types.coerce (.string (toString n.val)) (.integer k) = .ok (.integer k n) := by
  have hassignable : types.isAssignable (.integer k) .string = false :=
    types.isAssignable_eq_false_of_ne rfl rfl nofun
  constructor
  · simp only [coerce, HostValue.runtimeType?, Option.any_some, hassignable, kind, format?]
    rfl
  · rw [coerce_string_of_spells types k (spells_toString n.val) (within_of_inRange n.inRange),
      narrow_val]

/-- A text at an integer kind: one that spells an integer of the kind becomes that integer, one that
spells another integer of 128 bits overflows, and every other is reported as it stands, blanks
included. An integer comes back from its text form. -/
theorem integer_texts (types : Registry) (k : IntegerKind) :
    (∀ s : String,
      (∀ w, types.coerce (.string s) (.integer k) = .ok w ↔
        ∃ n, ∃ h : k.InRange n, Spells s n ∧ w = .integer k ⟨n, h⟩) ∧
      (∀ text target, types.coerce (.string s) (.integer k) = .error (.overflow text target) ↔
        ∃ n, Spells s n ∧ ¬ k.InRange n ∧ (-2 ^ 127 ≤ n ∧ n < 2 ^ 127) ∧ text = toString n ∧
          target = k.name) ∧
      (types.coerce (.string s) (.integer k) = .error (.parse s k.name) ↔
        ¬ ∃ n, Spells s n ∧ -2 ^ 127 ≤ n ∧ n < 2 ^ 127)) ∧
    ∀ n : Sized k, ∃ text, types.coerce (.integer k n) .string = .ok (.string text) ∧
      types.coerce (.string text) (.integer k) = .ok (.integer k n) := by
  refine ⟨fun s => ?_, fun n => ⟨_, types.coerce_string_of_integer n⟩⟩
  by_cases h : ∃ n, Spells s n ∧ -2 ^ 127 ≤ n ∧ n < 2 ^ 127
  · obtain ⟨n, hs, hwithin⟩ := h
    -- a text spells one integer only, so each outcome is decided by that one
    have hunique {m : ℤ} (hm : Spells s m) : m = n := hm.unique hs
    rw [coerce_string_of_spells types k hs hwithin, narrow_eq]
    by_cases hrange : k.InRange n
    · rw [dif_pos hrange]
      refine ⟨fun w => ⟨?_, ?_⟩, fun text target => ⟨nofun, ?_⟩, nofun, fun h => ?_⟩
      · rintro ⟨⟩
        exact ⟨n, hrange, hs, rfl⟩
      · rintro ⟨m, hm, hspells, rfl⟩
        cases hunique hspells
        rfl
      · rintro ⟨m, hspells, hm, -⟩
        exact absurd (hunique hspells ▸ hrange) hm
      · exact absurd ⟨n, hs, hwithin⟩ h
    · rw [dif_neg hrange]
      refine ⟨fun w => ⟨nofun, ?_⟩, fun text target => ⟨?_, ?_⟩, nofun, fun h => ?_⟩
      · rintro ⟨m, hm, hspells, -⟩
        exact absurd (hunique hspells ▸ hm) hrange
      · rintro ⟨⟩
        exact ⟨n, hs, hrange, hwithin, rfl, rfl⟩
      · rintro ⟨m, hspells, -, -, rfl, rfl⟩
        rw [hunique hspells]
      · exact absurd ⟨n, hs, hwithin⟩ h
  · -- the text spells no integer within 128 bits, so all three outcomes are excluded but the parse
    -- failure
    have hparse := coerce_string_of_not_spells types k h
    rw [hparse]
    refine ⟨fun w => ⟨nofun, ?_⟩, fun text target => ⟨nofun, ?_⟩, fun _ => h, fun _ => rfl⟩
    · rintro ⟨n, hrange, hspells, -⟩
      exact absurd ⟨n, hspells, within_of_inRange hrange⟩ h
    · rintro ⟨n, hspells, -, hwithin, -⟩
      exact absurd ⟨n, hspells, hwithin⟩ h

end Registry

end Membrane
