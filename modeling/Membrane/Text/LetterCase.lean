import Membrane.Text.CaseTable

/-! # Lower-casing text

`lowercase` is the full lower-casing of a text: each character by itself, except that a capital
sigma at the end of a word becomes a final sigma. A word ends at a sigma when a cased character
stands before it and none after it, where case-ignorable characters in between do not count.
-/

namespace Membrane.LetterCase

/-- A character with the property Uppercase; title-case letters do not have it. -/
def isUppercase (c : Char) : Bool := inRuns uppercaseRuns c

/-- The characters that have case. -/
def isCased (c : Char) : Bool := inRuns casedRuns c

/-- The characters that are passed over when the end of a word is sought. -/
def isCaseIgnorable (c : Char) : Bool := inRuns caseIgnorableRuns c

/-- The lower-case form of one character outside any context. -/
def lowerChar (c : Char) : List Char :=
  if c = 'İ' then ['i', '\u0307'] else [shiftIn lowercaseShifts c]

/-- The next character that is not case-ignorable is cased. -/
def casedNext (cs : List Char) : Bool :=
  match cs.dropWhile isCaseIgnorable with
  | c :: _ => isCased c
  | [] => false

/-- Lower-cases `cs`, which follows the characters of `before`, nearest first. -/
def lowerAfter (before : List Char) : List Char → List Char
  | [] => []
  | c :: rest =>
      -- the one character whose lower-case form depends on its neighbours
      (if c = 'Σ' then
        if casedNext before && !casedNext rest then ['ς'] else ['σ']
      else lowerChar c) ++ lowerAfter (c :: before) rest

/-- The full lower-casing of a text. -/
def lowercase (text : String) : String := String.ofList (lowerAfter [] text.toList)

end Membrane.LetterCase
