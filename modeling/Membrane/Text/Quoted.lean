import Membrane.Text.QuotedTable

/-! # Quoted text

The diagnostic form of a text: in double quotes, with a backslash before a quote or a backslash,
short escapes for the null character, tab, line feed and carriage return, and the hexadecimal code
point of every character that extends the one before it, leaves no trace or cannot be printed.
-/

namespace Membrane.Quoted

/-- A character that is shown by its code point. -/
def isHidden (c : Char) : Bool :=
  inRuns extendingRuns c || inRuns ignorableRuns c || inRuns unprintableRuns c

/-- One character inside quotes. -/
def escape (c : Char) : List Char :=
  match c with
  | '\x00' => ['\\', '0']
  | '\t' => ['\\', 't']
  | '\n' => ['\\', 'n']
  | '\r' => ['\\', 'r']
  | '"' => ['\\', '"']
  | '\\' => ['\\', '\\']
  | c =>
    if isHidden c then ['\\', 'u', '\x7b'] ++ Nat.toDigits 16 c.toNat ++ ['\x7d'] else [c]

/-- A text in quotes. -/
def quote (text : String) : String :=
  String.ofList ('"' :: text.toList.flatMap escape ++ ['"'])

end Membrane.Quoted
