import Membrane.Number.Shortest
import Membrane.Store
import Membrane.Text.Quoted

/-! # Diagnostic texts of values -/

namespace Membrane.Store

/-- The diagnostic text of a script value. -/
def describeScript (s : Store) (types : Registry) : ScriptValue → String
  | .undefined => "undefined"
  | .null => "null"
  | .boolean b => toString b
  | .number x => x.text .plain
  | .string text => Quoted.quote text
  | .object id => s!"[object {s.className types id}]"

/-- The name of the variant that an integer kind has in diagnostics. -/
def variantName : IntegerKind → String
  | .int8 => "Int8" | .int16 => "Int16" | .int32 => "Int32" | .int64 => "Int64"
  | .uint8 => "UInt8" | .uint16 => "UInt16" | .uint32 => "UInt32" | .uint64 => "UInt64"

/-- The diagnostic text of a host value: its variant, and its contents in parentheses. -/
def describe (s : Store) (types : Registry) : HostValue → String
  | .undefined => "Undefined"
  | .null => "Null"
  | .bool b => s!"Bool({b})"
  | .integer k n => s!"{variantName k}({n.val})"
  | .float x => s!"Float({x.text .plain})"
  | .double x => s!"Double({x.text .plain})"
  | .string text => s!"String({Quoted.quote text})"
  | .constant type n => s!"Enum({types.name type}::{n.val})"
  | .object ref => s!"Object({types.name ref.type})"
  | .array elementType items => s!"Array({types.name elementType}[{items.length}])"
  | .hostType id => s!"Type({types.name id})"
  | .script v => s!"Script({s.describeScript types v})"

/-- The diagnostic texts of values, in brackets. -/
def describeList (texts : List String) : String := "[" ++ ", ".intercalate texts ++ "]"

end Membrane.Store
