/-! # Errors

Three families of failures: a value that cannot take a requested shape, a member access or call
that cannot be carried out, and a failure that host code reports. Every failure reaches a script as
a type error.
-/

namespace Membrane

/-- A value cannot be represented as requested. -/
inductive ConversionError where
  /-- The value's shape conflicts with the requested type. -/
  | incompatible (source target : String)
  /-- A number outside the range of the requested kind. -/
  | overflow (value target : String)
  /-- A text that does not spell a value of the requested kind. -/
  | parse (text target : String)
  deriving DecidableEq, Repr

/-- The text that a failed conversion is reported with. -/
def ConversionError.message : ConversionError → String
  | .incompatible source target => s!"cannot convert {source} to type {target}"
  | .overflow value target => s!"integer overflow: {value} doesn't fit in {target}"
  | .parse text target => s!"cannot parse '{text}' as {target}"

/-- The kind of failure, as reports name it. -/
def ConversionError.kind : ConversionError → String
  | .incompatible .. => "Conversion.Incompatible"
  | .overflow .. => "Conversion.Overflow"
  | .parse .. => "Conversion.Parse"

/-- A member access or a call could not be carried out. -/
inductive InvocationError where
  /-- A strict write to a name that resolves to nothing. -/
  | unknownMember (name : String)
  /-- A strict write to a slot that is not writable. -/
  | readOnly (name : String)
  /-- No constructor accepted the arguments. -/
  | noMatchingConstructor (type : String)
  /-- No method of the group accepted the arguments. -/
  | noMatchingMethod (type name : String)
  /-- Properties cannot be defined on a type reference. -/
  | defineOnTypeReference (type name : String)
  | notCallable (what : String)
  | notConstructor (what : String)
  /-- Iteration over an object that is no sequence. -/
  | notArrayLike (what : String)
  /-- A strict delete of a permanent property. -/
  | notConfigurable (name : String)
  deriving DecidableEq, Repr

/-- The text that a failed invocation is reported with. -/
def InvocationError.message : InvocationError → String
  | .unknownMember name => s!"Unknown member: {name}"
  | .readOnly name => s!"cannot assign to read-only member '{name}'"
  | .noMatchingConstructor type =>
      s!"no public constructor of '{type}' matches the specified arguments"
  | .noMatchingMethod type name =>
      s!"no public method '{type}.{name}' matches the specified arguments"
  | .defineOnTypeReference type name =>
      s!"can't define property '{name}' on type reference '{type}'"
  | .notCallable what => s!"{what} is not a function"
  | .notConstructor what => s!"{what} is not a constructor"
  | .notArrayLike what => s!"{what} is not array-like"
  | .notConfigurable name => s!"cannot delete non-configurable property '{name}'"

/-- The kind of failure, as reports name it. -/
def InvocationError.kind : InvocationError → String
  | .unknownMember _ => "Invocation.UnknownMember"
  | .readOnly _ => "Invocation.ReadOnly"
  | .noMatchingConstructor _ => "Invocation.NoMatchingConstructor"
  | .noMatchingMethod .. => "Invocation.NoMatchingMethod"
  | .defineOnTypeReference .. => "Invocation.DefineOnTypeReference"
  | .notCallable _ => "Invocation.NotCallable"
  | .notConstructor _ => "Invocation.NotConstructor"
  | .notArrayLike _ => "Invocation.NotArrayLike"
  | .notConfigurable _ => "Invocation.NotConfigurable"

/-- A failure reported by host code. -/
inductive HostError where
  /-- A failure in the host's own words. -/
  | message (text : String)
  /-- The instance is not of the kind that the member works on. -/
  | targetMismatch (expected actual : String)
  /-- The instance is held by an outer call. -/
  | busy (type : String)
  | keyNotFound (key : String)
  | missingArgument (index : Nat)
  /-- Host code panicked, and the panic was contained. -/
  | panicked (text : String)
  /-- An argument did not have the shape that host code asked for. -/
  | conversion (cause : ConversionError)
  deriving DecidableEq, Repr

/-- The text that a failure of the host is reported with. -/
def HostError.text : HostError → String
  | .message text => text
  | .targetMismatch expected actual =>
      s!"host target mismatch: expected {expected}, got {actual}"
  | .busy type => s!"host instance of '{type}' is busy in an outer call"
  | .keyNotFound key => s!"key not found: {key}"
  | .missingArgument index => s!"missing argument {index}"
  | .panicked text => s!"host member panicked: {text}"
  | .conversion cause => cause.message

/-- The kind of failure, as reports name it. -/
def HostError.kind : HostError → String
  | .message _ => "Host.Message"
  | .targetMismatch .. => "Host.TargetMismatch"
  | .busy _ => "Host.Busy"
  | .keyNotFound _ => "Host.KeyNotFound"
  | .missingArgument _ => "Host.MissingArgument"
  | .panicked _ => "Host.Panicked"
  | .conversion cause => "Host." ++ cause.kind

/-- A failure as scripts see it. -/
inductive BridgeError where
  | conversion (cause : ConversionError)
  | invocation (cause : InvocationError)
  | host (cause : HostError)
  deriving DecidableEq, Repr

namespace BridgeError

/-- The text that the script sees. -/
def message : BridgeError → String
  | .conversion cause => s!"TypeError: {cause.message}"
  | .invocation cause => s!"TypeError: {cause.message}"
  | .host cause => s!"TypeError: {cause.text}"

/-- The kind of failure, as reports name it. -/
def kind : BridgeError → String
  | .conversion cause => cause.kind
  | .invocation cause => cause.kind
  | .host cause => cause.kind

/-- Every failure is a type error to the script. -/
def isTypeError (_ : BridgeError) : Bool := true

/-- The conversion failure behind an error, also one inside host code. -/
def conversion? : BridgeError → Option ConversionError
  | .conversion cause | .host (.conversion cause) => some cause
  | _ => none

/-- The failure, if it is one of the invocation. -/
def invocation? : BridgeError → Option InvocationError
  | .invocation cause => some cause
  | _ => none

end BridgeError

end Membrane
