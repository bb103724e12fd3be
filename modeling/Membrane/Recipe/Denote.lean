import Membrane.Member.Accessor
import Membrane.Recipe.Expression

/-! # What recipes denote

Expressions are turned into programs that make the value and go on with it; bodies are turned into
the programs of script functions and host members.
-/

namespace Membrane

namespace Program

/-- Wraps a value in `depth` arrays of one element. -/
def nest {y : Yield} (next : ScriptValue → Program y) : Nat → ScriptValue → Program y
  | 0, v => next v
  | depth + 1, v => .ask (.newArray [v]) fun v => nest next depth v

end Program

mutual

/-- Makes the value of a script expression and goes on with it. -/
def ScriptExpr.eval {y : Yield} : ScriptExpr → (ScriptValue → Program y) → Program y
  | .value v, next => next v
  | .variable name, next => .ask (.global name) next
  | .array elements, next => evalScripts elements fun vs => .ask (.newArray vs) next
  | .object none, next => .ask (.newObject none) next
  | .object (some prototype), next =>
      prototype.eval fun p => .ask (.newObject p.object?) next
  | .nested inner depth, next => inner.eval (.nest next depth)
  | .filled element count, next =>
      element.eval fun v =>
        if count ≤ roomForValues then .ask (.newArray (List.replicate count v)) next
        else .panic .capacityOverflow
  | .function name body, next => .makeFunction name (fun this args => body.denote this args) next
  | .typeReference type, next => .ask (.typeReference type) next
  | .wrapper type layout slotNames slotValues items dictNames dictValues, next =>
      evalHosts slotValues fun slots =>
        evalHosts items fun items =>
          evalHosts dictValues fun dict =>
            .ask (.newInstance type
                ⟨layout, .ofList (slotNames.zip slots), items, .ofList (dictNames.zip dict)⟩)
              fun ref => .ask (.wrap ref) next
  | .rewrapped inner, next =>
      inner.eval fun v => .ask (.hostTarget v) fun
        | some ref => .ask (.wrap ref) next
        | none => next v
  | .fromHost v, next => v.eval fun h => .ask (.fromHost h) next

/-- Makes the value of a host expression and goes on with it. -/
def HostExpr.eval {y : Yield} : HostExpr → (HostValue → Program y) → Program y
  | .value v, next => next v
  | .array elementType items, next => evalHosts items fun items => next (.array elementType items)
  | .target wrapper, next =>
      wrapper.eval fun v => .ask (.hostTarget v) fun
        | some ref => next (.object ref)
        | none => next .null
  | .script v, next => v.eval fun v => next (.script v)

/-- Makes the values of script expressions, in order. -/
def evalScripts {y : Yield} : List ScriptExpr → (List ScriptValue → Program y) → Program y
  | [], next => next []
  | e :: rest, next => e.eval fun v => evalScripts rest fun vs => next (v :: vs)

/-- Makes the values of host expressions, in order. -/
def evalHosts {y : Yield} : List HostExpr → (List HostValue → Program y) → Program y
  | [], next => next []
  | e :: rest, next => e.eval fun v => evalHosts rest fun vs => next (v :: vs)

/-- The program of a script function. -/
def ScriptBody.denote : ScriptBody → ScriptValue → List ScriptValue → Program .script
  | .result v, _, _ => v.eval fun v => .done v
  | .argument position, _, args => .done (args.getD position .undefined)
  | .this, this, _ => .done this
  | .arguments, _, args => .ask (.newArray args) fun v => .done v
  | .throw e, _, _ => .fail e
  | .member name, this, _ => .ask (.enter (.getMember this name)) (.attempt id · fun v => .done v)
  | .memberOfFirst name, _, args =>
      .ask (.enter (.getMember (args.getD 0 .undefined) name)) (.attempt id · fun v => .done v)

end

namespace HostBody

/-- Goes on with an argument of the call, or fails if it is missing. -/
def withArgument {y : Yield} (call : HostCall) (position : Nat) (refuse : HostError → y.Failure)
    (next : HostValue → Program y) : Program y :=
  match call.args[position]? with
  | some v => next v
  | none => .fail (refuse (.missingArgument position))

/-- A sequence without an element type of its own. -/
def untyped (items : List HostValue) : HostValue := (HostSequence.untyped items).toValue

/-- Changes the storage of the instance. -/
def change (layout : String) (call : HostCall) (f : Storage → Except HostError Storage) :
    Program .value :=
  .withInstance call.this id fun ref =>
    .ask (.update ref layout f) (.attempt id · fun () => .done .undefined)

/-- Looks at the storage of the instance. -/
def inspect (layout : String) (call : HostCall) (f : Storage → Except HostError HostValue) :
    Program .value :=
  .withInstance call.this id fun ref =>
    .ask (.peek ref layout) (.attempt id · fun storage => .attempt id (f storage) fun v => .done v)

/-- The script forms of host values, in order. -/
def toScripts {y : Yield} (next : List ScriptValue → Program y) : List HostValue → Program y
  | [] => next []
  | v :: rest => .ask (.fromHost v) fun s => toScripts (fun others => next (s :: others)) rest

/-- An answer of the engine, as the result of host code: an error becomes a message. -/
def ofScript (answer : Except BridgeError ScriptValue) : Program .value :=
  .attempt (fun e => .message e.message) answer fun v => .done (.script v)

/-- The diagnostic texts of host values, in order. -/
def describeAll {y : Yield} (next : List String → Program y) : List HostValue → Program y
  | [] => next []
  | v :: rest => .ask (.describe v) fun s => describeAll (fun others => next (s :: others)) rest

mutual

/-- The arguments that are left in the call after a body: what was taken is undefined. -/
def argumentsAfter : HostBody → List HostValue → List HostValue
  | .take position, args => args.set position .undefined
  | .holding _ body, args => argumentsAfter body args
  | .sequence bodies, args => argumentsAfterAll bodies args
  | _, args => args

/-- The arguments that are left after bodies in order. -/
def argumentsAfterAll : List HostBody → List HostValue → List HostValue
  | [], args => args
  | body :: rest, args => argumentsAfterAll rest (argumentsAfter body args)

end

mutual

/-- The program of a host member whose instances have the given layout. -/
def denote (layout : String) : HostBody → HostCall → Program .value
  | .result v, _ => v.eval fun v => .done v
  | .slot name, call =>
      inspect layout call fun storage => .ok ((storage.slots.find? name).getD .undefined)
  | .setSlot name position, call =>
      withArgument call position id fun v =>
        change layout call fun storage =>
          .ok { storage with slots := storage.slots.insert name v }
  | .arguments, call => .done (untyped call.args)
  | .argumentCount, call =>
      .done ((HostValue.ofInt? .int32 call.args.length).getD .undefined)
  | .describeArguments, call =>
      describeAll (fun texts => .done (.string ("[" ++ ", ".intercalate texts ++ "]"))) call.args
  | .argument position, call => withArgument call position id fun v => .done v
  | .extract c position, call =>
      withArgument call position id fun v =>
        .ask (.extract c v) (.attempt .conversion · fun r => .done (c.wrap r))
  | .take position, call =>
      withArgument call position id fun v => .done (untyped [v, .undefined])
  | .push position, call =>
      withArgument call position id fun v =>
        change layout call fun storage => .ok { storage with items := storage.items ++ [v] }
  | .lookup position, call =>
      withArgument call position id fun key =>
        Accessor.placeOf key fun place =>
          inspect layout call fun storage => Accessor.lookup storage place
  | .assign, call =>
      withArgument call 0 id fun key =>
        withArgument call 1 id fun v =>
          Accessor.placeOf key fun place =>
            change layout call fun storage => Accessor.assign v storage place
  | .clear, call => change layout call fun storage => .ok { storage with items := [] }
  | .this, call => .done ((call.this.map HostValue.object).getD .null)
  | .fail e, _ => .fail e
  | .panic payload, _ => .panic payload
  | .holding mode body, call =>
      .withInstance call.this id fun ref =>
        .hold ref layout mode (denote layout body call) (.attempt id · fun v => .done v)
  | .invoke position args, call =>
      withArgument call position id fun callee =>
        .ask (.extract .script callee) (.attempt .conversion · fun callee =>
          evalHosts args fun args =>
            toScripts (fun args => .ask (.enter (.call callee .undefined args)) ofScript) args)
  | .member name, call =>
      match call.this with
      -- the engine has no instance to wrap
      | none => .fail (.message "no this")
      | some ref => .ask (.wrap ref) fun base => .ask (.enter (.getMember base name)) ofScript
  | .sequence bodies, call => denoteAll layout bodies call .undefined

/-- The program of bodies in order, after one that gave `last`. -/
def denoteAll (layout : String) : List HostBody → HostCall → HostValue → Program .value
  | [], _, last => .done last
  | body :: rest, call, _ =>
      (denote layout body call).handle
        (fun v => denoteAll layout rest { call with args := argumentsAfter body call.args } v)
        .fail

end

/-- A body that notes the call first. -/
def logged (label : Option String) {y : Yield} (body : HostCall → Program y) (call : HostCall) :
    Program y :=
  match label with
  | some label => .ask (.record label call.this call.args) fun () => body call
  | none => body call

/-- Runs named bodies in order and collects their results. -/
def collect (layout : String) (call : HostCall) :
    List (String × HostBody) → TextMap HostValue → (TextMap HostValue → Program .storage) →
      Program .storage
  | [], slots, next => next slots
  | (name, body) :: rest, slots, next =>
      (denote layout body call).handle
        (fun v => collect layout { call with args := argumentsAfter body call.args } rest
          (slots.insert name v) next)
        fun e => .fail e

/-- The program of a constructor: a body, and then the initial slots in the order of their
names. -/
def construct (layout : String) (body : Option HostBody) (init : List (String × HostBody))
    (call : HostCall) : Program .storage :=
  let slots := (TextMap.ofList init).entries
  let build (call : HostCall) : Program .storage :=
    collect layout call slots ∅ fun slots => .done { Storage.empty layout with slots }
  match body with
  | none => build call
  | some body =>
      (denote layout body call).handle
        (fun _ => build { call with args := argumentsAfter body call.args }) fun e => .fail e

/-- A body as the reading half of a property. -/
def getter (layout : String) (body : HostBody) : Getter := fun this => body.denote layout ⟨this, []⟩

/-- A body as the writing half of a property. -/
def setter (layout : String) (body : HostBody) : Setter := fun this v =>
  (body.denote layout ⟨this, [v]⟩).handle (fun _ => .done ()) fun e => .fail e

/-- A body as the reading half of an indexer. -/
def elementGetter (layout : String) (body : HostBody) (ref : HostRef) (key : HostValue) :
    Program .value :=
  body.denote layout ⟨some ref, [key]⟩

/-- A body as the writing half of an indexer. -/
def elementSetter (layout : String) (body : HostBody) (ref : HostRef) (key v : HostValue) :
    Program .nothing :=
  (body.denote layout ⟨some ref, [key, v]⟩).handle (fun _ => .done ()) fun e => .fail e

end HostBody

end Membrane
