import Membrane.Conversion.Extract
import Membrane.Conversion.ToHost
import Membrane.Engine
import Membrane.Store.Create
import Membrane.Store.Describe
import Membrane.Store.Show

/-! # Running programs

`Realm.answer` answers what programs ask for, and `Realm.run` runs a program. A part that holds an
instance runs with the instance marked as held, and the mark is taken back when the part ends, with
a result, an error or a panic.

Main statement: to run a program with a handler is to run the program, and then what the handler
makes of its end (`run_handle`).
-/

namespace Membrane.Realm

variable {ε : Type}

/-- The script form of a host value. -/
def fromHost (R : Realm) (v : HostValue) : Action ε ScriptValue :=
  Action.state (Store.fromHost R.types · v)

/-- A script value at a declared type. -/
def convertTo (R : Realm) (v : ScriptValue) (target : TypeId) : Action ConversionError HostValue :=
  do
    let s ← Action.getStore
    let result ← Action.ofOption (s.convertTo? R.types v target)
    Action.ofExcept result

/-- The host form of a script value. -/
def toHost (R : Realm) (v : ScriptValue) (target : Option TypeId) :
    Action ConversionError HostValue := do
  let s ← Action.getStore
  let result ← Action.ofOption (s.toHost? R.types v target)
  Action.ofExcept result

/-- Reads an instance's storage. -/
def peek (R : Realm) (ref : HostRef) (layout : String) : Action HostError Storage := do
  let s ← Action.getStore
  let i ← Action.ofExcept (s.borrow R.types ref layout .shared)
  return i.storage

/-- Changes an instance's storage. -/
def update (R : Realm) (ref : HostRef) (layout : String)
    (change : Storage → Except HostError Storage) : Action HostError Unit := do
  let s ← Action.getStore
  let i ← Action.ofExcept (s.borrow R.types ref layout .exclusive)
  let storage ← Action.ofExcept (change i.storage)
  Action.modify (·.modifyInstance ref.id fun i => { i with storage })

/-- Runs an action while an instance is held. -/
def holding {α : Type} (R : Realm) (ref : HostRef) (layout : String) (mode : BorrowMode)
    (act : Action HostError α) : Action HostError α := fun s =>
  match s.borrow R.types ref layout mode with
  | .error e => (.error e, s)
  | .ok _ =>
      -- released below whichever way the part ends, a panic included
      let (result, s) :=
        act (s.modifyInstance ref.id fun i => { i with borrow := i.borrow.acquire mode })
      (result, s.modifyInstance ref.id fun i => { i with borrow := i.borrow.release mode })

/-- Answers a query. -/
def answer (R : Realm) : (query : Query) → Action ε query.Answer
  | .enter hook => (R.enter hook).capture
  | .fromHost v => R.fromHost v
  | .toHost v target => (R.toHost v target).capture
  | .convertTo v target => (R.convertTo v target).capture
  | .coerce v target => pure (R.types.coerce v target)
  | .extract c v => pure (R.types.extract c v)
  | .newObject prototype => Action.state (·.newObject prototype)
  | .newArray elements => Action.state (·.newArray elements)
  | .wrap ref => Action.state (·.wrap R.types ref)
  | .typeReference type => Action.state (·.typeReference type)
  | .newInstance type storage => Action.state (·.newInstance type storage)
  | .hostTarget v => fun s => (.ok (v.object?.bind s.hostTarget?), s)
  | .describe v => fun s => (.ok (s.describe R.types v), s)
  | .global name => fun s => (.ok (s.global name), s)
  | .peek ref layout => (R.peek ref layout).capture
  | .update ref layout change => (R.update ref layout change).capture
  | .readStatic key => fun s => (.ok (s.readStatic key), s)
  | .writeStatic key v => Action.modify (·.writeStatic key v)
  | .record label this args => Action.modify (·.record R.types label this args)

/-- Runs a program. -/
def run (R : Realm) {y : Yield} : Program y → Action y.Failure y.Result
  | .done result => pure result
  | .fail cause => Action.throw cause
  | .panic payload => Action.panic payload
  | .ask query next => do
      let a ← R.answer query
      run R (next a)
  | .hold ref layout mode inside next => do
      let r ← (R.holding ref layout mode (run R inside)).capture
      run R (next r)
  | .makeFunction name body next => do
      let f ← Action.state (·.newFunction name body)
      run R (next f)

/-- Runs host code at the call boundary: a panic becomes an error, and errors become errors of the
script. -/
def guarded {α : Type} (act : Action HostError α) : Action BridgeError α :=
  act.contained.mapError .host

/-- A conversion leaves the store as it is. -/
theorem store_convertTo (R : Realm) (v : ScriptValue) (target : TypeId) (s : Store) :
    (R.convertTo v target s).2 = s := by
  simp only [convertTo, Action.bind_apply, Action.getStore]
  cases s.convertTo? R.types v target with
  | none => rfl
  | some result => cases result <;> rfl

/-- No query ends with an error of the program that asks it. -/
theorem answer_eq (R : Realm) (query : Query) :
    (R.answer query : Action ε query.Answer) =
      (R.answer query : Action Empty query.Answer).mapError nofun := by
  cases query with
  | enter => exact (Action.mapError_capture _ _).symm
  | toHost => exact (Action.mapError_capture _ _).symm
  | convertTo => exact (Action.mapError_capture _ _).symm
  | peek => exact (Action.mapError_capture _ _).symm
  | update => exact (Action.mapError_capture _ _).symm
  | _ => rfl

/-- Handling a failure within a program is capturing it outside. -/
theorem run_handle (R : Realm) {y z : Yield} (p : Program y) (next : y.Result → Program z)
    (onFail : y.Failure → Program z) :
    R.run (p.handle next onFail) = (R.run p).capture >>= fun
      | .ok a => R.run (next a)
      | .error e => R.run (onFail e) := by
  induction p with
  | done result => rfl
  | fail cause => rfl
  | panic payload => rfl
  | ask query k ih =>
    funext s
    simp only [Program.handle, run, ih, Action.bind_apply, Action.capture_apply]
    -- the two sides ask at different error types, and no answer is an error at either
    rw [answer_eq (ε := z.Failure), answer_eq (ε := Yield.Failure _)]
    unfold Action.mapError
    generalize (R.answer query : Action Empty _) s = r
    obtain ⟨o, t⟩ := r
    cases o with
    | error e => cases e
    | _ => rfl
  | hold ref layout mode inside k _ ih =>
    funext s
    simp only [Program.handle, run, ih, Action.bind_apply, Action.capture_apply]
    generalize R.holding ref layout mode (R.run inside) s = r
    obtain ⟨o, t⟩ := r
    cases o <;> rfl
  | makeFunction name body k _ ih =>
    funext s
    simp only [Program.handle, run, ih, Action.bind_apply, Action.capture_apply]
    rfl

end Membrane.Realm
