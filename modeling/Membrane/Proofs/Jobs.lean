import Membrane.Realm.Hooks

/-!
# What an entry runs

An entry into the engine runs closures of host and script on the way. `Realm.Runs` tells which: a
*job* is a closure together with what it is run for. The relation follows the engine function by
function, as far as the closures that an entry runs itself. What those run when they enter the engine
again is what that entry runs: `Engine.Inside` puts the entries together, and gives every point that
they come to, with the holds on instances that are open there. That the relation leaves no closure
out is `Realm.perform_congr`: entries that run their jobs alike are alike.

Most jobs are run at the call boundary, where a panic becomes an error. Those that are not
(`Job.isBare`) are the defaults of omitted arguments, default instances, and what scripts contribute
themselves.
-/

namespace Membrane

/-- What a closure is run for. -/
inductive Purpose where
  /-- Reading a field or property. -/
  | getter
  /-- Writing a field or property. -/
  | setter
  /-- Reading an indexed element. -/
  | elementGetter
  /-- Writing an indexed element. -/
  | elementSetter
  /-- Counting the elements of an instance. -/
  | count
  | method
  | constructor
  /-- The value of an argument that a call omits. -/
  | argumentDefault
  /-- The contents of the default instance of a value type. -/
  | instanceDefault
  | scriptFunction
  /-- Reading a slot that a script getter stands in. -/
  | scriptGetter
  deriving DecidableEq, Repr

/-- What is run for this purpose is run outside the call boundary. -/
def Purpose.isBare : Purpose → Bool
  | .argumentDefault | .instanceDefault | .scriptFunction | .scriptGetter => true
  | _ => false

/-- A closure, and what it is run for. -/
structure Job where
  purpose : Purpose
  {yield : Yield}
  program : Program yield

/-- The job is run outside the call boundary. -/
def Job.isBare (job : Job) : Bool := job.purpose.isBare

/-- `value instanceof callee` holds because the value is an instance of exactly the type that the
callee refers to. -/
def Store.isExactInstance (s : Store) (callee : ObjectId) (value : ScriptValue) : Bool :=
  match s.referencedType? callee, value.object?.bind s.hostTarget? with
  | some type, some ref => ref.type == type
  | _, _ => false

namespace Realm

/-- An exact instance is one without more ado; any other value is tested by its prototypes. -/
theorem hasInstance_eq (R : Realm) (callee : ObjectId) (value : ScriptValue) (s : Store) :
    R.hasInstance callee value s =
      if s.isExactInstance callee value then (.ok true, s)
      else R.ordinaryHasInstance callee value s := by
  -- the exact test needs a type reference and an instance; without either, the prototypes decide
  cases htype : s.referencedType? callee with
  | none =>
    simp only [hasInstance, Store.isExactInstance, Action.bind_apply, Action.getStore, htype]
    rfl
  | some type =>
    cases href : value.object?.bind s.hostTarget? with
    | none =>
      simp only [hasInstance, Store.isExactInstance, Action.bind_apply, Action.getStore, htype, href]
      rfl
    | some ref =>
      simp only [hasInstance, Store.isExactInstance, Action.bind_apply, Action.getStore, htype, href]
      cases ref.type == type <;> rfl

/-! ### Reading and writing -/

/-- Reading a descriptor runs the job on the store `s`. -/
inductive ReadsBy (R : Realm) (s : Store) : Descriptor → Job → Prop where
  | accessor {get flags} : ReadsBy R s (.accessor get flags) ⟨.scriptGetter, get⟩
  | count {target count} (hcount : (R.types.entry? target.type).bind (·.count) = some count) :
      ReadsBy R s (.count target) ⟨.count, count target⟩
  | field {member target} : ReadsBy R s (.field member target) ⟨.getter, member.get target⟩
  | property {member target get} (hget : member.get = some get) :
      ReadsBy R s (.property member target none) ⟨.getter, get target⟩
  | sharedProperty {member target cell get} (hunshadowed : s.heap.cell cell = none)
      (hget : member.get = some get) :
      ReadsBy R s (.sharedProperty member target cell) ⟨.getter, get target⟩
  | index {member target key get k} (hget : member.get = some get)
      (hkey : R.indexKey member key = .ok k) :
      ReadsBy R s (.index member target key) ⟨.elementGetter, get target k⟩

/-- Writing a value to a descriptor runs the job on the store `s`: conversions run nothing and leave
the store as it is. -/
inductive WritesBy (R : Realm) (value : ScriptValue) (s : Store) : Descriptor → Job → Prop where
  | field {member target set v} (hset : member.set = some set)
      (hvalue : R.convertTo value member.type s = (.ok v, s)) :
      WritesBy R value s (.field member target) ⟨.setter, set target v⟩
  | property {member target shadow set v} (hset : member.set = some set)
      (hvalue : R.convertTo value member.type s = (.ok v, s)) :
      WritesBy R value s (.property member target shadow) ⟨.setter, set target v⟩
  | sharedProperty {member target cell set v} (hset : member.set = some set)
      (hvalue : R.convertTo value member.type s = (.ok v, s)) :
      WritesBy R value s (.sharedProperty member target cell) ⟨.setter, set target v⟩
  | index {member target key set k v} (hset : member.set = some set)
      (hkey : R.indexKey member key = .ok k)
      (hvalue : R.convertTo value member.valueType s = (.ok v, s)) :
      WritesBy R value s (.index member target key) ⟨.elementSetter, set target k v⟩

/-- The first of the objects that has the property has it as this descriptor, and the store is `t`
when it is found. -/
inductive Finds (R : Realm) (name : String) : List ObjectId → Store → Descriptor → Store → Prop where
  | here {id rest s h t}
      (hfound : (R.present id name : Action BridgeError _) s = (.ok (some h), t)) :
      Finds R name (id :: rest) s h.descriptor t
  | next {id rest s t d u}
      (hmissing : (R.present id name : Action BridgeError _) s = (.ok none, t))
      (hrest : Finds R name rest t d u) : Finds R name (id :: rest) s d u

/-- Reading a property of an object runs the job on the store `t`. -/
def Reads (R : Realm) (id : ObjectId) (name : String) (s : Store) (job : Job) (t : Store) : Prop :=
  ∃ d, R.Finds name (s.heap.chain id) s d t ∧ R.ReadsBy t d job

/-- Reading elements of an object in order runs the job on the store `t`. -/
inductive ReadsElements (R : Realm) (id : ObjectId) : List Nat → Store → Job → Store → Prop where
  | here {i rest s job t} (hread : R.Reads id (toString i) s job t) :
      ReadsElements R id (i :: rest) s job t
  | later {i rest s v t job u} (hread : R.get id (toString i) s = (.ok v, t))
      (hrest : ReadsElements R id rest t job u) : ReadsElements R id (i :: rest) s job u

/-! ### Calls -/

/-- Converting the arguments of a candidate runs the job on the store `t`. -/
inductive SuppliedBy (R : Realm) :
    List Parameter → List ScriptValue → Store → Job → Store → Prop where
  | default {p params default s} (hdefault : p.default = some default) :
      SuppliedBy R (p :: params) [] s ⟨.argumentDefault, default⟩ s
  | afterDefault {p params default s v t job u} (hdefault : p.default = some default)
      (hrun : R.run default s = (.ok v, t)) (hrest : SuppliedBy R params [] t job u) :
      SuppliedBy R (p :: params) [] s job u
  | afterArgument {p params arg args s v t job u} (harg : R.convertTo arg p.type s = (.ok v, t))
      (hrest : SuppliedBy R params args t job u) :
      SuppliedBy R (p :: params) (arg :: args) s job u

/-- Trying candidates in order runs the job on the store `t`; `attempt` is how one is tried. -/
inductive Tries {y : Yield} {α : Type} (R : Realm) (purpose : Purpose) (this : Option HostRef)
    (args : List ScriptValue) (attempt : Candidate y → Action BridgeError α) :
    List (Candidate y) → Store → Job → Store → Prop where
  | argument {c rest s job t} (harg : R.SuppliedBy c.params args s job t) :
      Tries R purpose this args attempt (c :: rest) s job t
  | body {c rest s values t} (hargs : R.convertArguments 0 c.params args s = (.ok values, t)) :
      Tries R purpose this args attempt (c :: rest) s ⟨purpose, c.body ⟨this, values⟩⟩ t
  | later {c rest s e t job u} (hfailed : attempt c s = (.error e, t))
      (hrest : Tries R purpose this args attempt rest t job u) :
      Tries R purpose this args attempt (c :: rest) s job u

/-- The methods of a group, as a call tries them. -/
def methodCandidates (R : Realm) (group : MethodGroup) (args : List ScriptValue) (s : Store) :
    List (Candidate .value) :=
  inOrder (group.methods.map fun m => ⟨m.params, m.body⟩)
    (R.ranker.order R.types s (group.methods.map (·.params)) args)

/-- The constructors of a type, as a construction tries them. -/
def constructorCandidates (R : Realm) (type : TypeId) (args : List ScriptValue) (s : Store) :
    List (Candidate .storage) :=
  inOrder ((R.types.constructors type).map fun c => ⟨c.params, c.body⟩)
    (R.ranker.order R.types s ((R.types.constructors type).map (·.params)) args)

/-- What makes the contents of a type's default instance, if it is a value type that has one. -/
def instanceDefault? (R : Realm) (type : TypeId) : Option (Program .storage) :=
  match R.types.kind type with
  | .declared .value => (R.types.entry? type).bind (·.defaultInstance)
  | _ => none

/-- A construction tries the constructors: the default value of a value type does without them. -/
def searchesConstructors (R : Realm) (type : TypeId) (args : List ScriptValue) : Bool :=
  !(args.isEmpty && R.types.isValueType type) ||
    (R.types.kind type == .declared .value && (R.instanceDefault? type).isNone)

/-- Constructing a type runs the job on the store `t`. -/
inductive Constructs (R : Realm) (type : TypeId) :
    List ScriptValue → Store → Job → Store → Prop where
  | default {s make} (hmake : R.instanceDefault? type = some make) :
      Constructs R type [] s ⟨.instanceDefault, make⟩ s
  | overload {args s job t} (hsearch : R.searchesConstructors type args)
      (htry : R.Tries .constructor none args (R.tryConstructor args)
        (R.constructorCandidates type args s) s job t) :
      Constructs R type args s job t

/-- Calling an object runs the job on the store `t`. -/
inductive Calls (R : Realm) (callee : ObjectId) (this : ScriptValue) (args : List ScriptValue) :
    Store → Job → Store → Prop where
  | function {s name body} (hsort : s.sort? callee = some (.function name body)) :
      Calls R callee this args s ⟨.scriptFunction, body this args⟩ s
  | methods {s group target job t} (hsort : s.sort? callee = some (.methods group target))
      (htry : R.Tries .method target args (R.tryCandidate target args)
        (R.methodCandidates group args s) s job t) :
      Calls R callee this args s job t
  | type {s type job t} (hsort : s.sort? callee = some (.typeReference type))
      (hnew : R.Constructs type args s job t) : Calls R callee this args s job t

/-! ### Entries -/

/-- An entry into the engine on the store `s` runs the job on the store `t`. -/
inductive Runs (R : Realm) : Hook → Store → Job → Store → Prop where
  | getMember {id name s job t} (hread : R.Reads id name s job t) :
      Runs R (.getMember (.object id) name) s job t
  | setMember {id name value s h t job}
      (hfound : (R.present id name : Action BridgeError _) s = (.ok (some h), t))
      (hwritable : h.descriptor.isWritable) (hwrite : R.WritesBy value t h.descriptor job) :
      Runs R (.setMember id name value) s job t
  | call {callee this args id s job t} (hcallee : callee.object?.filter s.isCallable = some id)
      (hcall : R.Calls id this args s job t) : Runs R (.call callee this args) s job t
  -- a call by name reads the method first, and calls what it has read
  | lookUp {id name args s job t} (hread : R.Reads id name s job t) :
      Runs R (.callMethod (.object id) name args) s job t
  | callMethod {base name args s callee t id job u}
      (hmember : R.getMember base name s = (.ok callee, t))
      (hcallee : callee.object?.filter t.isCallable = some id)
      (hcall : R.Calls id base args t job u) : Runs R (.callMethod base name args) s job u
  | construct {id args s type job t} (hsort : s.sort? id = some (.typeReference type))
      (hnew : R.Constructs type args s job t) : Runs R (.construct (.object id) args) s job t
  | instanceOf {id callee s job t} (hcallable : s.isCallable callee)
      (hother : s.isExactInstance callee (.object id) = false)
      (hread : R.Reads callee "prototype" s job t) :
      Runs R (.instanceOf (.object id) (.object callee)) s job t
  -- a sequence has its length read before its elements
  | length {id s job t} (hsequence : s.isArrayLike R.types id)
      (hread : R.Reads id "length" s job t) : Runs R (.arrayLike id) s job t
  | element {id s length t x job u} (hsequence : s.isArrayLike R.types id)
      (hlength : R.get id "length" s = (.ok length, t)) (hnumber : length.number? = some x)
      (hshort : x.exceeds longestSequence = false)
      (hread : R.ReadsElements id (List.range x.positivePart) t job u) :
      Runs R (.arrayLike id) s job u

end Realm

/-! ### Entries inside entries -/

namespace Store

/-- One more call holds the instance. -/
def acquire (s : Store) (id : Nat) (mode : BorrowMode) : Store :=
  s.modifyInstance id fun i => { i with borrow := i.borrow.acquire mode }

/-- The call that took hold of the instance last lets it go. -/
def release (s : Store) (id : Nat) (mode : BorrowMode) : Store :=
  s.modifyInstance id fun i => { i with borrow := i.borrow.release mode }

end Store

namespace Engine

/-- During the entry `hook` on the store `s`, a program goes on with `p` on the store `t`, granted
`d` further entries inside each other. The list has the holds of the enclosing calls, the innermost
first: the number of the instance, and how it is held. Jobs that `follow` does not admit are not
looked into. -/
inductive Inside (E : Engine) (follow : Job → Prop) (depth : Nat) (hook : Hook) (s : Store) :
    (d : Nat) → List (Nat × BorrowMode) → {y : Yield} → (p : Program y) → (t : Store) → Prop where
  /-- The entry runs a job. -/
  | job {job t} (hruns : (E.realm depth).Runs hook s job t) (hfollow : follow job) :
      Inside E follow depth hook s depth [] job.program t
  /-- What was asked for has been answered. -/
  | answered {d held y query} {next : Query.Answer query → Program y} {t a u}
      (h : Inside E follow depth hook s d held (.ask query next) t)
      (hanswer : ((E.realm d).answer query : Action y.Failure _) t = (.ok a, u)) :
      Inside E follow depth hook s d held (next a) u
  /-- An instance has been taken hold of. -/
  | held {d held y ref layout mode inside} {next : Except HostError HostValue → Program y} {t i}
      (h : Inside E follow depth hook s d held (.hold ref layout mode inside next) t)
      (hborrow : t.borrow E.types ref layout mode = .ok i) :
      Inside E follow depth hook s d ((ref.id, mode) :: held) inside (t.acquire ref.id mode)
  /-- An instance has been let go, or could not be taken hold of. -/
  | released {d held y ref layout mode inside} {next : Except HostError HostValue → Program y}
      {t r u} (h : Inside E follow depth hook s d held (.hold ref layout mode inside next) t)
      (hheld : ((((E.realm d).holding ref layout mode ((E.realm d).run inside)).capture :
        Action y.Failure _) t) = (.ok r, u)) :
      Inside E follow depth hook s d held (next r) u
  /-- A function has been made. -/
  | made {d held y name body} {next : ScriptValue → Program y} {t}
      (h : Inside E follow depth hook s d held (.makeFunction name body next) t) :
      Inside E follow depth hook s d held (next (t.newFunction name body).1)
        (t.newFunction name body).2
  /-- The engine has been entered again, and this entry runs a job. -/
  | reentered {d held y inner} {next : Except BridgeError inner.Answer → Program y} {t job u}
      (h : Inside E follow depth hook s (d + 1) held (.ask (.enter inner) next) t)
      (hruns : (E.realm d).Runs inner t job u) (hfollow : follow job) :
      Inside E follow depth hook s d held job.program u

end Engine

end Membrane
