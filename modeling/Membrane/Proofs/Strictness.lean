import Membrane.Proofs.Monotonicity

/-!
# Strict writing is lenient writing plus errors

A refused write or delete is an error under `strict` and does nothing otherwise. On one realm the
two sorts of writing differ in nothing else (`Realm.put_milder`, `Realm.delete_milder`). What code
does that writes through the engine itself can depend on which of the two answers it gets, so two
engines are compared along histories during which no code does (`Engine.Quiet`): code that writes
gets to no end in `Engine.quietRealm`, and everything that ends there ends in the same way in the
engine, strict or lenient.

## Key results

* `Engine.lenient_take_eq_excuse`: along a history, the strict and the lenient run leave the same
  stores, and the lenient answer is the strict one with its refusals excused.
-/

namespace Membrane

/-- An access was refused because of what stands in the slot, or because nothing does. -/
def BridgeError.isRefusal : BridgeError → Bool
  | .invocation (.readOnly _) | .invocation (.unknownMember _) | .invocation (.notConfigurable _) =>
      true
  | _ => false

/-- The outcome with `mild` in the place of a refusal. -/
def Outcome.excuse {α : Type} (mild : α) : Outcome BridgeError α → Outcome BridgeError α
  | .error e => if e.isRefusal then .ok mild else .error e
  | outcome => outcome

/-- What ends still ends when its refusal is excused. -/
theorem Outcome.excuse_ne_exhausted {α : Type} {mild : α} {outcome : Outcome BridgeError α}
    (h : outcome ≠ .exhausted) : outcome.excuse mild ≠ .exhausted := by
  cases outcome with
  | error e =>
    simp only [excuse]
    split <;> exact nofun
  | ok a => exact nofun
  | panicked payload => exact nofun
  | exhausted => exact absurd rfl h

/-- The store that looking for an own property leaves. -/
def Engine.lookedUp (E : Engine) (id : ObjectId) (name : String) (s : Store) : Store :=
  (E.ownProperty s id name).2

namespace Action

variable {ε α β : Type}

/-! ### Actions that refuse nothing -/

/-- No error of the action is a refusal. -/
def Unrefusing (act : Action BridgeError α) : Prop :=
  ∀ s e, (act s).1 = .error e → e.isRefusal = false

/-- A change of the store refuses nothing. -/
private theorem unrefusing_state (f : Store → α × Store) : Unrefusing (state f) := nofun

/-- A result refuses nothing. -/
theorem unrefusing_pure (a : α) : Unrefusing (pure a) := unrefusing_state fun s => (a, s)

/-- A change of the store without a result refuses nothing. -/
private theorem unrefusing_modify (f : Store → Store) : Unrefusing (modify f) :=
  unrefusing_state fun s => ((), f s)

/-- Two actions refuse nothing if neither of them does. -/
theorem Unrefusing.bind {act : Action BridgeError α} {next : α → Action BridgeError β}
    (h : Unrefusing act) (hnext : ∀ a, Unrefusing (next a)) : Unrefusing (act >>= next) := by
  intro s e he
  obtain hfirst | ⟨a, u, -, hsecond⟩ := bind_eq_error (Prod.ext he rfl)
  · exact h s e (by rw [hfirst])
  · exact hnext a u e (by rw [hsecond])

/-- Failures that are renamed to other ones than refusals refuse nothing. -/
private theorem unrefusing_mapError {f : ε → BridgeError} (hf : ∀ e, (f e).isRefusal = false)
    (act : Action ε α) : Unrefusing (act.mapError f) := by
  intro s e he
  obtain ⟨cause, -, rfl⟩ := mapError_eq_error (Prod.ext he rfl)
  exact hf cause

/-- A failed conversion is no refusal. -/
private theorem unrefusing_conversion (act : Action ConversionError α) :
    Unrefusing (act.mapError BridgeError.conversion) := unrefusing_mapError (fun _ => rfl) act

/-- A failure of the host is no refusal. -/
private theorem unrefusing_guarded (act : Action HostError α) : Unrefusing (Realm.guarded act) :=
  unrefusing_mapError (fun _ => rfl) act.contained

/-- What captures its failures refuses nothing. -/
private theorem unrefusing_capture (act : Action ε α) :
    Unrefusing (act.capture : Action BridgeError _) :=
  fun s e he => absurd he (capture_ne_error act s e)

/-! ### Strict and lenient actions -/

/-- The lenient action does what the strict one does, unless the strict one is refused: then it
answers `mild`. A refusal leaves the store as `looked` says. -/
def Milder (mild : α) (looked : Store → Store) (strict lenient : Action BridgeError α) : Prop :=
  ∀ s, (lenient s = strict s ∧ ∀ e, (strict s).1 = .error e → e.isRefusal = false) ∨
    ∃ e, e.isRefusal = true ∧ strict s = (.error e, looked s) ∧ lenient s = (.ok mild, looked s)

variable {mild : α} {looked : Store → Store} {strict lenient : Action BridgeError α}

/-- The lenient action ends as the strict one with its refusal excused. -/
theorem Milder.eq_excuse (h : Milder mild looked strict lenient) (s : Store) :
    lenient s = ((strict s).1.excuse mild, (strict s).2) := by
  -- either nothing was refused and both end alike, or the lenient one is excused
  obtain ⟨heq, hnone⟩ | ⟨e, he, hstrict, hlenient⟩ := h s
  · rw [heq]
    refine Prod.ext ?_ rfl
    cases houtcome : (strict s).1 with
    | error e => simp only [Outcome.excuse, hnone e houtcome, Bool.false_eq_true, if_false]
    | ok a => rfl
    | panicked payload => rfl
    | exhausted => rfl
  · simp only [hstrict, hlenient, Outcome.excuse, he, if_true]

/-- As `eq_excuse`, for an action that goes on where the lenient one ends because its steps run
out. -/
theorem Milder.excuse_of_below {lenient' : Action BridgeError α}
    (h : Milder mild looked strict lenient) (hbelow : Below lenient lenient') {s : Store}
    (hne : (strict s).1 ≠ .exhausted) :
    lenient' s = ((strict s).1.excuse mild, (strict s).2) := by
  have hexcuse := h.eq_excuse s
  have hlenient : (lenient s).1 ≠ .exhausted := by
    rw [hexcuse]
    exact Outcome.excuse_ne_exhausted hne
  rw [hbelow.eq_of_ne_exhausted hlenient, hexcuse]

/-- A refusal leaves the store as looking for the property left it. -/
theorem Milder.store_of_isRefusal (h : Milder mild looked strict lenient) {s : Store}
    {e : BridgeError} (herror : (strict s).1 = .error e) (he : e.isRefusal) :
    (strict s).2 = looked s := by
  obtain ⟨-, hnone⟩ | ⟨e, -, hstrict, -⟩ := h s
  · rw [hnone e herror] at he
    cases he
  · rw [hstrict]

/-- What refuses nothing is its own lenient form. -/
private theorem milder_same {act : Action BridgeError α} (h : Unrefusing act) :
    Milder mild looked act act := fun s => .inl ⟨rfl, h s⟩

/-- A refusal where the strict action stands. -/
private theorem milder_refusal {e : BridgeError} (he : e.isRefusal) :
    Milder mild id (throw e) (pure mild) := fun _ => .inr ⟨e, he, rfl, rfl⟩

/-- It is enough to compare what follows from the store. -/
private theorem milder_getStore {next next' : Store → Action BridgeError α}
    (h : ∀ s, Milder mild looked (next s) (next' s)) :
    Milder mild looked (getStore >>= next) (getStore >>= next') := fun s => h s s

end Action

namespace Realm

open Action

/-! ### Writing and deleting on one realm -/

/-- Writing a property refuses nothing. -/
private theorem unrefusing_writeProperty (R : Realm) (member : Property) (target : Option HostRef)
    (shadow : Option ScriptValue) (value : ScriptValue) :
    Unrefusing (R.writeProperty member target shadow value) := by
  unfold writeProperty
  cases member.set with
  | none => exact unrefusing_pure _
  | some set =>
    refine (unrefusing_capture _).bind fun r => ?_
    cases r with
    | ok v => exact (unrefusing_guarded _).bind fun _ => unrefusing_pure _
    | error e => exact unrefusing_pure _

/-- Writing through a descriptor refuses nothing: whether it may be written is asked before. -/
private theorem unrefusing_write (R : Realm) (d : Descriptor) (value : ScriptValue) :
    Unrefusing (R.write d value) := by
  -- by the sort of the descriptor; conversions and setters fail otherwise than by a refusal
  cases d with
  | data old flags => exact unrefusing_pure _
  | accessor get flags => exact unrefusing_pure _
  | count target => exact unrefusing_pure _
  | absent => exact unrefusing_pure _
  | field member target =>
    simp only [write]
    cases member.set with
    | none => exact unrefusing_pure _
    | some set =>
      refine (unrefusing_conversion _).bind fun v => ?_
      exact (unrefusing_guarded _).bind fun _ => unrefusing_pure _
  | property member target shadow =>
    exact (R.unrefusing_writeProperty member target shadow value).bind fun _ => unrefusing_pure _
  | sharedData cell flags => exact (unrefusing_modify _).bind fun _ => unrefusing_pure _
  | sharedProperty member target cell =>
    refine Unrefusing.bind (unrefusing_state fun s => (s, s)) fun s => ?_
    refine (R.unrefusing_writeProperty member target _ value).bind fun shadow => ?_
    exact (unrefusing_modify _).bind fun _ => unrefusing_pure _
  | index member target key =>
    simp only [write]
    cases member.set with
    | none => exact unrefusing_pure _
    | some set =>
      have hkey : Unrefusing
          (ofExcept ((R.indexKey member key).mapError BridgeError.conversion)) := by
        cases R.indexKey member key with
        | ok k => exact unrefusing_pure k
        | error cause =>
          rintro s e ⟨⟩
          rfl
      refine hkey.bind fun k => (unrefusing_conversion _).bind fun v => ?_
      exact (unrefusing_guarded _).bind fun _ => unrefusing_pure _

/-- Writing through what was found refuses nothing. -/
theorem unrefusing_writeThrough (R : Realm) (h : Handle) (value : ScriptValue) :
    Unrefusing (R.writeThrough h value) := by
  refine (R.unrefusing_write h.descriptor value).bind fun d => ?_
  cases h.home with
  | none => exact unrefusing_pure _
  | some home => exact (unrefusing_modify _).bind fun _ => unrefusing_pure _

/-- It is enough to compare what follows from the own property. -/
private theorem milder_own {α : Type} {mild : α} (R : Realm) (id : ObjectId) (name : String)
    {next next' : Option Handle → Action BridgeError α}
    (h : ∀ found, Milder mild (fun s => s) (next found) (next' found)) :
    Milder mild (R.toEngine.lookedUp id name) (R.own id name >>= next) (R.own id name >>= next') :=
  fun s => h (R.toEngine.ownProperty s id name).1 (R.toEngine.lookedUp id name s)

/-- It is enough to compare what follows from the property that is present. -/
private theorem milder_present {α : Type} {mild : α} (R : Realm) (id : ObjectId) (name : String)
    {next next' : Option Handle → Action BridgeError α}
    (h : ∀ found, Milder mild (fun s => s) (next found) (next' found)) :
    Milder mild (R.toEngine.lookedUp id name) (R.present id name >>= next)
      (R.present id name >>= next') :=
  R.milder_own id name fun found => h (found.filter (!·.descriptor.isAbsent))

/-- Writes to what was found differ by the refusal of what is read-only. -/
private theorem putThrough_milder (R : Realm) (h : Handle) (name : String) (value : ScriptValue) :
    Milder () id (R.putThrough h name value true) (R.putThrough h name value false) := by
  unfold putThrough
  split
  · exact milder_same ((R.unrefusing_writeThrough h value).bind fun _ => unrefusing_pure ())
  · exact milder_refusal rfl

/-- Writes to ordinary objects differ by the refusal of what is read-only. -/
private theorem ordinaryPut_milder (R : Realm) (id : ObjectId) (name : String)
    (value : ScriptValue) :
    Milder () (R.toEngine.lookedUp id name) (R.ordinaryPut id name value true)
      (R.ordinaryPut id name value false) := by
  refine R.milder_present id name fun found => ?_
  cases found with
  | some h => exact R.putThrough_milder h name value
  | none => exact milder_same (unrefusing_modify _)

/-- Writes to host objects differ by their refusals, of what is read-only and what is unknown. -/
private theorem hostPut_milder (R : Realm) (hexpando : R.options.expando = false) (id : ObjectId)
    (name : String) (value : ScriptValue) :
    Milder () (R.toEngine.lookedUp id name) (R.hostPut id name value true)
      (R.hostPut id name value false) := by
  refine milder_getStore fun s => ?_
  split
  · exact milder_same (unrefusing_modify _)
  · refine R.milder_present id name fun found => ?_
    cases found with
    | some h => exact R.putThrough_milder h name value
    -- without expandos an unknown member is refused in strict mode and ignored otherwise
    | none =>
      simp only [putFound, if_true, Bool.false_eq_true, if_false, hexpando]
      exact milder_refusal rfl

/-- A new length refuses nothing; one without room is a panic. -/
private theorem unrefusing_setLength (id : ObjectId) (elements : Array ScriptValue) (size : Nat) :
    Unrefusing (setLength id elements size) := by
  unfold setLength
  split
  · rintro s e ⟨⟩
  · exact unrefusing_modify _

/-- A lenient write does what a strict one does, apart from its refusals. -/
theorem put_milder (R : Realm) (hexpando : R.options.expando = false) (id : ObjectId)
    (name : String) (value : ScriptValue) :
    Milder () (R.toEngine.lookedUp id name) (R.put id name value true)
      (R.put id name value false) := by
  refine milder_getStore fun s => ?_
  split
  · unfold arrayPut
    split
    · -- a length that is none is ignored under `strict` as well
      split
      · exact milder_same (unrefusing_setLength id _ _)
      · exact milder_same (unrefusing_pure _)
    · split
      · exact milder_same (unrefusing_modify _)
      · exact R.ordinaryPut_milder id name value
  · exact R.hostPut_milder hexpando id name value
  · exact R.hostPut_milder hexpando id name value
  · exact R.ordinaryPut_milder id name value

/-- Deletes on ordinary objects differ by the refusal of what is not configurable. -/
private theorem ordinaryDelete_milder (R : Realm) (id : ObjectId) (name : String) :
    Milder false (R.toEngine.lookedUp id name) (R.ordinaryDelete id name true)
      (R.ordinaryDelete id name false) := by
  refine R.milder_own id name fun found => ?_
  cases found with
  | none => exact milder_same (unrefusing_pure _)
  | some h =>
    dsimp only
    split
    · exact milder_same ((unrefusing_modify _).bind fun _ => unrefusing_pure _)
    · -- what is not configurable stays in both modes
      exact milder_refusal rfl

/-- A lenient delete does what a strict one does, apart from its refusals. -/
theorem delete_milder (R : Realm) (id : ObjectId) (name : String) :
    Milder false (R.toEngine.lookedUp id name) (R.delete id name true)
      (R.delete id name false) := by
  refine milder_getStore fun s => ?_
  split
  · -- an array refuses its length quietly and gives up its elements
    split
    · exact milder_same (unrefusing_pure _)
    · split
      · exact milder_same ((unrefusing_modify _).bind fun _ => unrefusing_pure _)
      · exact R.ordinaryDelete_milder id name
  · exact milder_same ((unrefusing_modify _).bind fun _ => unrefusing_pure _)
  · exact milder_same ((unrefusing_modify _).bind fun _ => unrefusing_pure _)
  · exact R.ordinaryDelete_milder id name

end Realm

/-! ### Histories -/

/-- What is done with an engine: an entry, or a definition with any descriptor. -/
inductive Move where
  | enter (hook : Hook)
  | define (id : ObjectId) (name : String) (d : Descriptor)

namespace Move

/-- The answer of a move that succeeds. -/
@[reducible] def Answer : Move → Type
  | .enter hook => hook.Answer
  | .define .. => Bool

/-- Makes a move. -/
def take (R : Realm) : (move : Move) → Action BridgeError move.Answer
  | .enter hook => R.perform hook
  | .define id name d => R.define id name d

/-- The property that a move writes or deletes. -/
def target? : Move → Option (ObjectId × String)
  | .enter (.setMember id name _) | .enter (.deleteMember id name) => some (id, name)
  | _ => none

/-- The outcome with refusals excused: a write succeeds, a delete gives `false`. -/
def excuse : (move : Move) → Outcome BridgeError move.Answer → Outcome BridgeError move.Answer
  | .enter (.setMember ..), outcome => outcome.excuse ()
  | .enter (.deleteMember ..), outcome => outcome.excuse false
  | _, outcome => outcome

end Move

/-- The store that moves leave, one after the other, whatever becomes of each. -/
def Realm.follow (R : Realm) (s : Store) (history : List Move) : Store :=
  history.foldl (fun s move => (move.take R s).2) s

namespace Engine

open Action

/-- The engine with strict or lenient writing. -/
def withStrict (E : Engine) (strict : Bool) : Engine :=
  { E with options := { E.options with strict } }

/-- As `performWithin`, but code that writes through the engine gets to no end. -/
def performQuiet (E : Engine) : Nat → (hook : Hook) → Action BridgeError hook.Answer
  | 0, _ => exhausted
  | depth + 1, hook =>
      if hook.isWrite then exhausted else Realm.perform ⟨E, performQuiet E depth⟩ hook

/-- The engine in which no code writes through the engine, only the moves of a history do. -/
def quietRealm (E : Engine) (depth : Nat) : Realm := ⟨E, E.performQuiet depth⟩

/-- No code that runs during the history writes through the engine. -/
def Quiet (E : Engine) (depth : Nat) : Store → List Move → Prop
  | _, [] => True
  | s, move :: rest =>
      (move.take (E.quietRealm depth) s).1 ≠ .exhausted ∧
        Quiet E depth (move.take (E.quietRealm depth) s).2 rest

variable {E : Engine} {depth : Nat} {s : Store}

/-- The quiet run is below the run under any options. -/
private theorem performQuiet_below (E : Engine) (options : Options) (depth : Nat) (hook : Hook) :
    Below (E.performQuiet depth hook) (({ E with options } : Engine).performWithin depth hook) := by
  induction depth generalizing hook with
  | zero => exact below_exhausted _
  | succ depth ih =>
    unfold performQuiet
    split
    · exact below_exhausted _
    · -- apart from writes and deletes no hook asks for the mode
      next hwrite =>
      have h : (E.quietRealm depth).Within (({ E with options } : Engine).realm depth) :=
        ⟨rfl, rfl, ih⟩
      exact h.perform_below hook fun hisWrite => absurd hisWrite hwrite

/-- What ends without code that writes ends in the same way in the engine, with any options. -/
theorem quietRealm_within (E : Engine) (options : Options) (depth : Nat) :
    (E.quietRealm depth).Within (({ E with options } : Engine).realm depth) :=
  ⟨rfl, rfl, E.performQuiet_below options depth⟩

/-- A quiet move is below the move. -/
private theorem take_below (E : Engine) (depth : Nat) (move : Move) :
    Below (move.take (E.quietRealm depth)) (move.take (E.realm depth)) := by
  have h := E.quietRealm_within E.options depth
  cases move with
  | enter hook => exact h.perform_below hook fun _ => rfl
  | define id name d => exact below_of_eq (h.define_eq id name d)

/-- One move on stores that are equal. The quiet run is that of the strict engine. -/
private theorem take_lenient (hexpando : E.options.expando = false) (move : Move)
    (hquiet : (move.take ((E.withStrict true).quietRealm depth) s).1 ≠ .exhausted) :
    move.take ((E.withStrict false).realm depth) s =
      (move.excuse (move.take ((E.withStrict true).realm depth) s).1,
        (move.take ((E.withStrict true).realm depth) s).2) := by
  have hstrict := ((E.withStrict true).take_below depth move).eq_of_ne_exhausted hquiet
  have hwithin : ((E.withStrict true).quietRealm depth).Within
      ((E.withStrict false).realm depth) :=
    (E.withStrict true).quietRealm_within { E.options with strict := false } depth
  rw [hstrict]
  cases move with
  | define id name d =>
    exact (below_of_eq (hwithin.define_eq id name d)).eq_of_ne_exhausted hquiet
  | enter hook =>
    -- only writes and deletes at the top see the mode; everything inside is quiet
    cases hook with
    | setMember id name value =>
      exact (Realm.put_milder _ hexpando id name value).excuse_of_below
        (hwithin.put_below rfl id name value false) hquiet
    | deleteMember id name =>
      exact (Realm.delete_milder _ id name).excuse_of_below
        (below_of_eq (hwithin.delete_eq id name false)) hquiet
    | _ =>
      refine (hwithin.perform_below _ fun hwrite => ?_).eq_of_ne_exhausted hquiet
      exact absurd hwrite Bool.false_ne_true

/-- A history is quiet if every move is where it begins. -/
private theorem quiet_append {history : List Move} {move : Move} :
    E.Quiet depth s (history ++ [move]) ↔
      E.Quiet depth s history ∧
        (move.take (E.quietRealm depth) ((E.quietRealm depth).follow s history)).1 ≠ .exhausted := by
  induction history generalizing s with
  | nil => simp [Quiet, Realm.follow]
  | cons first rest ih => simp [Quiet, Realm.follow, ih, and_assoc]

/-- A quiet history leads to the same store in the quiet run. -/
private theorem follow_quiet {history : List Move} (hquiet : E.Quiet depth s history) :
    (E.quietRealm depth).follow s history = (E.realm depth).follow s history := by
  induction history generalizing s with
  | nil => simp only [Realm.follow, List.foldl_nil]
  | cons move rest ih =>
    -- a quiet move ends, so the run with all hooks does the same
    have hfirst := (E.take_below depth move).eq_of_ne_exhausted hquiet.1
    simp only [Realm.follow, List.foldl_cons, hfirst]
    exact ih hquiet.2

/-- A quiet history leads to the same store in both modes. -/
private theorem follow_lenient (hexpando : E.options.expando = false) {history : List Move}
    (hquiet : (E.withStrict true).Quiet depth s history) :
    ((E.withStrict false).realm depth).follow s history =
      ((E.withStrict true).realm depth).follow s history := by
  induction history generalizing s with
  | nil => simp only [Realm.follow, List.foldl_nil]
  | cons move rest ih =>
    -- the excuse concerns the reply only, so both modes go on from one store
    have hfirst := take_lenient hexpando move hquiet.1
    have hstrict := ((E.withStrict true).take_below depth move).eq_of_ne_exhausted hquiet.1
    simp only [Realm.follow, List.foldl_cons, hfirst]
    rw [hstrict]
    exact ih hquiet.2

/-- Two engines that differ in strictness alone, along a history during which no code writes
through the engine, expandos off: before and after every move both have the same store, and the
lenient engine answers what the strict one answers, except that it excuses refusals. A refused move
does no more to the store than to look the property up.

A function that fails with an error of that sort on its own account fails alike in both. -/
theorem lenient_take_eq_excuse (E : Engine) (hexpando : E.options.expando = false) (depth : Nat)
    (s : Store) (history : List Move) (move : Move)
    (hquiet : (E.withStrict true).Quiet depth s (history ++ [move])) :
    let S := (E.withStrict true).realm depth
    let L := (E.withStrict false).realm depth
    let t := S.follow s history
    L.follow s history = t ∧
      move.take L t = (move.excuse (move.take S t).1, (move.take S t).2) ∧
      ∀ id name e, move.target? = some (id, name) → (move.take S t).1 = .error e →
        e.isRefusal → (move.take S t).2 = E.lookedUp id name t := by
  intro S L t
  obtain ⟨hhistory, hmove⟩ := quiet_append.1 hquiet
  rw [follow_quiet hhistory] at hmove
  refine ⟨follow_lenient hexpando hhistory, take_lenient hexpando move hmove, ?_⟩
  rintro id name e htarget herror he
  -- only writes and deletes have a target
  cases move with
  | define => cases htarget
  | enter hook =>
    cases hook with
    | setMember base key value =>
      cases htarget
      exact (S.put_milder hexpando id name value).store_of_isRefusal herror he
    | deleteMember base key =>
      cases htarget
      exact (S.delete_milder id name).store_of_isRefusal herror he
    | _ => cases htarget

/-- A read-only value is defined and a function that reads it is called before it is written. -/
theorem refused_write_excused :
    let E : Engine := ⟨.empty, .default, .byCost⟩
    let body : ScriptValue → List ScriptValue → Program .script := fun this _ =>
      .ask (.enter (.getMember this "x")) fun _ => .done .null
    let s := (Store.initial.newFunction "f" body).2
    let history : List Move := [
      .define (.created 0) "x" (.data (.boolean true) .none),
      .enter (.call (.object (.created 3)) (.object (.created 0)) [])]
    let move : Move := .enter (.setMember (.created 0) "x" .null)
    let t := ((E.withStrict true).realm 1).follow s history
    (E.withStrict true).Quiet 1 s (history ++ [move]) ∧
      (move.take ((E.withStrict true).realm 1) t).1 = .error (.invocation (.readOnly "x")) ∧
      move.take ((E.withStrict false).realm 1) t = (.ok (), t) := by
  intro E body s history move t
  have hquiet : (E.withStrict true).Quiet 1 s (history ++ [move]) :=
    ⟨nofun, nofun, nofun, trivial⟩
  have hstrict : (move.take ((E.withStrict true).realm 1) t).1 =
      .error (.invocation (.readOnly "x")) := rfl
  -- the refusal is excused, and the store is that of the strict move
  obtain ⟨-, hlenient, hstore⟩ := lenient_take_eq_excuse E rfl 1 s history move hquiet
  refine ⟨hquiet, hstrict, ?_⟩
  rw [hlenient, hstore (.created 0) "x" _ rfl hstrict rfl, hstrict]
  rfl

end Engine

end Membrane
