import Membrane.Proofs.Likeness
import Membrane.Realm.Descriptor

/-!
# Actions that early lookups do not change

An action is *steady* if it ends alike on a store and on one that is ahead of it, with a result that
refers to nothing that is still to be made, and if the one store is ahead of the other afterwards
(`Action.Steady`). Steadiness is kept by everything that actions are built with. A sequence goes on
from the stores that its first part leaves, and what was grounded before is grounded there.

So the programs that are grounded are steady (`Realm.Transparent.run_steady`), and so are the calls
of overloads and the reads and writes of descriptors, in a realm whose way back into the engine is
steady (`Realm.Transparent`).

## Key results

- `Action.Steady.bind`: a sequence of steady actions
- `Realm.Transparent.run_steady`, `Realm.Transparent.callMethods_steady`,
  `Realm.Transparent.read_steady`, `Realm.Transparent.write_steady`
-/

namespace Membrane

open Store

namespace Action

variable {ε ε' α β : Type} {types : Registry} {P : Store → α → Prop} {Q : Store → β → Prop}
  {s t : Store}

/-- On the two stores the action ends alike, and a result is as `P` demands. -/
def Steady (types : Registry) (P : Store → α → Prop) (s t : Store) (act : Action ε α) : Prop :=
  Gives types (fun u outcome => ∀ a, outcome = .ok a → P u a) s (act s) (act t)

section Basic

variable (hst : s.Ahead types t)
include hst

/-- A result is steady. -/
theorem steady_pure {a : α} (h : P s a) : Steady types P s t (pure a : Action ε α) := by
  refine ⟨rfl, hst.onward, ?_⟩
  rintro _ ⟨⟩
  exact h

/-- A failure is steady. -/
theorem steady_throw (e : ε) : Steady types P s t (throw e) :=
  ⟨rfl, hst.onward, fun _ hok => nomatch hok⟩

/-- A panic is steady. -/
theorem steady_panic (payload : Panic) : Steady types P s t (panic payload : Action ε α) :=
  ⟨rfl, hst.onward, fun _ hok => nomatch hok⟩

/-- An action that does not end is steady. -/
theorem steady_exhausted : Steady types P s t (exhausted : Action ε α) :=
  ⟨rfl, hst.onward, fun _ hok => nomatch hok⟩

/-- A result that may be a failure is steady. -/
theorem steady_ofExcept {r : Except ε α} (h : ∀ a, r = .ok a → P s a) :
    Steady types P s t (ofExcept r) := by
  cases r with
  | ok a => exact steady_pure hst (h a rfl)
  | error e => exact steady_throw hst e

/-- A result that may be missing is steady. -/
theorem steady_ofOption {r : Option α} (h : ∀ a, r = some a → P s a) :
    Steady types P s t (ofOption r : Action ε α) := by
  cases r with
  | some a => exact steady_pure hst (h a rfl)
  | none => exact steady_exhausted hst

/-- A look at the store that finds the same on both sides. -/
theorem steady_read {f : Store → α} (hsame : f t = f s) (h : P s (f s)) :
    Steady types P s t (fun s => (.ok (f s), s) : Action ε α) := by
  refine ⟨congrArg Outcome.ok hsame.symm, hst.onward, ?_⟩
  rintro _ ⟨⟩
  exact h

end Basic

/-- A change that gives the same on both sides is steady. -/
theorem steady_state {f : Store → α × Store} (h : Gives types P s (f s) (f t)) :
    Steady types P s t (Action.state f : Action ε α) := by
  refine ⟨congrArg Outcome.ok h.same, h.onward, ?_⟩
  rintro _ ⟨⟩
  exact h.result

/-- A change that keeps the one store ahead of the other is steady. -/
theorem steady_modify {f : Store → Store} (h : Onward types s (f s) (f t)) :
    Steady types (fun _ _ => True) s t (modify f : Action ε Unit) :=
  ⟨rfl, h, fun _ _ => trivial⟩

/-- An action that looks at the store first and does the same with what it finds on both sides. -/
theorem steady_getStore {f : Store → Action ε α} (hsame : f t = f s)
    (h : Steady types P s t (f s)) : Steady types P s t (getStore >>= f) := by
  show Gives types _ s (f s s) (f t t)
  rw [hsame]
  exact h

/-- What is said of the result can be weakened. -/
theorem Steady.weaken {P' : Store → α → Prop} {act : Action ε α} (h : Steady types P s t act)
    (hP : ∀ u a, P u a → P' u a) : Steady types P' s t act :=
  ⟨h.same, h.onward, fun a hok => hP _ a (h.result a hok)⟩

/-- How the action ends on both sides. -/
theorem Steady.exists_outcome {act : Action ε α} (h : Steady types P s t act) :
    ∃ outcome u v, act s = (outcome, u) ∧ act t = (outcome, v) ∧ Onward types s u v ∧
      ∀ a, outcome = .ok a → P u a := by
  obtain ⟨hsame, honward, hresult⟩ := h
  exact ⟨(act s).1, (act s).2, (act t).2, rfl, by rw [hsame], honward, hresult⟩

/-- The second part of a sequence goes on from the stores that the first one leaves. -/
theorem Steady.bind {act : Action ε α} {next : α → Action ε β} (h : Steady types P s t act)
    (hnext : ∀ u v a, Onward types s u v → P u a → Steady types Q u v (next a)) :
    Steady types Q s t (act >>= next) := by
  obtain ⟨outcome, u, v, hs, ht, honward, hresult⟩ := h.exists_outcome
  unfold Steady
  simp only [bind_apply, hs, ht]
  -- the second action runs only after a result; every other end is that of the first
  cases outcome with
  | ok a =>
    obtain ⟨hsame, hrest, hb⟩ := hnext u v a honward (hresult a rfl)
    exact ⟨hsame, honward.trans hrest, hb⟩
  | error e => exact ⟨rfl, honward, fun _ hok => nomatch hok⟩
  | panicked payload => exact ⟨rfl, honward, fun _ hok => nomatch hok⟩
  | exhausted => exact ⟨rfl, honward, fun _ hok => nomatch hok⟩

/-- Renamed failures are steady. -/
theorem Steady.mapError {act : Action ε α} (h : Steady types P s t act) (f : ε → ε') :
    Steady types P s t (act.mapError f) := by
  obtain ⟨outcome, u, v, hs, ht, honward, hresult⟩ := h.exists_outcome
  unfold Steady
  simp only [Action.mapError, hs, ht]
  cases outcome with
  | ok a =>
    refine ⟨rfl, honward, ?_⟩
    rintro _ ⟨⟩
    exact hresult a rfl
  | _ =>
    refine ⟨rfl, honward, ?_⟩
    rintro _ ⟨⟩

/-- A captured failure is steady. -/
theorem Steady.capture {act : Action ε α} (h : Steady types P s t act) :
    Steady types (fun u r => ∀ a, r = .ok a → P u a) s t
      (act.capture : Action ε' (Except ε α)) := by
  obtain ⟨outcome, u, v, hs, ht, honward, hresult⟩ := h.exists_outcome
  unfold Steady
  simp only [capture_apply, hs, ht]
  -- a captured failure is a result about which nothing is said
  cases outcome with
  | ok a =>
    refine ⟨rfl, honward, ?_⟩
    rintro _ ⟨⟩ _ ⟨⟩
    exact hresult a rfl
  | error e =>
    refine ⟨rfl, honward, ?_⟩
    rintro _ ⟨⟩ _ hok
    cases hok
  | panicked payload => exact ⟨rfl, honward, fun _ hok => nomatch hok⟩
  | exhausted => exact ⟨rfl, honward, fun _ hok => nomatch hok⟩

/-- A contained panic is steady. -/
theorem Steady.contained {act : Action HostError α} (h : Steady types P s t act) :
    Steady types P s t act.contained := by
  obtain ⟨outcome, u, v, hs, ht, honward, hresult⟩ := h.exists_outcome
  unfold Steady
  simp only [Action.contained, hs, ht]
  cases outcome with
  | panicked payload =>
    refine ⟨rfl, honward, ?_⟩
    rintro _ ⟨⟩
  | _ => exact ⟨rfl, honward, hresult⟩

/-- Steady actions one after the other, whose results stay as `P` demands while the store grows. -/
theorem steady_mapM {ι : Type} {f : ι → Action ε α}
    (hP : ∀ u v a, u.Grows v → P u a → P v a) {l : List ι} (hst : s.Ahead types t)
    (h : ∀ u v i, Onward types s u v → i ∈ l → Steady types P u v (f i)) :
    Steady types (fun u as => ∀ a ∈ as, P u a) s t (l.mapM f) := by
  induction l generalizing s t with
  | nil => exact steady_pure hst fun a ha => nomatch ha
  | cons i rest ih =>
    rw [List.mapM_cons]
    refine (h s t i hst.onward List.mem_cons_self).bind fun u v a huv ha => ?_
    refine (ih huv.ahead fun u' v' j huv' hj =>
      h u' v' j (huv.trans huv') (List.mem_cons_of_mem i hj)).bind fun u' v' as huv' has => ?_
    refine steady_pure huv'.ahead fun b hb => ?_
    -- what was said of the first result still holds after the others
    obtain rfl | hb := List.mem_cons.1 hb
    · exact hP u u' b huv'.grows ha
    · exact has b hb

end Action

/-! ### Programs -/

/-- A candidate is grounded if its defaults and its body are. -/
structure Realm.Candidate.GroundedIn {y : Yield} (s : Store) (c : Realm.Candidate y) : Prop where
  params : ∀ p ∈ c.params, p.GroundedIn s
  body : HostCall.GroundedBody s c.body

/-- The way back into the engine is steady. -/
structure Realm.Transparent (R : Realm) : Prop where
  enter : ∀ s t hook, s.Ahead R.types t → hook.GroundedIn s →
    Action.Steady R.types (fun u a => hook.AnswerGroundedIn u a) s t (R.enter hook)

namespace Realm.Transparent

open Action

variable {R : Realm} {s t : Store} {ε : Type} {v : ScriptValue} {w : HostValue}

/-- Host values are shown to the script alike on both sides. -/
theorem fromHost_steady (hst : s.Ahead R.types t) (hw : w.GroundedIn s) :
    Steady R.types ScriptValue.GroundedIn s t (R.fromHost w : Action ε ScriptValue) :=
  steady_state (hst.fromHost hw)

/-- A result that was looked up in the store, or the refusal that was. -/
private theorem lookedUp_steady {r : Option (Except ConversionError HostValue)}
    (hst : s.Ahead R.types t) (h : ∀ w, r = some (.ok w) → w.GroundedIn s) :
    Steady R.types HostValue.GroundedIn s t (Action.ofOption r >>= Action.ofExcept) := by
  have hresult : Steady R.types
      (fun u (r : Except ConversionError HostValue) => ∀ w, r = .ok w → w.GroundedIn u) s t
      (Action.ofOption r : Action ConversionError _) :=
    steady_ofOption hst fun _ hr w hw => h w (by rw [hr, hw])
  exact hresult.bind fun u v r huv hr => steady_ofExcept huv.ahead hr

/-- Conversions to a type are steady. -/
theorem convertTo_steady (hst : s.Ahead R.types t) (hv : v.GroundedIn s) (target : TypeId) :
    Steady R.types HostValue.GroundedIn s t (R.convertTo v target) := by
  obtain ⟨hsame, hgrounded⟩ := hst.convertTo? hv target
  exact steady_getStore (by simp only [hsame]) (lookedUp_steady hst hgrounded)

/-- Strict conversions are steady. -/
theorem toHost_steady (hst : s.Ahead R.types t) (hv : v.GroundedIn s) (target : Option TypeId) :
    Steady R.types HostValue.GroundedIn s t (R.toHost v target) := by
  obtain ⟨hsame, hgrounded⟩ := hst.toHost? hv target
  exact steady_getStore (by simp only [hsame]) (lookedUp_steady hst hgrounded)

/-- Whether an instance may be held is the same on both sides, and its contents are grounded. -/
private theorem borrow_ahead (hst : s.Ahead R.types t) (ref : HostRef) (layout : String)
    (mode : BorrowMode) :
    t.borrow R.types ref layout mode = s.borrow R.types ref layout mode ∧
      ∀ i, s.borrow R.types ref layout mode = .ok i → i.storage.GroundedIn s := by
  have hgrounded := hst.grounded
  obtain ⟨heap, cache, rfl, -⟩ := hst
  refine ⟨rfl, fun i hi => ?_⟩
  unfold Store.borrow at hi
  -- both stores have the same instances, with the same marks
  split at hi
  · cases hi
  · next held hheld =>
    split at hi
    · cases hi
    · split at hi
      · cases hi
      · cases hi
        exact hgrounded.instances _ (Array.mem_of_getElem? hheld)

/-- Reading an instance is steady. -/
private theorem peek_steady (hst : s.Ahead R.types t) (ref : HostRef) (layout : String) :
    Steady R.types Storage.GroundedIn s t (R.peek ref layout) := by
  obtain ⟨hsame, hgrounded⟩ := borrow_ahead hst ref layout .shared
  refine steady_getStore (by simp only [hsame]) ?_
  have hheld : Steady R.types (fun u (i : Instance) => i.storage.GroundedIn u) s t
      (Action.ofExcept (s.borrow R.types ref layout .shared)) := steady_ofExcept hst hgrounded
  exact hheld.bind fun u v i huv hi => steady_pure huv.ahead hi

/-- Changing an instance is steady. -/
private theorem update_steady (hst : s.Ahead R.types t) (ref : HostRef) (layout : String)
    {change : Storage → Except HostError Storage}
    (hchange : ∀ u, s.Grows u → ∀ storage, storage.GroundedIn u →
      ∀ changed, change storage = .ok changed → changed.GroundedIn u) :
    Steady R.types (fun _ _ => True) s t (R.update ref layout change) := by
  obtain ⟨hsame, hgrounded⟩ := borrow_ahead hst ref layout .exclusive
  refine steady_getStore (by simp only [hsame]) ?_
  have hheld : Steady R.types (fun u (i : Instance) => i.storage.GroundedIn u) s t
      (Action.ofExcept (s.borrow R.types ref layout .exclusive)) := steady_ofExcept hst hgrounded
  refine hheld.bind fun u v i huv hi => ?_
  -- what the change makes of grounded contents is grounded, in this store and in every later one
  have hchanged : Steady R.types Storage.GroundedIn u v (Action.ofExcept (change i.storage)) :=
    steady_ofExcept huv.ahead (hchange u huv.grows i.storage hi)
  exact hchanged.bind fun u v storage huv hstorage =>
    steady_modify (huv.ahead.modifyInstance ref.id _ fun _ _ => hstorage)

/-- Holding an instance is steady. -/
private theorem holding_steady (hst : s.Ahead R.types t) (ref : HostRef) (layout : String)
    (mode : BorrowMode) {act : Action HostError HostValue}
    (hact : ∀ u v, Onward R.types s u v → Steady R.types HostValue.GroundedIn u v act) :
    Steady R.types HostValue.GroundedIn s t (R.holding ref layout mode act) := by
  obtain ⟨hsame, -⟩ := borrow_ahead hst ref layout mode
  unfold Steady Realm.holding
  rw [hsame]
  cases s.borrow R.types ref layout mode with
  | error e => exact ⟨rfl, hst.onward, fun _ hok => nomatch hok⟩
  | ok i =>
    -- the mark is set and taken away on both sides alike
    have hacquired := hst.modifyInstance ref.id
      (fun i => { i with borrow := i.borrow.acquire mode }) fun _ hi => hi
    obtain ⟨houtcome, honward, hresult⟩ := hact _ _ hacquired
    have hreleased := honward.ahead.modifyInstance ref.id
      (fun i => { i with borrow := i.borrow.release mode }) fun _ hi => hi
    exact ⟨houtcome, (hacquired.trans honward).trans hreleased,
      fun w hw => (hresult w hw).mono hreleased.grows⟩

/-- The answers to a program are steady. -/
theorem answer_steady (h : R.Transparent) (hst : s.Ahead R.types t) {query : Query}
    (hquery : query.GroundedIn s) :
    Steady R.types (fun u a => query.AnswerGroundedIn u a) s t
      (R.answer query : Action ε query.Answer) := by
  -- by the query: entries by assumption, the rest by how far the one store is ahead
  cases query with
  | enter hook => exact (h.enter s t hook hst hquery).capture
  | fromHost w => exact fromHost_steady hst hquery
  | toHost v target => exact (toHost_steady hst hquery target).capture
  | convertTo v target => exact (convertTo_steady hst hquery target).capture
  | coerce w target =>
    exact steady_pure hst fun u hu => HostValue.GroundedIn.coerce hquery hu
  | extract c w => exact steady_pure hst fun x hx => Carrier.grounded_of_extract hquery hx
  | newObject prototype => exact steady_state (hst.newObject hquery)
  | newArray elements => exact steady_state (hst.newArray hquery)
  | wrap ref => exact steady_state (hst.wrap ref)
  | typeReference type => exact steady_state (hst.typeReference type)
  | newInstance type storage => exact steady_state (hst.newInstance type hquery)
  | hostTarget v =>
    refine steady_read hst ?_ trivial
    cases v with
    | object id => exact hst.hostTarget? hquery
    | _ => rfl
  | describe w => exact steady_read hst (hst.describe hquery) trivial
  | global name => exact steady_read hst (hst.global name).1 (hst.global name).2
  | peek ref layout => exact (peek_steady hst ref layout).capture
  | update ref layout change =>
    exact (update_steady hst ref layout hquery).capture.weaken fun _ _ _ => trivial
  | readStatic key => exact steady_read hst (hst.readStatic key).1 (hst.readStatic key).2
  | writeStatic key w => exact steady_modify (hst.writeStatic key hquery)
  | record label this args => exact steady_modify (hst.record label this hquery)

/-- Programs of the host are steady. -/
theorem run_steady (h : R.Transparent) (hst : s.Ahead R.types t) {y : Yield} {p : Program y}
    (hp : p.GroundedIn s) : Steady R.types y.GroundedIn s t (R.run p) := by
  -- an answer is the same on both sides and grounded, so the program goes on in the same way
  induction p generalizing s t with
  | done result => exact steady_pure hst hp
  | fail cause => exact steady_throw hst cause
  | panic payload => exact steady_panic hst payload
  | ask query next ih =>
    refine (h.answer_steady hst hp.1).bind fun u v a huv ha => ?_
    exact ih a huv.ahead (hp.2 u huv.grows a ha)
  | hold ref layout mode inside next ihInside ih =>
    have hinside := holding_steady hst ref layout mode fun u v huv =>
      ihInside huv.ahead (hp.1.mono huv.grows)
    refine hinside.capture.bind fun u v r huv hr => ?_
    exact ih r huv.ahead (hp.2 u huv.grows r hr)
  | makeFunction name body next _ ih =>
    refine (steady_state (hst.newFunction name hp.1)).bind fun u v f huv hf => ?_
    exact ih f huv.ahead (hp.2 u huv.grows f hf)

/-- A guarded action is steady. -/
theorem guarded_steady {α : Type} {P : Store → α → Prop} {act : Action HostError α}
    (hact : Steady R.types P s t act) : Steady R.types P s t (guarded act) :=
  hact.contained.mapError BridgeError.host

/-! ### Calls -/

variable {args : List ScriptValue}

/-- The conversion of arguments is steady. -/
theorem convertArguments_steady (h : R.Transparent) (hst : s.Ahead R.types t) (position : Nat)
    {params : List Parameter} (hparams : ∀ p ∈ params, p.GroundedIn s)
    (hargs : ∀ a ∈ args, a.GroundedIn s) :
    Steady R.types (fun u ws => ∀ w ∈ ws, HostValue.GroundedIn u w) s t
      (R.convertArguments position params args) := by
  induction params generalizing position args s t with
  | nil => exact steady_pure hst fun _ hw => nomatch hw
  | cons p params ih =>
    -- the first argument is converted, and stays grounded while the others are
    have hcons {first : Action BridgeError HostValue} {args : List ScriptValue}
        (hfirst : Steady R.types HostValue.GroundedIn s t first)
        (hargs : ∀ a ∈ args, a.GroundedIn s) :
        Steady R.types (fun u ws => ∀ w ∈ ws, HostValue.GroundedIn u w) s t (do
          let first ← first
          let others ← R.convertArguments (position + 1) params args
          return first :: others) := by
      refine hfirst.bind fun u v w huv hw => ?_
      have hrest : ∀ p ∈ params, p.GroundedIn u :=
        fun q hq => (hparams q (List.mem_cons_of_mem p hq)).mono huv.grows
      refine (ih huv.ahead (position + 1) hrest fun a ha => (hargs a ha).mono huv.grows).bind
        fun u' v' ws huv' hws => steady_pure huv'.ahead fun x hx => ?_
      obtain rfl | hx := List.mem_cons.1 hx
      · exact hw.mono huv'.grows
      · exact hws x hx
    cases args with
    | cons arg args =>
      have hconvert := convertTo_steady hst (hargs arg List.mem_cons_self) p.type
      exact hcons (hconvert.mapError BridgeError.conversion)
        fun a ha => hargs a (List.mem_cons_of_mem arg ha)
    | nil =>
      simp only [convertArguments]
      cases hdefault : p.default with
      | none => exact hcons (steady_throw hst _) hargs
      | some default =>
        have hmake := h.run_steady hst (hparams p List.mem_cons_self default hdefault)
        exact hcons (hmake.mapError BridgeError.host) hargs

/-- Attempts are steady if each of them is. -/
theorem firstSuccess_steady {ι α : Type} {P : Store → α → Prop}
    {attempt : ι → Action BridgeError α} {l : List ι} (hst : s.Ahead R.types t)
    (h : ∀ u v i, Onward R.types s u v → i ∈ l → Steady R.types P u v (attempt i)) :
    Steady R.types (fun u found => ∀ a, found = some a → P u a) s t (firstSuccess attempt l) := by
  induction l generalizing s t with
  | nil => exact steady_pure hst fun _ hfound => nomatch hfound
  | cons i rest ih =>
    refine (h s t i hst.onward List.mem_cons_self).capture.bind fun u v r huv hr => ?_
    -- a failed attempt may have changed the store, and the rest starts from there
    cases r with
    | ok a =>
      refine steady_pure huv.ahead ?_
      rintro _ ⟨⟩
      exact hr a rfl
    | error e =>
      exact ih huv.ahead fun u' v' j huv' hj =>
        h u' v' j (huv.trans huv') (List.mem_cons_of_mem i hj)

/-- What is made of the attempts is steady. -/
theorem settle_steady {α : Type} {P : Store → α → Prop}
    {finish : α → Action BridgeError ScriptValue} (hst : s.Ahead R.types t)
    (hfinish : ∀ a, P s a → Steady R.types ScriptValue.GroundedIn s t (finish a))
    (refusal : InvocationError) {found : Option α} (hfound : ∀ a, found = some a → P s a) :
    Steady R.types ScriptValue.GroundedIn s t (settle finish refusal found) := by
  cases found with
  | some a => exact hfinish a (hfound a rfl)
  | none => exact steady_throw hst _

/-- Trying a method is steady. -/
theorem tryCandidate_steady (h : R.Transparent) (hst : s.Ahead R.types t)
    (this : Option HostRef) (hargs : ∀ a ∈ args, a.GroundedIn s) {candidate : Candidate .value}
    (hcandidate : candidate.GroundedIn s) :
    Steady R.types HostValue.GroundedIn s t (R.tryCandidate this args candidate) := by
  refine (h.convertArguments_steady hst 0 hcandidate.params hargs).bind fun u v ws huv hws => ?_
  exact guarded_steady (h.run_steady huv.ahead (hcandidate.body u huv.grows ⟨this, ws⟩ hws))

/-- Trying a constructor is steady. -/
theorem tryConstructor_steady (h : R.Transparent) (hst : s.Ahead R.types t)
    (hargs : ∀ a ∈ args, a.GroundedIn s) {candidate : Candidate .storage}
    (hcandidate : candidate.GroundedIn s) :
    Steady R.types Storage.GroundedIn s t (R.tryConstructor args candidate) := by
  refine (h.convertArguments_steady hst 0 hcandidate.params hargs).bind fun u v ws huv hws => ?_
  exact guarded_steady (h.run_steady huv.ahead (hcandidate.body u huv.grows ⟨none, ws⟩ hws))

/-- The ranking only picks among the candidates. -/
private theorem mem_of_mem_inOrder {α : Type} {candidates : List α} {order : List Nat} {c : α}
    (hc : c ∈ inOrder candidates order) : c ∈ candidates := by
  obtain ⟨i, -, hi⟩ := List.mem_filterMap.1 hc
  exact List.mem_of_getElem? hi

/-- Calls of methods are steady. -/
theorem callMethods_steady (h : R.Transparent) (hst : s.Ahead R.types t) {group : MethodGroup}
    (hgroup : ∀ m ∈ group.methods, m.GroundedIn s) (target : Option HostRef)
    (hargs : ∀ a ∈ args, a.GroundedIn s) :
    Steady R.types ScriptValue.GroundedIn s t (R.callMethods group target args) := by
  -- the ranking sees the same arguments on both sides
  refine steady_getStore (by simp only [hst.order _ _ hargs]) ?_
  refine (firstSuccess_steady (P := HostValue.GroundedIn) hst fun u v c huv hc => ?_).bind
    fun u v found huv hfound => ?_
  · refine h.tryCandidate_steady huv.ahead target (fun a ha => (hargs a ha).mono huv.grows) ?_
    obtain ⟨m, hm, rfl⟩ := List.mem_map.1 (mem_of_mem_inOrder hc)
    have hmethod := (hgroup m hm).mono huv.grows
    exact ⟨hmethod.params, hmethod.body⟩
  · exact settle_steady huv.ahead (fun w hw => fromHost_steady huv.ahead hw) _ hfound

/-- Wrapping a new instance is steady. -/
private theorem wrapNew_steady (hst : s.Ahead R.types t) (type : TypeId) {storage : Storage}
    (hstorage : storage.GroundedIn s) :
    Steady R.types ScriptValue.GroundedIn s t (R.wrapNew type storage) := by
  refine (steady_state (hst.newInstance type hstorage)).bind fun u v ref huv _ => ?_
  refine fromHost_steady huv.ahead ?_
  unfold HostValue.GroundedIn
  trivial

/-- Default values are steady. -/
private theorem defaultValue_steady (h : R.Transparent) (hst : s.Ahead R.types t)
    (type : TypeId) :
    Steady R.types (fun u byDefault => ∀ w, byDefault = some w → HostValue.GroundedIn u w) s t
      (R.defaultValue type) := by
  unfold Realm.defaultValue
  -- only a declared value type runs a program here
  cases R.types.kind type with
  | primitive kind =>
    refine steady_pure hst ?_
    rintro _ ⟨⟩
    cases kind <;> exact HostValue.groundedIn_of_primitiveKind? rfl
  | declared kind =>
    cases kind with
    | value =>
      cases hmake : (R.types.entry? type).bind (·.defaultInstance) with
      | none => exact steady_pure hst fun _ hw => nomatch hw
      | some make =>
        obtain ⟨e, he, hdefault⟩ := Option.bind_eq_some_iff.1 hmake
        have hmake := (hst.grounded.registry type e he).defaultInstance make hdefault
        have hrun := h.run_steady hst hmake
        refine (hrun.mapError BridgeError.host).bind fun u v storage huv hstorage => ?_
        refine (steady_state (huv.ahead.newInstance type hstorage)).bind fun u v ref huv _ => ?_
        refine steady_pure huv.ahead ?_
        rintro _ ⟨⟩
        unfold HostValue.GroundedIn
        trivial
    | enumeration =>
      refine steady_pure hst ?_
      rintro _ ⟨⟩
      unfold HostValue.GroundedIn
      trivial
    | reference => exact steady_pure hst fun _ hw => nomatch hw
    | interface => exact steady_pure hst fun _ hw => nomatch hw

/-- Constructions by a declared constructor are steady. -/
private theorem constructOverload_steady (h : R.Transparent) (hst : s.Ahead R.types t)
    (type : TypeId) (hargs : ∀ a ∈ args, a.GroundedIn s) :
    Steady R.types ScriptValue.GroundedIn s t (R.constructOverload type args) := by
  -- the ranking sees the same arguments on both sides
  refine steady_getStore (by simp only [hst.order _ _ hargs]) ?_
  refine (firstSuccess_steady (P := Storage.GroundedIn) hst fun u v c huv hc => ?_).bind
    fun u v found huv hfound => ?_
  · refine h.tryConstructor_steady huv.ahead (fun a ha => (hargs a ha).mono huv.grows) ?_
    obtain ⟨c, hdeclared, rfl⟩ := List.mem_map.1 (mem_of_mem_inOrder hc)
    unfold Registry.constructors at hdeclared
    cases he : R.types.entry? type with
    | none => simp [he] at hdeclared
    | some e =>
      have hconstructor := (huv.ahead.grounded.registry type e he).constructors c
        (by simpa [he] using hdeclared)
      exact ⟨hconstructor.params, hconstructor.body⟩
  · exact settle_steady huv.ahead (fun w hw => wrapNew_steady huv.ahead type hw) _ hfound

/-- Constructions are steady. -/
theorem constructType_steady (h : R.Transparent) (hst : s.Ahead R.types t) (type : TypeId)
    (hargs : ∀ a ∈ args, a.GroundedIn s) :
    Steady R.types ScriptValue.GroundedIn s t (R.constructType type args) := by
  unfold Realm.constructType
  -- without arguments the default value comes first
  split
  · refine (h.defaultValue_steady hst type).bind fun u v byDefault huv hdefault => ?_
    cases byDefault with
    | some w => exact fromHost_steady huv.ahead (hdefault w rfl)
    | none =>
      exact h.constructOverload_steady huv.ahead type fun a ha => (hargs a ha).mono huv.grows
  · exact h.constructOverload_steady hst type hargs

/-! ### Reading and writing -/

/-- Counting the items of a host object is steady. -/
private theorem countOf_steady (h : R.Transparent) (hst : s.Ahead R.types t) (target : HostRef) :
    Steady R.types (fun _ _ => True) s t (R.countOf target) := by
  unfold Realm.countOf
  cases hcount : (R.types.entry? target.type).bind (·.count) with
  | none => exact steady_pure hst trivial
  | some count =>
    obtain ⟨e, he, hcount⟩ := Option.bind_eq_some_iff.1 hcount
    have hrun := h.run_steady hst ((hst.grounded.registry _ e he).count count hcount target)
    exact hrun.weaken fun _ _ _ => trivial

/-- Reading through an indexer is steady, also for a key that is not found. -/
private theorem readIndexed_steady {get : Action HostError HostValue}
    (hget : Steady R.types HostValue.GroundedIn s t get) :
    Steady R.types ScriptValue.GroundedIn s t (R.readIndexed get) := by
  refine hget.contained.capture.bind fun u v r huv hr => ?_
  cases r with
  | ok w => exact fromHost_steady huv.ahead (hr w rfl)
  | error e =>
    -- a missing key reads as undefined; other failures are passed on
    cases e with
    | keyNotFound key => exact steady_pure huv.ahead trivial
    | _ => exact steady_throw huv.ahead _

/-- The key that a name stands for is grounded. -/
private theorem grounded_of_indexKey {member : Indexer} {key : String} {k : HostValue}
    (hkey : R.indexKey member key = .ok k) : k.GroundedIn s := by
  have htext : (HostValue.string key).GroundedIn s := by
    unfold HostValue.GroundedIn
    trivial
  exact htext.coerce hkey

/-- The script form of what a getter gives. -/
private theorem getter_steady (h : R.Transparent) (hst : s.Ahead R.types t)
    {get : Program .value} (hget : get.GroundedIn s) :
    Steady R.types ScriptValue.GroundedIn s t (do
      let v ← guarded (R.run get)
      R.fromHost v) :=
  (guarded_steady (h.run_steady hst hget)).bind fun _ _ _ huv hw => fromHost_steady huv.ahead hw

/-- Reading a property is steady, with a value in front of it or without. -/
private theorem readProperty_steady (h : R.Transparent) (hst : s.Ahead R.types t)
    {member : Property} (hmember : member.GroundedIn s) (target : Option HostRef)
    {shadow : Option ScriptValue} (hshadow : ∀ v ∈ shadow, v.GroundedIn s) :
    Steady R.types ScriptValue.GroundedIn s t (R.readProperty member target shadow) := by
  cases shadow with
  | some shadow => exact steady_pure hst (hshadow shadow rfl)
  | none =>
    simp only [Realm.readProperty]
    cases hget : member.get with
    | none => exact steady_pure hst trivial
    | some get => exact h.getter_steady hst (hmember.get get hget target)

/-- Reading a descriptor is steady. -/
theorem read_steady (h : R.Transparent) (hst : s.Ahead R.types t) {d : Descriptor}
    (hd : d.GroundedIn s) : Steady R.types ScriptValue.GroundedIn s t (R.read d) := by
  cases d with
  | data value flags => exact steady_pure hst hd
  | accessor get flags => exact h.run_steady hst hd
  | count target =>
    exact (guarded_steady (h.countOf_steady hst target)).bind fun u v n huv _ =>
      steady_pure huv.ahead trivial
  | absent => exact steady_pure hst trivial
  | field member target => exact h.getter_steady hst (hd.get target)
  | property member target shadow => exact h.readProperty_steady hst hd.1 target hd.2
  -- what the cell holds is the same on both sides
  | sharedData cell flags =>
    refine steady_getStore (by rw [hst.cell]) (steady_pure hst ?_)
    cases hcell : s.heap.cell cell with
    | none => trivial
    | some v => exact hst.grounded.cells cell v hcell
  | sharedProperty member target cell =>
    refine steady_getStore (by rw [hst.cell]) ?_
    exact h.readProperty_steady hst hd target (hst.grounded.cells cell)
  | index member target key =>
    simp only [Realm.read]
    cases hget : member.get with
    | none => exact steady_pure hst trivial
    | some get =>
      cases hkey : R.indexKey member key with
      | error e => exact steady_pure hst trivial
      | ok k =>
        have hground := hd.get get hget s (.refl s) target k (grounded_of_indexKey hkey)
        exact readIndexed_steady (h.run_steady hst hground)

/-- What a setter is called for stands in the slot afterwards. -/
private theorem setter_steady (h : R.Transparent) (hst : s.Ahead R.types t)
    {set : Program .nothing} (hset : set.GroundedIn s) {d : Descriptor} (hd : d.GroundedIn s) :
    Steady R.types Descriptor.GroundedIn s t (do
      guarded (R.run set)
      return d) :=
  (guarded_steady (h.run_steady hst hset)).bind fun _ _ _ huv _ =>
    steady_pure huv.ahead (hd.mono huv.grows)

/-- The key that a name stands for is steady. -/
private theorem indexKey_steady (hst : s.Ahead R.types t) (member : Indexer) (key : String) :
    Steady R.types HostValue.GroundedIn s t
      (Action.ofExcept ((R.indexKey member key).mapError BridgeError.conversion)) := by
  refine steady_ofExcept hst fun k hk => ?_
  cases hindex : R.indexKey member key with
  | ok k' =>
    rw [hindex] at hk
    cases hk
    exact grounded_of_indexKey hindex
  | error e =>
    rw [hindex] at hk
    cases hk

/-- What hides a property after a write is grounded, if the value is and what hid it before. -/
private theorem writeProperty_steady (h : R.Transparent) (hst : s.Ahead R.types t)
    {member : Property} (hmember : member.GroundedIn s) (target : Option HostRef)
    {shadow : Option ScriptValue} (hshadow : ∀ v ∈ shadow, v.GroundedIn s) (hv : v.GroundedIn s) :
    Steady R.types (fun u (shadow : Option ScriptValue) => ∀ v ∈ shadow, v.GroundedIn u) s t
      (R.writeProperty member target shadow v) := by
  unfold Realm.writeProperty
  cases hset : member.set with
  | none => exact steady_pure hst hshadow
  | some set =>
    refine (convertTo_steady hst hv member.type).capture.bind fun u u' r huv hr => ?_
    -- a value that is not converted is kept, grounded as it was
    cases r with
    | ok w =>
      have hset := hmember.set set hset u huv.grows target w (hr w rfl)
      refine (guarded_steady (h.run_steady huv.ahead hset)).bind fun _ _ _ hend _ => ?_
      exact steady_pure hend.ahead fun _ hnone => nomatch hnone
    | error e =>
      refine steady_pure huv.ahead ?_
      rintro _ ⟨⟩
      exact hv.mono huv.grows

/-- What stands in a slot after a write is grounded, if the value and what stood there are. -/
theorem write_steady (h : R.Transparent) (hst : s.Ahead R.types t) {d : Descriptor}
    (hd : d.GroundedIn s) (hv : v.GroundedIn s) :
    Steady R.types Descriptor.GroundedIn s t (R.write d v) := by
  -- by the sort of the descriptor; where a setter runs, its value was converted before
  cases d with
  | data old flags => exact steady_pure hst hv
  | accessor get flags => exact steady_pure hst hd
  | count target => exact steady_pure hst hd
  | absent => exact steady_pure hst hd
  | field member target =>
    simp only [Realm.write]
    cases hset : member.set with
    | none => exact steady_pure hst hd
    | some set =>
      have hconvert := convertTo_steady hst hv member.type
      refine (hconvert.mapError BridgeError.conversion).bind fun u u' w huv hw => ?_
      have hset := hd.set set hset u huv.grows target w hw
      exact h.setter_steady huv.ahead hset (hd.mono huv.grows)
  | property member target shadow =>
    refine (h.writeProperty_steady hst hd.1 target hd.2 hv).bind fun u u' shadow huv hshadow => ?_
    exact steady_pure huv.ahead ⟨hd.1.mono huv.grows, hshadow⟩
  | sharedData cell flags =>
    have hcell : Onward R.types s (s.setCell cell (some v)) (t.setCell cell (some v)) :=
      hst.setCell cell fun _ heq => Option.some.inj heq ▸ hv
    exact (steady_modify hcell).bind fun u u' _ huv _ => steady_pure huv.ahead (hd.mono huv.grows)
  | sharedProperty member target cell =>
    refine steady_getStore (by rw [hst.cell]) ?_
    have hwrite := h.writeProperty_steady hst hd target (hst.grounded.cells cell) hv
    refine hwrite.bind fun u u' shadow huv hshadow => ?_
    refine (steady_modify (huv.ahead.setCell cell hshadow)).bind fun w w' _ hend _ => ?_
    exact steady_pure hend.ahead (hd.mono (huv.grows.trans hend.grows))
  | index member target key =>
    simp only [Realm.write]
    cases hset : member.set with
    | none => exact steady_pure hst hd
    | some set =>
      refine (indexKey_steady hst member key).bind fun u u' k hsu hk => ?_
      have hconvert := convertTo_steady hsu.ahead (hv.mono hsu.grows) member.valueType
      refine (hconvert.mapError BridgeError.conversion).bind fun v v' w huv hw => ?_
      have hgrows := hsu.grows.trans huv.grows
      have hset := hd.set set hset v hgrows target k w (hk.mono huv.grows) hw
      exact h.setter_steady huv.ahead hset (hd.mono hgrows)

end Realm.Transparent

end Membrane
