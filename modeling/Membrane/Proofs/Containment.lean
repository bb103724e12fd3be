import Membrane.Proofs.Panics

/-!
# Which panics escape

A panic that goes through an entry into the engine goes on through the host code that made the entry,
up to the next call boundary. So a panic escapes from an entry of the script exactly if there is no
call boundary on the way to it: bare jobs alone lead to the point where a program panics, or the entry
itself is to bring an array to a length that there is no room for (`Engine.panic_escapes_iff`). The
default of an omitted argument is such a job, and so is the default instance of a value type
(`Engine.panic_of_defaults`).
-/

namespace Membrane

/-- The program panics with its next step, if `d` further entries are granted to it: it does so itself,
or it enters the engine to bring an array to a length that there is no room for. -/
inductive Program.PanicsNext (payload : Panic) :
    (d : Nat) → {y : Yield} → (p : Program y) → (t : Store) → Prop where
  | panic {d y t} : PanicsNext payload d (.panic payload : Program y) t
  | outgrown {d y hook} {next : Except BridgeError hook.Answer → Program y} {t}
      (houtgrows : hook.outgrows t) (hpayload : payload = .capacityOverflow) :
      PanicsNext payload (d + 1) (.ask (.enter hook) next) t

namespace Engine

open Action

variable {E : Engine} {depth d : Nat} {hook : Hook} {s t : Store} {payload : Panic} {y : Yield}
  {held : List (Nat × BorrowMode)} {p : Program y}

/-- During the entry bare jobs alone lead to a program that panics with its next step. -/
def Bursts (E : Engine) (depth : Nat) (hook : Hook) (s : Store) (payload : Panic) : Prop :=
  ∃ d held y t, ∃ p : Program y, E.Inside (·.isBare) depth hook s d held p t ∧ p.PanicsNext payload d t

/-- Nothing that a program asks for panics, but for a further entry. -/
private theorem calm_answer (R : Realm) {ε : Type} {query : Query}
    (hquery : ∀ inner, query ≠ .enter inner) : (R.answer query : Action ε query.Answer).Calm := by
  -- only an entry runs anything; the other queries read, convert or change the store
  cases query with
  | enter inner => exact absurd rfl (hquery inner)
  | toHost v target =>
    exact (calm_getStore.bind fun _ => (calm_ofOption _).bind calm_ofExcept).capture
  | convertTo v target => exact (Realm.calm_convertTo R v target).capture
  | peek ref layout =>
    exact (calm_getStore.bind fun _ => (calm_ofExcept _).bind fun i => calm_pure _).capture
  | update ref layout change =>
    exact (calm_getStore.bind fun _ => (calm_ofExcept _).bind fun i =>
      (calm_ofExcept _).bind fun storage => calm_modify _).capture
  | coerce v target => exact calm_pure _
  | extract c v => exact calm_pure _
  | writeStatic key v => exact calm_modify _
  | record label this args => exact calm_modify _
  | hostTarget v => exact calm_read _
  | describe v => exact calm_read _
  | global name => exact calm_read _
  | readStatic key => exact calm_read _
  | _ => exact calm_state _

/-- A hold panics with what is done inside it. -/
private theorem holding_panics_iff {R : Realm} {α : Type} {ref : HostRef} {layout : String}
    {mode : BorrowMode} {act : Action HostError α} :
    (∃ u, R.holding ref layout mode act t = (.panicked payload, u)) ↔
      ∃ i u, t.borrow R.types ref layout mode = .ok i ∧
        act (t.acquire ref.id mode) = (.panicked payload, u) := by
  unfold Realm.holding
  cases t.borrow R.types ref layout mode with
  | error e => simp
  | ok i =>
    -- the release follows the panic, so the store that is left is another one
    show (∃ u, ((act (t.acquire ref.id mode)).1, _) = _) ↔ _
    generalize act (t.acquire ref.id mode) = r
    obtain ⟨outcome, v⟩ := r
    simp

/-- A program that panics comes to the point where one does, if further entries that panic do. -/
private theorem Inside.exists_panic_of (h : E.Inside (·.isBare) depth hook s d held p t)
    (hinner : ∀ {held y inner} {next : Except BridgeError inner.Answer → Program y} {t},
      E.Inside (·.isBare) depth hook s d held (.ask (.enter inner) next) t →
      (∃ u, E.performWithin d inner t = (.panicked payload, u)) → E.Bursts depth hook s payload)
    (hpanic : ∃ u, (E.realm d).run p t = (.panicked payload, u)) :
    E.Bursts depth hook s payload := by
  obtain ⟨u, hrun⟩ := hpanic
  -- the program is followed to the question or the hold that the panic comes from
  induction p generalizing held t u with
  | done result => cases hrun
  | fail cause => cases hrun
  | panic cause =>
    cases hrun
    exact ⟨_, _, _, _, _, h, .panic⟩
  | ask query next ih =>
    obtain hanswer | ⟨a, v, hanswer, hnext⟩ := bind_panics_iff.1 hrun
    · by_cases hquery : ∃ inner, query = .enter inner
      · obtain ⟨inner, rfl⟩ := hquery
        exact hinner h ⟨u, capture_panics_iff.1 hanswer⟩
      · rw [not_exists] at hquery
        exact absurd hanswer (calm_answer _ hquery t payload u)
    · exact ih a (.answered h hanswer) u hnext
  | hold ref layout mode inside next ihInside ih =>
    obtain hheld | ⟨r, v, hheld, hnext⟩ := bind_panics_iff.1 hrun
    · obtain ⟨i, v, hborrow, hinside⟩ := holding_panics_iff.1 ⟨u, capture_panics_iff.1 hheld⟩
      exact ihInside (.held h hborrow) v hinside
    · exact ih r (.released h hheld) u hnext
  | makeFunction name body next _ ih => exact ih _ (.made h) u hrun

/-- A panic inside an entry comes from a bare job there, or from a length that outgrows an array. -/
theorem Inside.exists_panic (h : E.Inside (·.isBare) depth hook s d held p t)
    (hpanic : ∃ u, (E.realm d).run p t = (.panicked payload, u)) : E.Bursts depth hook s payload := by
  -- a further entry has one less to spend, and panics in a bare job that it runs, if not by itself
  induction d generalizing y p held t with
  | zero =>
    refine h.exists_panic_of (fun _ hentry => ?_) hpanic
    obtain ⟨u, hentry⟩ := hentry
    cases hentry
  | succ d ih =>
    refine h.exists_panic_of (fun hask hentry => ?_) hpanic
    obtain ⟨u, hentry⟩ := hentry
    obtain ⟨job, v, hruns, hbare, hrun⟩ | ⟨houtgrows, hpayload, -⟩ :=
      ((E.realm d).perform_panics_iff _ _ u payload).1 hentry
    · exact ih (.reentered hask hruns hbare) ⟨u, hrun⟩
    · exact ⟨_, _, _, _, _, hask, .outgrown houtgrows hpayload⟩

/-- A program that panics with its next step does so when it is run. -/
theorem run_of_panicsNext (E : Engine) (h : p.PanicsNext payload d t) :
    ∃ u, (E.realm d).run p t = (.panicked payload, u) := by
  cases h with
  | panic => exact ⟨t, rfl⟩
  | @outgrown d _ hook next _ houtgrows hpayload =>
    have hentry : E.performWithin (d + 1) hook t = (.panicked payload, t) :=
      ((E.realm d).perform_panics_iff hook t t payload).2 (.inr ⟨houtgrows, hpayload, rfl⟩)
    exact ⟨t, bind_panics_iff.2 (.inl (capture_panics_iff.2 hentry))⟩

/-- A panic at a point to which bare jobs alone lead goes through all of them. -/
theorem Inside.panics (h : E.Inside (·.isBare) depth hook s d held p t)
    (hpanic : ∃ u, (E.realm d).run p t = (.panicked payload, u)) :
    ∃ u, E.performWithin (depth + 1) hook s = (.panicked payload, u) := by
  -- what panics in a part of a program, or in an entry that it makes, panics in the program
  induction h with
  | job hruns hbare =>
    obtain ⟨u, hrun⟩ := hpanic
    exact ⟨u, ((E.realm depth).perform_panics_iff _ _ _ _).2 (.inl ⟨_, _, hruns, hbare, hrun⟩)⟩
  | answered h hanswer ih =>
    obtain ⟨u, hrun⟩ := hpanic
    exact ih ⟨u, bind_panics_iff.2 (.inr ⟨_, _, hanswer, hrun⟩)⟩
  | @held d held y ref layout mode inside next t i h hborrow ih =>
    obtain ⟨u, hrun⟩ := hpanic
    have hheld : ∃ i u, t.borrow (E.realm d).types ref layout mode = .ok i ∧
        (E.realm d).run inside (t.acquire ref.id mode) = (.panicked payload, u) :=
      ⟨i, u, hborrow, hrun⟩
    obtain ⟨v, hholding⟩ := holding_panics_iff.2 hheld
    exact ih ⟨v, bind_panics_iff.2 (.inl (capture_panics_iff.2 hholding))⟩
  | released h hheld ih =>
    obtain ⟨u, hrun⟩ := hpanic
    exact ih ⟨u, bind_panics_iff.2 (.inr ⟨_, _, hheld, hrun⟩)⟩
  | made h ih => exact ih hpanic
  | reentered h hruns hbare ih =>
    obtain ⟨u, hrun⟩ := hpanic
    have hentry := ((E.realm _).perform_panics_iff _ _ _ _).2 (.inl ⟨_, _, hruns, hbare, hrun⟩)
    exact ih ⟨u, bind_panics_iff.2 (.inl (capture_panics_iff.2 hentry))⟩

/-- A panic escapes from an entry into the engine exactly if bare jobs alone lead to the point where
a program panics: the entry runs one that panics, or that enters the engine again for one, and so on.
So a panic escapes from no getter, setter, method, constructor, indexer or count, whatever it runs.

There is one panic that no host code is needed for. An entry is to bring an array to a length that
there is no room for: the entry of the script itself, or a further one that bare jobs alone lead to. -/
theorem panic_escapes_iff (E : Engine) (depth : Nat) (hook : Hook) (s : Store) (payload : Panic) :
    (∃ t, E.performWithin (depth + 1) hook s = (.panicked payload, t)) ↔
      E.Bursts depth hook s payload ∨ hook.outgrows s ∧ payload = .capacityOverflow := by
  constructor
  · rintro ⟨t, hpanic⟩
    obtain ⟨job, u, hruns, hbare, hrun⟩ | ⟨houtgrows, hpayload, -⟩ :=
      ((E.realm depth).perform_panics_iff hook s t payload).1 hpanic
    · exact .inl (Inside.exists_panic (.job hruns hbare) ⟨t, hrun⟩)
    · exact .inr ⟨houtgrows, hpayload⟩
  · rintro (⟨d, held, y, t, p, hinside, hnext⟩ | ⟨houtgrows, hpayload⟩)
    · exact hinside.panics (E.run_of_panicsNext hnext)
    · exact ⟨s, ((E.realm depth).perform_panics_iff hook s s payload).2
        (.inr ⟨houtgrows, hpayload, rfl⟩)⟩

/-- A call that omits an argument ends with the panic of its default, a construction with the panic of
the default instance, and the growth of an array beyond all room with one of its own. -/
theorem panic_of_defaults :
    let boom : Panic := .text "boom"
    let type : TypeEntry := (TypeEntry.make "T" .value).withDefaultInstance (.panic boom)
    let E : Engine := ⟨(Registry.empty.declare type).2, .default, .fixed [0]⟩
    let method : Method := .make (.ofName "T") E.types.hash "M" [.optional .object (.panic boom)]
      fun _ => .done .null
    let s := (Store.initial.create (.make (.methods ⟨.declared 0, "M", [method]⟩ none) none)).2
    let s := (s.typeReference (.declared 0)).2
    let s := (s.newArray [.null]).2
    (E.performWithin 1 (.call (.object (.created 3)) .undefined []) s).1 = .panicked boom ∧
      (E.performWithin 1 (.construct (.object (.created 5)) []) s).1 = .panicked boom ∧
      (E.performWithin 1 (.setMember (.created 6) "length" (.number (.ofInt 1152921504606846976))) s).1 =
        .panicked .capacityOverflow := by
  intro boom type E method s₁ s₂ s
  refine ⟨rfl, rfl, ?_⟩
  -- the bodies are run by evaluation; the length is far too large for that
  have houtgrows :
      (Hook.setMember (.created 6) "length" (.number (.ofInt 1152921504606846976))).outgrows s := by
    decide +kernel
  have hperform := ((E.realm 0).perform_panics_iff _ s s .capacityOverflow).2
    (.inr ⟨houtgrows, rfl, rfl⟩)
  exact congrArg Prod.fst hperform

end Engine

end Membrane
