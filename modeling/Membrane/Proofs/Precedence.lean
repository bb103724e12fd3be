import Mathlib.Data.List.Nodup
import Membrane.Proofs.MethodGroups

/-!
# Which member a key denotes

An instance lookup asks for one kind of member after the other, along the whole chain of the type
each time. `Registry.precedence` lists the kinds in their order, each as the members it gives: the
first one along the chain (`Registry.IsFirst`) or, for explicit members, the only one
(`Registry.IsOnly`). The first kind that gives a member decides (`Registry.first_kind_decides`).
-/

namespace Membrane

namespace Registry

/-! ### The first and the only member -/

/-- A member is the first one along the chain of a type that passes a test. -/
def IsFirst {α : Type} (types : Registry) (t : TypeId) (members : TypeEntry → List α)
    (test : α → Bool) (m : α) : Prop :=
  ∃ p, types.DeclaredAt t members p m ∧ test m ∧
    ∀ q n, types.DeclaredAt t members q n → test n → q = p ∨ p.Before q

/-- A member is the only one along the chain of a type that passes a test. -/
def IsOnly {α : Type} (types : Registry) (t : TypeId) (members : TypeEntry → List α)
    (test : α → Bool) (m : α) : Prop :=
  ∃ p, types.DeclaredAt t members p m ∧ test m ∧
    ∀ q n, types.DeclaredAt t members q n → test n → q = p

/-- What a search finds in a list whose elements are in order. -/
theorem find?_eq_some_iff_of_pairwise {β : Type} {r : β → β → Prop} {l : List β}
    (hordered : l.Pairwise r) (hasymm : ∀ x y, r x y → ¬ r y x) {f : β → Bool} {x : β} :
    l.find? f = some x ↔ x ∈ l ∧ f x ∧ ∀ y ∈ l, f y → y = x ∨ r x y := by
  induction l with
  | nil => simp
  | cons z l ih =>
    obtain ⟨hz, hordered⟩ := List.pairwise_cons.1 hordered
    -- the first entry is what is found, or it is passed over
    by_cases hf : f z
    · rw [List.find?_cons_of_pos hf]
      constructor
      · rintro ⟨rfl⟩
        refine ⟨List.mem_cons_self, hf, fun y hy _ => ?_⟩
        exact (List.mem_cons.1 hy).imp_right (hz y)
      · rintro ⟨hx, -, hfirst⟩
        obtain rfl | hx := List.mem_cons.1 hx
        · rfl
        · obtain rfl | hlater := hfirst z List.mem_cons_self hf
          · rfl
          · exact absurd hlater (hasymm _ _ (hz x hx))
    · rw [List.find?_cons_of_neg hf, ih hordered]
      grind

/-- What is left of a list without repetitions if only one element passes. -/
theorem filter_eq_singleton_iff {β : Type} {l : List β} (hnodup : l.Nodup) {f : β → Bool} {x : β} :
    l.filter f = [x] ↔ x ∈ l ∧ f x ∧ ∀ y ∈ l, f y → y = x := by
  rw [← List.perm_singleton,
    List.perm_ext_iff_of_nodup (hnodup.filter f) (List.nodup_singleton x)]
  simp only [List.mem_filter, List.mem_singleton]
  constructor
  · intro h
    exact ⟨((h x).2 rfl).1, ((h x).2 rfl).2, fun y hy hf => (h y).1 ⟨hy, hf⟩⟩
  · rintro ⟨hx, hf, honly⟩ y
    exact ⟨fun hy => honly y hy.1 hy.2, by rintro rfl; exact ⟨hx, hf⟩⟩

/-- The only entry of a list is all of the list. -/
theorem only?_eq_some_iff {β : Type} {l : List β} {x : β} : only? l = some x ↔ l = [x] := by
  unfold only?
  split <;> grind

section

variable {α : Type} {types : Registry} (hwell : types.WellFounded) {t : TypeId}
  {members : TypeEntry → List α} {test : α → Bool} {m : α}

include hwell

/-- The first member that passes a test is the one that the search finds. -/
theorem isFirst_iff :
    types.IsFirst t members test m ↔ (types.onChain t members).find? test = some m := by
  have hasymm (x y : Position × α) : x.1.Before y.1 → ¬ y.1.Before x.1 := Position.Before.asymm
  rw [← map_snd_placed, List.find?_map, Option.map_eq_some_iff]
  simp only [find?_eq_some_iff_of_pairwise pairwise_placed hasymm, mem_placed_iff hwell]
  constructor
  · rintro ⟨p, hdeclared, hm, hfirst⟩
    refine ⟨(p, m), ⟨hdeclared, hm, fun (q, n) hn hf => ?_⟩, rfl⟩
    -- at one position there is one member
    obtain rfl | hlater := hfirst q n hn hf
    · exact .inl (congrArg (Prod.mk q) (hn.unique hdeclared))
    · exact .inr hlater
  · rintro ⟨⟨p, m⟩, ⟨hdeclared, hm, hfirst⟩, rfl⟩
    exact ⟨p, hdeclared, hm, fun q n hn hf =>
      (hfirst (q, n) hn hf).imp_left (congrArg Prod.fst)⟩

/-- The only member that passes a test is the one that is left of the others. -/
theorem isOnly_iff :
    types.IsOnly t members test m ↔ only? ((types.onChain t members).filter test) = some m := by
  have hnodup : (types.placed t members).Nodup :=
    pairwise_placed.imp fun hbefore heq => hbefore.ne (congrArg Prod.fst heq)
  rw [← map_snd_placed, List.filter_map, only?_eq_some_iff, List.map_eq_singleton_iff]
  simp only [filter_eq_singleton_iff hnodup, mem_placed_iff hwell]
  constructor
  · rintro ⟨p, hdeclared, hm, honly⟩
    refine ⟨(p, m), ⟨hdeclared, hm, fun (q, n) hn hf => ?_⟩, rfl⟩
    obtain rfl := honly q n hn hf
    exact congrArg (Prod.mk q) (hn.unique hdeclared)
  · rintro ⟨⟨p, m⟩, ⟨hdeclared, hm, honly⟩, rfl⟩
    exact ⟨p, hdeclared, hm, fun q n hn hf => congrArg Prod.fst (honly (q, n) hn hf)⟩

end

/-! ### The order of the kinds -/

/-- The first of the sources that gives a member decides. If none does, the key denotes nothing. -/
def Decides : List (ResolvedMember → Prop) → ResolvedMember → Prop
  | [], r => r = .undefined
  | source :: rest, r => source r ∨ (∀ r', ¬ source r') ∧ Decides rest r

/-- The first source that has anything decides. -/
theorem decides_iff {sources : List (ResolvedMember → Prop)} {found : List (Option ResolvedMember)}
    (h : List.Forall₂ (fun source o => ∀ r, source r ↔ o = some r) sources found)
    {r : ResolvedMember} :
    Decides sources r ↔ (found.foldr Option.or none).getD .undefined = r := by
  induction h with
  | nil => exact eq_comm
  | @cons source o _ found hsource _ ih =>
    -- a source that has nothing leaves it to the rest
    unfold Decides
    simp only [hsource, ih, List.foldr_cons]
    cases o <;> simp

/-- What a key denotes, if anything, one of the sources gives. -/
theorem Decides.exists_source {sources : List (ResolvedMember → Prop)} {r : ResolvedMember}
    (h : Decides sources r) (hr : r ≠ .undefined) : ∃ source ∈ sources, source r := by
  induction sources with
  | nil => exact absurd h hr
  | cons source rest ih =>
    obtain hsource | ⟨-, hrest⟩ := h
    · exact ⟨source, List.mem_cons_self, hsource⟩
    · obtain ⟨later, hmem, hlater⟩ := ih hrest
      exact ⟨later, List.mem_cons_of_mem _ hmem, hlater⟩

/-- The first member along the chain that passes a test, as a member of its kind. -/
def FirstOf {α : Type} (types : Registry) (t : TypeId) (members : TypeEntry → List α)
    (test : α → Bool) (kind : α → ResolvedMember) (r : ResolvedMember) : Prop :=
  ∃ m, types.IsFirst t members test m ∧ kind m = r

/-- The only member along the chain that passes a test, as a member of its kind. -/
def OnlyOf {α : Type} (types : Registry) (t : TypeId) (members : TypeEntry → List α)
    (test : α → Bool) (kind : α → ResolvedMember) (r : ResolvedMember) : Prop :=
  ∃ m, types.IsOnly t members test m ∧ kind m = r

/-- The group of the overloads of a key, if there are any. Its name is that of the first one. -/
def GroupOf (types : Registry) (t : TypeId) (members : TypeEntry → List Method) (key : String)
    (r : ResolvedMember) : Prop :=
  types.FirstOf t members (·.key == key)
    (fun m => .methodGroup ⟨t, m.name, types.overloads t members key⟩) r

/-- The kinds of members that an instance lookup asks for, in their order. -/
def precedence (types : Registry) (t : TypeId) (key : String) : List (ResolvedMember → Prop) :=
  let unlessIndex (sources : List (ResolvedMember → Prop)) :=
    if Name.isIndex key then [] else sources
  unlessIndex [
    types.FirstOf t TypeEntry.properties (·.key == key) .property,
    types.FirstOf t TypeEntry.fields (·.key == key) .field,
    types.GroupOf t TypeEntry.methods key] ++
  [types.FirstOf t TypeEntry.indexers (fun _ => true) .indexer] ++
  unlessIndex [
    types.OnlyOf t TypeEntry.explicitProperties (·.key == key) .property,
    types.GroupOf t TypeEntry.explicitMethods key] ++
  [types.OnlyOf t TypeEntry.explicitIndexers (fun _ => true) .indexer]

/-- What an instance lookup finds is a member of one of the kinds. -/
theorem kind_of_decides {types : Registry} {t : TypeId} {key : String} {r : ResolvedMember}
    (h : Decides (types.precedence t key) r) (hr : r ≠ .undefined) :
    types.FirstOf t TypeEntry.properties (·.key == key) .property r ∨
      types.FirstOf t TypeEntry.fields (·.key == key) .field r ∨
      types.GroupOf t TypeEntry.methods key r ∨
      types.FirstOf t TypeEntry.indexers (fun _ => true) .indexer r ∨
      types.OnlyOf t TypeEntry.explicitProperties (·.key == key) .property r ∨
      types.GroupOf t TypeEntry.explicitMethods key r ∨
      types.OnlyOf t TypeEntry.explicitIndexers (fun _ => true) .indexer r := by
  obtain ⟨source, hmem, hsource⟩ := h.exists_source hr
  unfold precedence at hmem
  simp only [List.mem_append, List.mem_ite_nil_left, List.mem_cons, List.not_mem_nil,
    or_false] at hmem
  -- an index leaves the indexers only
  obtain ((⟨-, rfl | rfl | rfl⟩ | rfl) | ⟨-, rfl | rfl⟩) | rfl := hmem <;>
    simp only [hsource, true_or, or_true]

/-- No overload hides the first one. -/
theorem head?_visibleOverloads (methods : List Method) :
    (visibleOverloads methods).head? = methods.head? := by
  induction methods using List.reverseRecOn with
  | nil => rfl
  | append_singleton methods m ih =>
    rw [visibleOverloads_concat, List.head?_append]
    -- a hidden overload is behind the one that hides it, so it is not the first
    split
    · next hhidden =>
      obtain ⟨n, hn, -⟩ := List.any_eq_true.1 hhidden
      rw [← ih, List.head?_eq_some_head (List.ne_nil_of_mem hn)]
      rfl
    · rw [List.head?_append, ih]

section

variable {types : Registry} (hwell : types.WellFounded) {t : TypeId} {key : String}

include hwell

/-- The first member of a kind, as it is resolved. -/
theorem firstOf_iff {α : Type} {members : TypeEntry → List α} {test : α → Bool}
    {kind : α → ResolvedMember} {r : ResolvedMember} :
    types.FirstOf t members test kind r ↔
      ((types.onChain t members).find? test).map kind = some r := by
  simp only [FirstOf, Option.map_eq_some_iff, isFirst_iff hwell]

/-- The only member of a kind, as it is resolved. -/
theorem onlyOf_iff {α : Type} {members : TypeEntry → List α} {test : α → Bool}
    {kind : α → ResolvedMember} {r : ResolvedMember} :
    types.OnlyOf t members test kind r ↔
      (only? ((types.onChain t members).filter test)).map kind = some r := by
  simp only [OnlyOf, Option.map_eq_some_iff, isOnly_iff hwell]

/-- The group of the methods with the key, as it is resolved. -/
theorem groupOf_iff {members : TypeEntry → List Method} {r : ResolvedMember} :
    types.GroupOf t members key r ↔ group? t (types.overloads t members key) = some r := by
  have hhead : (types.overloads t members key).head? =
      (types.onChain t members).find? (·.key == key) := by
    unfold overloads
    rw [head?_visibleOverloads, List.head?_filter]
  unfold GroupOf
  rw [firstOf_iff hwell, ← hhead]
  cases types.overloads t members key <;> rfl

/-- A lookup asks for the kinds of members in their order. -/
theorem resolveInstance_eq_iff {r : ResolvedMember} :
    types.resolveInstance t key = r ↔ Decides (types.precedence t key) r := by
  -- each list of the specification is one search of the resolver
  have hindexer (r) : types.FirstOf t TypeEntry.indexers (fun _ => true) .indexer r ↔
      types.indexer? t = some r := by
    rw [firstOf_iff hwell, indexer?, ← List.head?_filter, List.filter_true]
  have hexplicit (r) : types.OnlyOf t TypeEntry.explicitIndexers (fun _ => true) .indexer r ↔
      types.explicitIndexer? t = some r := by
    rw [onlyOf_iff hwell, explicitIndexer?, List.filter_true]
  -- for an index the named members are left out of both lists
  by_cases hindex : Name.isIndex key
  · have hkinds : List.Forall₂ (fun source o => ∀ r, source r ↔ o = some r)
        (types.precedence t key) [types.indexer? t, types.explicitIndexer? t] := by
      simp only [precedence, if_pos hindex]
      exact .cons hindexer (.cons hexplicit .nil)
    rw [decides_iff hkinds]
    simp [resolveInstance, hindex]
  · have hkinds : List.Forall₂ (fun source o => ∀ r, source r ↔ o = some r)
        (types.precedence t key)
        [((types.onChain t TypeEntry.properties).find? (·.key == key)).map .property,
          ((types.onChain t TypeEntry.fields).find? (·.key == key)).map .field,
          group? t (types.overloads t TypeEntry.methods key),
          types.indexer? t,
          (only? ((types.onChain t TypeEntry.explicitProperties).filter (·.key == key))).map
            .property,
          group? t (types.overloads t TypeEntry.explicitMethods key),
          types.explicitIndexer? t] := by
      simp only [precedence, if_neg hindex]
      exact .cons (fun _ => firstOf_iff hwell) <| .cons (fun _ => firstOf_iff hwell) <|
        .cons (fun _ => groupOf_iff hwell) <| .cons hindexer <|
        .cons (fun _ => onlyOf_iff hwell) <| .cons (fun _ => groupOf_iff hwell) <|
        .cons hexplicit .nil
    rw [decides_iff hkinds]
    simp [resolveInstance, hindex, named?, explicitlyNamed?, overloads, Option.orElse_eq_or,
      Option.or_assoc]

/-- The chain of a type is the type and the chain of its base. -/
theorem ancestry_of_base {b : TypeId} (hbase : types.base? t = some b) :
    types.ancestry t = t :: types.ancestry b := by
  refine List.ext_getElem? fun n => ?_
  rw [getElem?_ancestry hwell]
  cases n with
  | zero => rfl
  | succ n =>
    rw [List.getElem?_cons_succ, getElem?_ancestry hwell, ancestor?, hbase]
    rfl

/-- The members on a chain are those of the type and those on the chain of its base. -/
theorem onChain_of_base {α : Type} {members : TypeEntry → List α} {b : TypeId}
    (hbase : types.base? t = some b) :
    types.onChain t members = types.own t members ++ types.onChain b members := by
  unfold onChain
  rw [ancestry_of_base hwell hbase]
  rfl

end

/-! ### Types without members of their own -/

/-- A type itself declares no members of instances. -/
def DeclaresNothing (types : Registry) (t : TypeId) : Prop :=
  ∀ e, types.entry? t = some e →
    e.properties = [] ∧ e.fields = [] ∧ e.methods = [] ∧ e.indexers = [] ∧
      e.explicitProperties = [] ∧ e.explicitMethods = [] ∧ e.explicitIndexers = []

/-- A type that declares nothing has no members of its own. -/
theorem own_eq_nil {α : Type} {types : Registry} {t : TypeId} {members : TypeEntry → List α}
    (h : ∀ e, types.entry? t = some e → members e = []) : types.own t members = [] := by
  unfold own
  cases hentry : types.entry? t with
  | none => rfl
  | some e => exact h e hentry

end Registry

/-- The same member as one of the type `t`: a method group names the type that it was looked up
on. -/
def ResolvedMember.withOwner (t : TypeId) : ResolvedMember → ResolvedMember
  | .methodGroup group => .methodGroup { group with owner := t }
  | r => r

namespace Registry

/-- A group is the same for every owner but for its name. -/
theorem group?_withOwner (t b : TypeId) (methods : List Method) :
    group? t methods = (group? b methods).map (.withOwner t) := by
  cases methods <;> rfl

/-- A type that declares no members has those of its base. -/
theorem resolveInstance_of_base {types : Registry} (hwell : types.WellFounded) {t b : TypeId}
    (hbase : types.base? t = some b) (hnothing : types.DeclaresNothing t) (key : String) :
    types.resolveInstance t key = (types.resolveInstance b key).withOwner t := by
  -- without members of its own the type has the members of its base on its chain
  have hchain {α : Type} {members : TypeEntry → List α}
      (h : ∀ e, types.entry? t = some e → members e = []) :
      types.onChain t members = types.onChain b members := by
    rw [onChain_of_base hwell hbase, own_eq_nil h, List.nil_append]
  unfold DeclaresNothing at hnothing
  have hproperties := hchain fun e he => (hnothing e he).1
  have hfields := hchain fun e he => (hnothing e he).2.1
  have hmethods := hchain fun e he => (hnothing e he).2.2.1
  have hindexers := hchain fun e he => (hnothing e he).2.2.2.1
  have hexplicitProperties := hchain fun e he => (hnothing e he).2.2.2.2.1
  have hexplicitMethods := hchain fun e he => (hnothing e he).2.2.2.2.2.1
  have hexplicitIndexers := hchain fun e he => (hnothing e he).2.2.2.2.2.2
  -- what is found is found on the chain of the base, so only the owner of a group differs
  have hnamed : types.named? t key = (types.named? b key).map (.withOwner t) := by
    unfold named?
    rw [hproperties, hfields, hmethods, group?_withOwner t b]
    simp only [Option.orElse_eq_orElse, Option.orElse_eq_or, Option.map_or, Option.map_map]
    rfl
  have hindexer : types.indexer? t = (types.indexer? b).map (.withOwner t) := by
    unfold indexer?
    rw [hindexers, Option.map_map]
    rfl
  have hexplicitlyNamed :
      types.explicitlyNamed? t key = (types.explicitlyNamed? b key).map (.withOwner t) := by
    unfold explicitlyNamed?
    rw [hexplicitProperties, hexplicitMethods, group?_withOwner t b]
    simp only [Option.orElse_eq_orElse, Option.orElse_eq_or, Option.map_or, Option.map_map]
    rfl
  have hexplicitIndexer :
      types.explicitIndexer? t = (types.explicitIndexer? b).map (.withOwner t) := by
    unfold explicitIndexer?
    rw [hexplicitIndexers, Option.map_map]
    rfl
  have hundefined : ResolvedMember.undefined.withOwner t = .undefined := rfl
  unfold resolveInstance
  refine .trans ?_ (Option.getD_map (ResolvedMember.withOwner t) ResolvedMember.undefined _)
  rw [hnamed, hindexer, hexplicitlyNamed, hexplicitIndexer, hundefined]
  cases Name.isIndex key <;> simp [Option.orElse_eq_or, Option.map_or]

/-! ### Instance lookups -/

/-- Only enumerations look for constants first. -/
theorem resolve_of_not_enumeration {types : Registry} {t : TypeId}
    (hkind : types.isEnumeration t = false) (key : String) :
    types.resolve t key .onInstance = types.resolveInstance t key := by
  unfold resolve
  rw [hkind]
  rfl

/-- **The first kind of members that has one decides.** This is so for every type that is not an
enumeration, with any chain of bases, and for every key; if no kind has a member, the key denotes
nothing. So a property or indexer that is found is the first public one or the only explicit one. A
type that declares no members has those of its base. -/
theorem first_kind_decides {types : Registry} (hwell : types.WellFounded) {t : TypeId}
    (hkind : types.isEnumeration t = false) (key : String) :
    (∀ r, types.resolve t key .onInstance = r ↔ Decides (types.precedence t key) r) ∧
    (∀ p, types.resolve t key .onInstance = .property p →
      types.IsFirst t TypeEntry.properties (·.key == key) p ∨
        types.IsOnly t TypeEntry.explicitProperties (·.key == key) p) ∧
    (∀ i, types.resolve t key .onInstance = .indexer i →
      types.IsFirst t TypeEntry.indexers (fun _ => true) i ∨
        types.IsOnly t TypeEntry.explicitIndexers (fun _ => true) i) ∧
    ∀ b, types.base? t = some b → types.DeclaresNothing t →
      types.resolve t key .onInstance = (types.resolveInstance b key).withOwner t ∧
        (types.isEnumeration b = false →
          types.resolve t key .onInstance = (types.resolve b key .onInstance).withOwner t) := by
  have hdecides (r) : types.resolve t key .onInstance = r ↔
      Decides (types.precedence t key) r := by
    rw [resolve_of_not_enumeration hkind]
    exact resolveInstance_eq_iff hwell
  refine ⟨hdecides, fun p hp => ?_, fun i hi => ?_, fun b hbase hnothing => ⟨?_, fun hb => ?_⟩⟩
  · -- only the first and the fifth source have properties
    obtain ⟨m, hm, hr⟩ | ⟨m, hm, hr⟩ | ⟨m, hm, hr⟩ | ⟨m, hm, hr⟩ | ⟨m, hm, hr⟩ | ⟨m, hm, hr⟩ |
        ⟨m, hm, hr⟩ := kind_of_decides ((hdecides _).1 hp) (by simp) <;> cases hr
    · exact .inl hm
    · exact .inr hm
  · -- only the fourth and the last source have indexers
    obtain ⟨m, hm, hr⟩ | ⟨m, hm, hr⟩ | ⟨m, hm, hr⟩ | ⟨m, hm, hr⟩ | ⟨m, hm, hr⟩ | ⟨m, hm, hr⟩ |
        ⟨m, hm, hr⟩ := kind_of_decides ((hdecides _).1 hi) (by simp) <;> cases hr
    · exact .inl hm
    · exact .inr hm
  · rw [resolve_of_not_enumeration hkind]
    exact resolveInstance_of_base hwell hbase hnothing key
  · rw [resolve_of_not_enumeration hkind, resolve_of_not_enumeration hb]
    exact resolveInstance_of_base hwell hbase hnothing key

/-- A property without bodies that implements an interface explicitly. -/
def speedOf (index : Nat) : Property :=
  ⟨"Speed", "speed", .string, false, none, none, some (.declared index)⟩

/-- An indexer without bodies that implements an interface explicitly. -/
def pins : Indexer := ⟨.string, .string, none, none, some (.declared 0)⟩

/-- A type with an explicit property and an explicit indexer, one derived from it that implements
the property again, and one that declares nothing. -/
def ports : Registry :=
  let port := { TypeEntry.make "Port" .reference with
    explicitProperties := [speedOf 0], explicitIndexers := [pins] }
  let dual := { TypeEntry.make "DualPort" .reference with
    base := .declared 0, explicitProperties := [speedOf 1] }
  let plain := { TypeEntry.make "PlainPort" .reference with base := .declared 0 }
  (((empty.declare port).2.declare dual).2.declare plain).2

/-- Each type is declared after its base. -/
theorem wellFounded_ports : ports.WellFounded := by
  refine WellFounded.declare (.declare (.declare wellFounded_empty ?_ ?_) ?_ ?_) ?_ ?_
  all_goals first | exact fun _ hi => nomatch hi | decide

/-- The property that is implemented twice is passed over for the indexer. The type without members
has the property of its base. -/
theorem lookups_of_ports :
    ports.WellFounded ∧ ports.isEnumeration (.declared 1) = false ∧
      ports.isEnumeration (.declared 2) = false ∧ ports.DeclaresNothing (.declared 2) ∧
      Decides (ports.precedence (.declared 1) "speed") (.indexer pins) ∧
      ports.resolve (.declared 2) "speed" .onInstance =
        (ports.resolve (.declared 0) "speed" .onInstance).withOwner (.declared 2) ∧
      ports.resolve (.declared 0) "speed" .onInstance = .property (speedOf 0) := by
  -- the derived type has no member of any kind
  have hnothing : ports.DeclaresNothing (.declared 2) := by
    rintro e ⟨rfl⟩
    exact ⟨rfl, rfl, rfl, rfl, rfl, rfl, rfl⟩
  refine ⟨wellFounded_ports, rfl, rfl, hnothing, ?_, ?_, rfl⟩
  · exact ((first_kind_decides wellFounded_ports rfl "speed").1 _).1 rfl
  · have hderived := (first_kind_decides (t := .declared 2) wellFounded_ports rfl "speed").2.2.2
    exact (hderived (.declared 0) rfl hnothing).2 rfl

end Registry

end Membrane
