import Membrane.Hash.TypeHash

/-!
# Every part of a signature counts

A signature hash is a fold over the parameters that starts from the owner and the name. A step of
the fold loses nothing modulo `2 ^ 64`, neither of what was folded so far nor of the parameter: the
separator is odd, so it can be divided by, and a sum or an exclusive or with a fixed word can be
undone. So no later step hides a change in one part of the signature.

## Key results

- `TypeHash.mixParameter_injective_acc`, `TypeHash.mixParameter_injective_parameter`: one step
- `TypeHash.mixParameters_injective`: all steps for a list of parameters
- `TypeHash.signature_parts_all_count`: owner, name and each parameter
-/

namespace Membrane.TypeHash

/-! ### One step -/

/-- What the separator is multiplied by to give one. -/
def separatorInverse : UInt64 := 0xd3f20f0a40208825

/-- The separator is invertible modulo 2 ^ 64. -/
theorem separator_mul_separatorInverse : separator * separatorInverse = 1 := by decide

/-- Multiplying by the separator loses nothing. -/
theorem mul_separator_injective : Function.Injective (· * separator) := by
  intro a b h
  -- the inverse undoes the multiplication, odd as the separator is
  have hdivided : a * separator * separatorInverse = b * separator * separatorInverse :=
    congrArg (· * separatorInverse) h
  simpa only [UInt64.mul_assoc, separator_mul_separatorInverse, UInt64.mul_one] using hdivided

/-- What was folded so far is not lost in a step, whatever the marker of the position is. -/
theorem mixParameter_injective_acc (position : Nat) (p : TypeHash) :
    Function.Injective fun acc => mixParameter acc position p := by
  intro a b h
  exact mul_separator_injective ((UInt64.add_left_inj _).1 h)

/-- The parameter of a step is not lost. -/
theorem mixParameter_injective_parameter (acc : UInt64) (position : Nat) :
    Function.Injective (mixParameter acc position) := by
  rintro ⟨p⟩ ⟨q⟩ h
  have hmarked : positionMark position ^^^ p = positionMark position ^^^ q :=
    (UInt64.add_right_inj _).1 h
  rw [(UInt64.xor_right_inj _).1 hmarked]

/-! ### All steps -/

/-- Mixing in parameters loses nothing of what was mixed before. -/
theorem mixParameters_injective (position : Nat) (parameters : List TypeHash) :
    Function.Injective fun acc => mixParameters acc position parameters := by
  induction parameters generalizing position with
  | nil => exact fun _ _ h => h
  | cons p rest ih => exact (ih (position + 1)).comp (mixParameter_injective_acc position p)

/-- Parameters are mixed in from the first to the last. -/
theorem mixParameters_append (acc : UInt64) (position : Nat) (before after : List TypeHash) :
    mixParameters acc position (before ++ after) =
      mixParameters (mixParameters acc position before) (position + before.length) after := by
  induction before generalizing acc position with
  | nil => rfl
  | cons p rest ih =>
    rw [List.cons_append, mixParameters, mixParameters, ih, List.length_cons, Nat.add_assoc,
      Nat.add_comm 1]

/-- A parameter is not lost, wherever in the list it stands. -/
theorem mixParameters_injective_parameter (acc : UInt64) (position : Nat)
    (before after : List TypeHash) :
    Function.Injective fun p => mixParameters acc position (before ++ p :: after) := by
  intro p q h
  -- the steps before are the same, and those after it lose nothing
  simp only [mixParameters_append, mixParameters] at h
  exact mixParameter_injective_parameter _ _ (mixParameters_injective _ _ h)

/-! ### Signatures -/

/-- The owner counts. -/
theorem ofHashedName_injective_owner (name : UInt64) (parameters : List TypeHash) :
    Function.Injective fun owner => ofHashedName owner name parameters := by
  rintro ⟨owner⟩ ⟨owner'⟩ h
  -- the parameters are undone first, then the two exclusive ors
  have hstart : memberMark ^^^ owner ^^^ name = memberMark ^^^ owner' ^^^ name :=
    mixParameters_injective 0 parameters (congrArg value h)
  rw [(UInt64.xor_right_inj _).1 ((UInt64.xor_left_inj _).1 hstart)]

/-- The hash of the name counts. -/
theorem ofHashedName_injective_name (owner : TypeHash) (parameters : List TypeHash) :
    Function.Injective fun name => ofHashedName owner name parameters := by
  intro name name' h
  have hstart := mixParameters_injective 0 parameters (congrArg value h)
  exact (UInt64.xor_right_inj _).1 hstart

/-- Every parameter counts, wherever it stands. -/
theorem ofHashedName_injective_parameter (owner : TypeHash) (name : UInt64)
    (before after : List TypeHash) :
    Function.Injective fun p => ofHashedName owner name (before ++ p :: after) :=
  fun _ _ h => mixParameters_injective_parameter _ 0 before after (congrArg value h)

/-- **Every part of a signature counts.** Two signatures that differ in nothing but the owner, or
the hash of the name, or one parameter at any position, have different hashes. So signatures that
differ in nothing but the text of the name are told apart exactly when the texts have different
hashes. -/
theorem signature_parts_all_count :
    (∀ name parameters, Function.Injective fun owner => ofHashedName owner name parameters) ∧
    (∀ owner parameters, Function.Injective fun name => ofHashedName owner name parameters) ∧
    (∀ owner name before after,
      Function.Injective fun p => ofHashedName owner name (before ++ p :: after)) ∧
    ∀ owner text text' parameters,
      ofSignature owner text parameters = ofSignature owner text' parameters ↔
        XXH64.hashText text = XXH64.hashText text' := by
  refine ⟨ofHashedName_injective_owner, ofHashedName_injective_name,
    ofHashedName_injective_parameter, fun owner text text' parameters => ⟨fun h => ?_, fun h => ?_⟩⟩
  · -- two texts collide exactly when their hashes do
    exact ofHashedName_injective_name owner parameters h
  · rw [ofSignature, ofSignature, h]

end Membrane.TypeHash
