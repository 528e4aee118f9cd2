import Accord.Library.Effect

/-! Two runs of one computation, from states that an observer cannot tell
apart.  The rules follow the way the computation is put together. -/

namespace Effect

variable {State Outer Error Value Next : Type}

/-- From related states the results are the same, and the states after are
related again. -/
def Alike (related : State → State → Prop)
    (effect : Effect State Error Value) : Prop :=
  ∀ first second, related first second →
    (effect first).1 = (effect second).1 ∧
      related (effect first).2 (effect second).2

variable {related : State → State → Prop}
  {effect : Effect State Error Value}

theorem Alike.result (alike : effect.Alike related) {first second : State}
    (holds : related first second) :
    (effect first).1 = (effect second).1 :=
  (alike first second holds).1

theorem alike_pure (value : Value) :
    Alike related (pure value : Effect State Error Value) :=
  fun _ _ holds => ⟨rfl, holds⟩

theorem alike_read {view : State → Value}
    (same : ∀ first second, related first second → view first = view second) :
    Alike related (read view : Effect State Error Value) :=
  fun first second holds =>
    ⟨congrArg Except.ok (same first second holds), holds⟩

theorem alike_check {test : State → Bool} {error : Error}
    (same : ∀ first second, related first second →
      test first = test second) :
    Alike related (check test error) := by
  intro first second holds
  simp only [check, same first second holds]
  exact ⟨trivial, holds⟩

theorem alike_require {view : State → Option Value} {error : Error}
    (same : ∀ first second, related first second →
      view first = view second) :
    Alike related (require view error) := by
  intro first second holds
  simp only [require, same first second holds]
  cases view second with
  | none => exact ⟨rfl, holds⟩
  | some value => exact ⟨rfl, holds⟩

theorem alike_ofOption (value : Option Value) (error : Error) :
    Alike related (ofOption value error : Effect State Error Value) :=
  alike_require fun _ _ _ => rfl

theorem alike_update {change : State → State}
    (kept : ∀ first second, related first second →
      related (change first) (change second)) :
    Alike related (update change : Effect State Error Unit) :=
  fun first second holds => ⟨rfl, kept first second holds⟩

theorem Alike.bind (alike : effect.Alike related)
    {rest : Value → Effect State Error Next}
    (restAlike : ∀ value, (rest value).Alike related) :
    Alike related (effect >>= rest) := by
  intro first second holds
  obtain ⟨result, after⟩ := alike first second holds
  rcases firstRan : effect first with ⟨firstResult, firstAfter⟩
  rcases secondRan : effect second with ⟨secondResult, secondAfter⟩
  rw [firstRan, secondRan] at result after
  obtain rfl : firstResult = secondResult := result
  cases firstResult with
  | ok value =>
      rw [bind_of_ok firstRan, bind_of_ok secondRan]
      exact restAlike value firstAfter secondAfter after
  | error error =>
      rw [bind_of_error firstRan, bind_of_error secondRan]
      exact ⟨rfl, after⟩

theorem Alike.mapError {Other : Type} (alike : effect.Alike related)
    (convert : Error → Other) : (effect.mapError convert).Alike related := by
  intro first second holds
  obtain ⟨result, after⟩ := alike first second holds
  exact ⟨congrArg (Except.mapError convert) result, after⟩

theorem Alike.ite {condition : Prop} [Decidable condition]
    {other : Effect State Error Value} (alike : effect.Alike related)
    (otherAlike : other.Alike related) :
    Alike related (if condition then effect else other) := by
  split
  · exact alike
  · exact otherAlike

end Effect
