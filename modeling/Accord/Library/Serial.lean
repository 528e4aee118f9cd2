import Mathlib.Data.List.Permutation

/-! Updates of one value, each as a whole, in some order. -/

namespace Serial

variable {Value Update : Type} (apply : Update → Value → Value)

def result (first : Value) (order : List Update) : Value :=
  order.foldl (fun value update => apply update value) first

/-- The value is what the updates make of the first one in some order. -/
def IsResult (first : Value) (updates : List Update) (value : Value) :
    Prop :=
  ∃ order : List Update, order.Perm updates ∧ value = result apply first order

variable {apply} {first value : Value} {updates others : List Update}

theorem isResult_nil (first : Value) : IsResult apply first [] first :=
  ⟨[], .nil, rfl⟩

theorem IsResult.perm (reached : IsResult apply first updates value)
    (same : updates.Perm others) : IsResult apply first others value := by
  obtain ⟨order, arranged, rfl⟩ := reached
  exact ⟨order, arranged.trans same, rfl⟩

theorem IsResult.cons (reached : IsResult apply first updates value)
    (update : Update) :
    IsResult apply first (update :: updates) (apply update value) := by
  obtain ⟨order, arranged, rfl⟩ := reached
  refine ⟨order ++ [update], ?_, ?_⟩
  · exact (List.perm_append_singleton update order).trans
      (arranged.cons update)
  · rw [result, result, List.foldl_append]
    rfl

theorem isResult_iff_permutations :
    IsResult apply first updates value ↔
      ∃ order ∈ updates.permutations', value = result apply first order := by
  simp only [IsResult, List.mem_permutations']

end Serial
