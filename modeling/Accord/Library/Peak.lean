import Mathlib.Data.List.MinMax

/-! The greatest of a list of values, with a least value for the empty list,
and what it owes to the values at or above a bound. -/

namespace Peak

variable {Value : Type} [LinearOrder Value]

def peak (least : Value) (values : List Value) : Value :=
  values.max?.getD least

variable {least bound : Value} {values before after : List Value}

theorem le_peak {value : Value} (member : value ∈ values) :
    value ≤ peak least values := by
  cases greatest : values.max? with
  | none =>
      rw [List.max?_eq_none_iff] at greatest
      subst greatest
      simp at member
  | some best =>
      rw [List.max?_eq_some_iff] at greatest
      have := greatest.2 value member
      simpa [peak, List.max?_eq_some_iff.mpr greatest] using this

theorem peak_eq_least_or_mem (least : Value) (values : List Value) :
    (values = [] ∧ peak least values = least) ∨ peak least values ∈ values := by
  cases greatest : values.max? with
  | none =>
      left
      exact ⟨List.max?_eq_none_iff.mp greatest, by simp [peak, greatest]⟩
  | some best =>
      right
      rw [peak, greatest]
      exact (List.max?_eq_some_iff.mp greatest).1

theorem least_le_peak (bounded : ∀ value ∈ values, least ≤ value) :
    least ≤ peak least values := by
  rcases peak_eq_least_or_mem least values with
    ⟨_, equality⟩ | member
  · exact equality.ge
  · exact bounded _ member

theorem peak_lt (leastBelow : least < bound)
    (below : ∀ value ∈ values, value < bound) :
    peak least values < bound := by
  rcases peak_eq_least_or_mem least values with
    ⟨_, equality⟩ | member
  · exact equality.trans_lt leastBelow
  · exact below _ member

/-- Two lists that have the same values at or above `bound` have the same peak
when it is at or above `bound`. -/
theorem peak_eq_of_agree
    (agree : ∀ value, bound ≤ value → (value ∈ before ↔ value ∈ after))
    (leastBound : least ≤ bound)
    (bounded : ∀ value ∈ after, least ≤ value)
    (high : bound ≤ peak least before) :
    peak least after = peak least before := by
  apply le_antisymm
  · rcases peak_eq_least_or_mem least after with
      ⟨_, equality⟩ | member
    · exact equality.trans_le (leastBound.trans high)
    · by_cases reaches : bound ≤ peak least after
      · exact le_peak ((agree _ reaches).mpr member)
      · exact (lt_of_not_ge reaches).le.trans high
  · rcases peak_eq_least_or_mem least before with
      ⟨_, equality⟩ | member
    · exact equality.trans_le (least_le_peak bounded)
    · exact le_peak ((agree _ high).mp member)

theorem peak_lt_of_agree
    (agree : ∀ value, bound ≤ value → (value ∈ before ↔ value ∈ after))
    (bounded : ∀ value ∈ before, least ≤ value)
    (low : peak least before < bound) : peak least after < bound := by
  apply peak_lt ((least_le_peak bounded).trans_lt low)
  intro value member
  by_contra reaches
  have inBefore := (agree value (le_of_not_gt reaches)).mpr member
  exact absurd ((le_peak inBefore).trans_lt low) reaches

end Peak
