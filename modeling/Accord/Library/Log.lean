import Mathlib.Data.List.Basic

/-! Logs whose rows are numbered as they come in. -/

namespace Log

variable {Row : Type} (number : Row → ℕ)

/-- The later log is the earlier one and newer rows, all numbered above it. -/
def Extends (before after : List Row) : Prop :=
  ∃ newer, after = before ++ newer ∧
    ∀ old ∈ before, ∀ row ∈ newer, number old < number row

variable {number}

theorem Extends.refl (rows : List Row) : Extends number rows rows :=
  ⟨[], (List.append_nil rows).symm, fun _ _ _ => nofun⟩

theorem Extends.of_eq {before after : List Row} (same : after = before) :
    Extends number before after := by
  rw [same]
  exact .refl before

theorem Extends.trans {first second third : List Row}
    (extended : Extends number first second)
    (again : Extends number second third) : Extends number first third := by
  obtain ⟨newer, rfl, above⟩ := extended
  obtain ⟨newest, rfl, higher⟩ := again
  refine ⟨newer ++ newest, List.append_assoc _ _ _, ?_⟩
  intro old listed row added
  rcases List.mem_append.mp added with earlier | later
  · exact above old listed row earlier
  · exact higher old (List.mem_append_left _ listed) row later

theorem Extends.append {rows : List Row} {row : Row}
    (above : ∀ old ∈ rows, number old < number row) :
    Extends number rows (rows ++ [row]) := by
  refine ⟨[row], rfl, ?_⟩
  intro old listed newest added
  rw [List.mem_singleton.mp added]
  exact above old listed

theorem Extends.filter {before after : List Row}
    (extended : Extends number before after) (selected : Row → Bool) :
    Extends number (before.filter selected) (after.filter selected) := by
  obtain ⟨newer, rfl, above⟩ := extended
  refine ⟨newer.filter selected, List.filter_append before newer, ?_⟩
  intro old listed row added
  exact above old (List.mem_of_mem_filter listed) row
    (List.mem_of_mem_filter added)

end Log
