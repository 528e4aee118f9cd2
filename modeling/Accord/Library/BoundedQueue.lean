import Mathlib.Data.List.Nodup

/-! Queues with a capacity.  What is taken comes from the front; so does what
is dropped when there is too much. -/

namespace BoundedQueue

variable {Item : Type}

/-- Once the capacity is passed, only the newest `keep` items stay. -/
def park (capacity keep : ℕ) (held items : List Item) : List Item :=
  let extended := held ++ items
  if capacity < extended.length then
    extended.drop (extended.length - keep)
  else
    extended

/-- What was taken and what is held are among what was pushed, in its order,
and each item once. -/
structure Kept (capacity : ℕ) (pushed taken held : List Item) : Prop where
  bounded : held.length ≤ capacity
  order : (taken ++ held).Sublist pushed

variable {capacity keep : ℕ} {pushed taken held : List Item}

theorem park_suffix (held items : List Item) :
    park capacity keep held items <:+ held ++ items := by
  simp only [park]
  split
  · exact List.drop_suffix _ _
  · exact List.suffix_rfl

theorem length_park_le (room : keep ≤ capacity) (held items : List Item) :
    (park capacity keep held items).length ≤ capacity := by
  simp only [park]
  split
  · rw [List.length_drop]
    omega
  · omega

theorem Kept.nil : Kept capacity ([] : List Item) [] [] :=
  ⟨Nat.zero_le _, List.Sublist.refl _⟩

theorem Kept.park (kept : Kept capacity pushed taken held)
    (room : keep ≤ capacity) (items : List Item) :
    Kept capacity (pushed ++ items) taken
      (BoundedQueue.park capacity keep held items) where
  bounded := length_park_le room held items
  order := by
    refine ((park_suffix held items).sublist.append_left taken).trans ?_
    rw [← List.append_assoc]
    exact kept.order.append_right items

theorem Kept.take (kept : Kept capacity pushed taken held) (count : ℕ) :
    Kept capacity pushed (taken ++ held.take count) (held.drop count) where
  bounded := by
    rw [List.length_drop]
    exact Nat.le_trans (Nat.sub_le _ _) kept.bounded
  order := by
    rw [List.append_assoc, List.take_append_drop]
    exact kept.order

theorem Kept.taken_nodup (kept : Kept capacity pushed taken held)
    (distinct : pushed.Nodup) : taken.Nodup :=
  ((List.sublist_append_left _ _).trans kept.order).nodup distinct

end BoundedQueue
