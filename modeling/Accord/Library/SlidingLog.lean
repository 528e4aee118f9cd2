import Mathlib.Data.List.Basic

/-! A log of what was admitted, pruned to a window of time before it is
counted. -/

namespace SlidingLog

def recent (window now : ℕ) (times : List ℕ) : List ℕ :=
  times.filter fun time => now - time < window

def admission (window limit : ℕ) (kept : List ℕ) (now : ℕ) : Bool × List ℕ :=
  let entries := recent window now kept
  if limit ≤ entries.length then
    (false, entries)
  else
    (true, entries ++ [now])

/-- How many of the times lie in the half-open span of a window's length. -/
def inSpan (window start : ℕ) (times : List ℕ) : ℕ :=
  times.countP fun time => start ≤ time && time < start + window

/-- What is pruned is never recent again, and no span holds more than the
limit. -/
structure Faithful (window limit last : ℕ) (kept admitted : List ℕ) :
    Prop where
  past : ∀ time ∈ admitted, time ≤ last
  agree : ∀ now, last ≤ now → recent window now kept =
    recent window now admitted
  spans : ∀ start, inSpan window start admitted ≤ limit

variable {window limit last now : ℕ} {kept admitted : List ℕ}

theorem recent_append (first second : List ℕ) :
    recent window now (first ++ second) =
      recent window now first ++ recent window now second :=
  List.filter_append _ _

theorem recent_recent {later : ℕ} (after : now ≤ later) (times : List ℕ) :
    recent window later (recent window now times) =
      recent window later times := by
  unfold recent
  rw [List.filter_filter]
  apply List.filter_congr
  intro time _
  simp only [Bool.and_eq_decide, decide_eq_true_eq, decide_eq_decide]
  omega

theorem inSpan_le_recent {start : ℕ} (past : ∀ time ∈ admitted, time ≤ now)
    (reaches : now < start + window) :
    inSpan window start admitted ≤ (recent window now admitted).length := by
  rw [recent, ← List.countP_eq_length_filter]
  apply List.countP_mono_left
  intro time member inside
  have := past time member
  simp only [Bool.and_eq_true, decide_eq_true_eq] at inside ⊢
  omega

theorem Faithful.empty (window limit last : ℕ) :
    Faithful window limit last [] [] where
  past := by simp
  agree := fun _ _ => rfl
  spans := fun _ => Nat.zero_le _

theorem Faithful.mono (faithful : Faithful window limit last kept admitted)
    (after : last ≤ now) : Faithful window limit now kept admitted where
  past time member := Nat.le_trans (faithful.past time member) after
  agree later reached := faithful.agree later (Nat.le_trans after reached)
  spans := faithful.spans

/-- The log refuses exactly when as many as the limit were admitted less than
a window ago. -/
theorem Faithful.admission_iff
    (faithful : Faithful window limit now kept admitted) :
    (admission window limit kept now).1 = false ↔
      limit ≤ (recent window now admitted).length := by
  rw [admission, faithful.agree now (Nat.le_refl now)]
  split
  · rename_i full
    exact iff_of_true rfl full
  · rename_i room
    exact iff_of_false (by simp) room

theorem Faithful.admission
    (faithful : Faithful window limit now kept admitted) :
    Faithful window limit now (SlidingLog.admission window limit kept now).2
      (if (SlidingLog.admission window limit kept now).1 then admitted ++ [now]
        else admitted) := by
  have pruned : ∀ later, now ≤ later →
      recent window later (recent window now kept) =
        recent window later admitted := by
    intro later after
    rw [recent_recent after, faithful.agree later after]
  have counted := faithful.agree now (Nat.le_refl now)
  rw [SlidingLog.admission]
  split
  · exact ⟨faithful.past, pruned, faithful.spans⟩
  · rename_i room
    refine ⟨?_, ?_, ?_⟩
    · intro time member
      rcases List.mem_append.mp member with old | new
      · exact faithful.past time old
      · exact Nat.le_of_eq (List.mem_singleton.mp new)
    · intro later after
      simp only [if_true]
      rw [recent_append, recent_append, pruned later after]
    · intro start
      simp only [if_true]
      rw [inSpan, List.countP_append, List.countP_singleton]
      have before := faithful.spans start
      split
      · rename_i inside
        simp only [Bool.and_eq_true, decide_eq_true_eq] at inside
        have recents := inSpan_le_recent faithful.past inside.2
        rw [counted] at room
        unfold inSpan at recents
        omega
      · exact before

end SlidingLog
