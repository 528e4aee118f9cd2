import Mathlib.Algebra.Order.Field.Basic
import Mathlib.Data.Nat.Cast.Order.Field
import Mathlib.Tactic.Linarith

/-! A token bucket and what it lets pass.  Tokens accrue with the ticks of a
clock up to a capacity, and every pass takes one. -/

namespace RateLimit

variable {Amount : Type} [Field Amount] [LinearOrder Amount]
  [IsStrictOrderedRing Amount]

/-- How many of the times lie between the two, both included. -/
def during (times : List ℕ) (start finish : ℕ) : ℕ :=
  times.countP fun time => start ≤ time ∧ time ≤ finish

def since (times : List ℕ) (start : ℕ) : ℕ :=
  times.countP fun time => start ≤ time

/-- In any span there are at most as many times as a full bucket holds and the
span adds. -/
def Within (capacity rate : Amount) (times : List ℕ) : Prop :=
  ∀ start finish, (during times start finish : Amount) ≤
    capacity + rate * ((finish - start : ℕ) : Amount)

/-- The steps forward of a clock that is read at these times, in this order;
a step back counts for nothing. -/
def advanced : ℕ → List ℕ → ℕ
  | _, [] => 0
  | last, time :: rest => (time - last) + advanced time rest

def span (first : ℕ) (rest : List ℕ) : ℕ :=
  rest.foldl max first - rest.foldl min first

/-- What the level of a bucket says about the passes before it was last looked
at: those since any moment have been paid out of a full bucket and what has
accrued since then. -/
structure Metered (capacity rate level : Amount) (last : ℕ)
    (times : List ℕ) : Prop where
  rate_nonneg : 0 ≤ rate
  level_nonneg : 0 ≤ level
  level_le : level ≤ capacity
  past : ∀ time ∈ times, time ≤ last
  paid : ∀ start, (since times start : Amount) + level ≤
    capacity + rate * ((last - start : ℕ) : Amount)
  within : Within capacity rate times

variable {capacity rate level : Amount} {last now : ℕ} {times : List ℕ}

theorem since_append (start time : ℕ) :
    since (times ++ [time]) start =
      since times start + if start ≤ time then 1 else 0 := by
  simp [since, List.countP_append, List.countP_singleton]

theorem during_append (start finish time : ℕ) :
    during (times ++ [time]) start finish =
      during times start finish +
        if start ≤ time ∧ time ≤ finish then 1 else 0 := by
  simp [during, List.countP_append, List.countP_singleton]

theorem during_le_since (times : List ℕ) (start finish : ℕ) :
    during times start finish ≤ since times start := by
  apply List.countP_mono_left
  intro time _ inside
  simp only [decide_eq_true_eq] at inside ⊢
  exact inside.1

theorem since_eq_zero {start : ℕ} (past : ∀ time ∈ times, time ≤ last)
    (later : last < start) : since times start = 0 := by
  rw [since, List.countP_eq_zero]
  intro time member inside
  have := past time member
  simp only [decide_eq_true_eq] at inside
  omega

theorem Within.sublist {fewer : List ℕ} (within : Within capacity rate times)
    (sublist : fewer.Sublist times) : Within capacity rate fewer := by
  intro start finish
  have count : during fewer start finish ≤ during times start finish :=
    sublist.countP_le
  have cast : (during fewer start finish : Amount) ≤
      (during times start finish : Amount) := by exact_mod_cast count
  exact cast.trans (within start finish)

theorem accrued_nonneg (rate_nonneg : 0 ≤ rate) (ticks : ℕ) :
    0 ≤ rate * (ticks : Amount) :=
  mul_nonneg rate_nonneg (Nat.cast_nonneg ticks)

theorem Metered.fresh (rate_nonneg : 0 ≤ rate) (capacity_nonneg : 0 ≤ capacity)
    (now : ℕ) : Metered capacity rate capacity now [] where
  rate_nonneg := rate_nonneg
  level_nonneg := capacity_nonneg
  level_le := le_rfl
  past := by simp
  paid start := by
    have := accrued_nonneg rate_nonneg (now - start)
    simp [since, this]
  within start finish := by
    have := accrued_nonneg rate_nonneg (finish - start)
    simp only [during, List.countP_nil, Nat.cast_zero]
    linarith

/-- The level after the ticks up to `now`. -/
def refilled (capacity rate level : Amount) (last now : ℕ) : Amount :=
  min (level + rate * ((now - last : ℕ) : Amount)) capacity

/-- Looking at a bucket later: it has accrued, and nothing has passed. -/
theorem Metered.refill (metered : Metered capacity rate level last times)
    (later : last ≤ now) :
    Metered capacity rate (refilled capacity rate level last now) now
      times := by
  have accrued := accrued_nonneg metered.rate_nonneg (now - last)
  have nonneg := metered.level_nonneg
  have bounded := metered.level_le
  refine ⟨metered.rate_nonneg, ?_, min_le_right _ _, ?_, ?_, metered.within⟩
  · exact le_min (by linarith) (by linarith)
  · intro time member
    exact (metered.past time member).trans later
  · intro start
    by_cases before : start ≤ last
    · have paid := metered.paid start
      have level := min_le_left
        (level + rate * ((now - last : ℕ) : Amount)) capacity
      have split : ((now - start : ℕ) : Amount) =
          ((now - last : ℕ) : Amount) + ((last - start : ℕ) : Amount) := by
        rw [← Nat.cast_add]
        congr 1
        omega
      rw [split, mul_add]
      unfold refilled
      linarith
    · have none := since_eq_zero metered.past (not_le.mp before)
      have level := min_le_right
        (level + rate * ((now - last : ℕ) : Amount)) capacity
      have accrued := accrued_nonneg metered.rate_nonneg (now - start)
      rw [none, Nat.cast_zero, zero_add]
      unfold refilled
      linarith

theorem Metered.take (metered : Metered capacity rate level last times)
    (there : 1 ≤ level) :
    Metered capacity rate (level - 1) last (times ++ [last]) := by
  have owed : ∀ start, (since (times ++ [last]) start : Amount) + (level - 1) ≤
      capacity + rate * ((last - start : ℕ) : Amount) := by
    intro start
    have paid := metered.paid start
    rw [since_append]
    split
    · push_cast
      linarith
    · push_cast
      linarith
  refine ⟨metered.rate_nonneg, by linarith, ?_, ?_, owed, ?_⟩
  · have := metered.level_le
    linarith
  · intro time member
    rcases List.mem_append.mp member with old | new
    · exact metered.past time old
    · rw [List.mem_singleton.mp new]
  · intro start finish
    by_cases reaches : last ≤ finish
    · -- The new pass may lie in the span, which the level pays for.
      have counted : (during (times ++ [last]) start finish : Amount) ≤
          since (times ++ [last]) start := by
        exact_mod_cast during_le_since _ start finish
      have longer : ((last - start : ℕ) : Amount) ≤
          ((finish - start : ℕ) : Amount) := by
        exact_mod_cast Nat.sub_le_sub_right reaches start
      have accrued := mul_le_mul_of_nonneg_left longer metered.rate_nonneg
      have := owed start
      linarith
    · rw [during_append, if_neg (fun inside => reaches inside.2), add_zero]
      exact metered.within start finish

end RateLimit
