import Accord.Server.Guardrails.Bucket

/-! Calls on one bucket whose times come in any order: the clock is read
before the buckets are locked. -/

namespace Accord

namespace TokenBucket

open RateLimit

/-- How many of the calls at these times are let through. -/
def granted : TokenBucket → List ℕ → ℕ
  | _, [] => 0
  | bucket, now :: rest =>
      let taken := bucket.tryTake now
      (if taken.1.isNone then 1 else 0) + granted taken.2 rest

/-- What the clock adds on the way, when nothing spills over. -/
def accrues (bucket : TokenBucket) (times : List ℕ) : ℚ :=
  bucket.refill * ((advanced bucket.last times : ℕ) : ℚ) / 10 ^ 9

variable {bucket : TokenBucket} {now : ℕ} {times : List ℕ}

private theorem accrues_cons (bucket : TokenBucket) (now : ℕ) (rest : List ℕ) :
    bucket.accrues (now :: rest) =
      bucket.elapsed now * bucket.refill +
        (bucket.tryTake now).2.accrues rest := by
  simp only [accrues, advanced, elapsed, tryTake_last, tryTake_refill]
  push_cast
  ring

private theorem elapsed_nonneg (bucket : TokenBucket) (now : ℕ) :
    0 ≤ bucket.elapsed now := by
  unfold elapsed
  positivity

/-- The tokens there are once what has accrued is added. -/
def filled (bucket : TokenBucket) (now : ℕ) : ℚ :=
  min (bucket.tokens + bucket.elapsed now * bucket.refill) bucket.capacity

private theorem tryTake_there (there : 1 ≤ bucket.filled now) :
    (bucket.tryTake now).1 = none ∧
      (bucket.tryTake now).2.tokens = bucket.filled now - 1 := by
  unfold filled at there ⊢
  simp only [tryTake, there, if_true, and_self]

private theorem tryTake_short (short : bucket.filled now < 1) :
    (∃ seconds, (bucket.tryTake now).1 = some seconds) ∧
      (bucket.tryTake now).2.tokens = bucket.filled now := by
  unfold filled at short ⊢
  simp only [tryTake, not_le.mpr short, if_false, and_true]
  exact ⟨_, rfl⟩

private theorem granted_cons (bucket : TokenBucket) (now : ℕ) (rest : List ℕ) :
    (bucket.granted (now :: rest) : ℚ) =
      (if (bucket.tryTake now).1.isNone then 1 else 0) +
        ((bucket.tryTake now).2.granted rest : ℚ) := by
  rw [granted]
  split <;> simp

/-- No more are let through than there were tokens and have accrued, by
induction on the calls. -/
private theorem granted_le (refill : 0 ≤ bucket.refill)
    (capacity : 0 ≤ bucket.capacity) (tokens : 0 ≤ bucket.tokens) :
    (bucket.granted times : ℚ) ≤ bucket.tokens + bucket.accrues times := by
  induction times generalizing bucket with
  | nil => simpa [granted, accrues, advanced] using tokens
  | cons now rest induction =>
      have accrued : 0 ≤ bucket.elapsed now * bucket.refill :=
        mul_nonneg (bucket.elapsed_nonneg now) refill
      have within : bucket.filled now ≤ bucket.tokens +
          bucket.elapsed now * bucket.refill := min_le_left _ _
      have nonneg : 0 ≤ bucket.filled now :=
        le_min (by linarith) capacity
      have later := @induction (bucket.tryTake now).2
      rw [tryTake_refill, tryTake_capacity] at later
      rw [accrues_cons, granted_cons]
      rcases le_or_gt 1 (bucket.filled now) with there | short
      · obtain ⟨passes, left⟩ := tryTake_there there
        have rest := later refill capacity (by linarith)
        rw [passes, Option.isNone_none, if_pos rfl]
        linarith
      · obtain ⟨⟨_, refused⟩, left⟩ := tryTake_short short
        have rest := later refill capacity (by linarith)
        rw [refused, Option.isNone_some, if_neg (by simp)]
        linarith

private theorem granted_eq_length (refill : 0 ≤ bucket.refill)
    (little : bucket.accrues times ≤ 1)
    (fits : bucket.tokens + bucket.accrues times ≤ bucket.capacity)
    (enough : (times.length : ℚ) ≤ bucket.tokens + bucket.accrues times) :
    bucket.granted times = times.length := by
  induction times generalizing bucket with
  | nil => rfl
  | cons now rest induction =>
      have accrued : 0 ≤ bucket.elapsed now * bucket.refill :=
        mul_nonneg (bucket.elapsed_nonneg now) refill
      have later : 0 ≤ (bucket.tryTake now).2.accrues rest := by
        unfold accrues
        rw [tryTake_refill]
        positivity
      rw [accrues_cons] at little fits enough
      rw [List.length_cons] at enough
      push_cast at enough
      have fills : bucket.filled now = bucket.tokens +
          bucket.elapsed now * bucket.refill := min_eq_left (by linarith)
      have there : 1 ≤ bucket.filled now := by
        rw [fills]
        cases rest with
        | nil =>
            -- Nothing accrues after the last call.
            have none : (bucket.tryTake now).2.accrues [] = 0 := by
              simp [accrues, advanced]
            simp only [List.length_nil, Nat.cast_zero] at enough
            linarith
        | cons next rest =>
            have many : (1 : ℚ) ≤ ((next :: rest).length : ℚ) := by
              exact_mod_cast Nat.succ_pos rest.length
            linarith
      obtain ⟨passes, left⟩ := tryTake_there there
      have counted : (bucket.tryTake now).2.granted rest = rest.length := by
        apply induction
        · rw [tryTake_refill]
          exact refill
        · linarith
        · rw [tryTake_capacity, left]
          linarith
        · rw [left]
          linarith
      rw [granted, passes, Option.isNone_none, if_pos rfl, counted,
        List.length_cons, add_comm]

private theorem accrues_new (capacity refill : ℚ) (first : ℕ) (rest : List ℕ) :
    (new capacity refill first).accrues (first :: rest) =
      refill * ((advanced first rest : ℕ) : ℚ) / 10 ^ 9 := by
  simp [accrues, new, advanced]

/-- Where the clock advances further than it spans, a bucket that gives one
token for the whole of it, and holds one less than there are calls, lets all of
them through. -/
private theorem granted_new_eq_length {first : ℕ} {rest : List ℕ}
    (advances : 0 < advanced first rest) :
    (new rest.length (10 ^ 9 / (advanced first rest : ℚ)) first).granted
      (first :: rest) = rest.length + 1 := by
  have positive : (0 : ℚ) < (advanced first rest : ℚ) := by
    exact_mod_cast advances
  have calls : (1 : ℚ) ≤ (rest.length : ℚ) := by
    cases rest with
    | nil => cases advances
    | cons next later => exact_mod_cast Nat.succ_pos later.length
  generalize made : new rest.length (10 ^ 9 / (advanced first rest : ℚ))
    first = bucket
  have still : bucket.elapsed first = 0 := by
    rw [← made]
    simp [elapsed, new]
  have whole : (bucket.tryTake first).2.accrues rest = 1 := by
    have all := accrues_cons bucket first rest
    rw [still, zero_mul, zero_add, ← made, accrues_new, made] at all
    rw [← all]
    field_simp
  have full : bucket.filled first = rest.length := by
    rw [filled, still, zero_mul, add_zero, ← made]
    exact min_self _
  have there : 1 ≤ bucket.filled first := by
    rw [full]
    exact calls
  obtain ⟨passes, left⟩ := tryTake_there there
  rw [full] at left
  have others : (bucket.tryTake first).2.granted rest = rest.length := by
    apply granted_eq_length
    · rw [tryTake_refill, ← made]
      exact div_nonneg (by norm_num) positive.le
    · exact whole.le
    · rw [whole, left, tryTake_capacity, sub_add_cancel, ← made]
      exact le_rfl
    · rw [whole, left, sub_add_cancel]
  rw [granted, passes, Option.isNone_none, if_pos rfl, others, add_comm]

theorem granted_new_le_iff (first : ℕ) (rest : List ℕ) :
    (∀ capacity refill : ℚ, 0 ≤ capacity → 0 < refill →
      ((new capacity refill first).granted (first :: rest) : ℚ) ≤
        capacity + refill * ((span first rest : ℚ) / 10 ^ 9)) ↔
      advanced first rest ≤ span first rest := by
  constructor
  · intro bounded
    rcases Nat.eq_zero_or_pos (advanced first rest) with none | advances
    · rw [none]
      exact Nat.zero_le _
    · have positive : (0 : ℚ) < (advanced first rest : ℚ) := by
        exact_mod_cast advances
      have bound := bounded rest.length
        (10 ^ 9 / (advanced first rest : ℚ)) (Nat.cast_nonneg _)
        (by positivity)
      rw [granted_new_eq_length advances] at bound
      have share : (10 : ℚ) ^ 9 / (advanced first rest : ℚ) *
          ((span first rest : ℚ) / 10 ^ 9) =
            (span first rest : ℚ) / (advanced first rest : ℚ) := by
        field_simp
      rw [share] at bound
      push_cast at bound
      have whole : (1 : ℚ) ≤
          (span first rest : ℚ) / (advanced first rest : ℚ) := by linarith
      rw [le_div_iff₀ positive, one_mul] at whole
      exact_mod_cast whole
  · intro steady capacity refill full rate
    have bound : ((new capacity refill first).granted (first :: rest) : ℚ) ≤
        _ := granted_le rate.le full full
    have spanned : (advanced first rest : ℚ) ≤ (span first rest : ℚ) := by
      exact_mod_cast steady
    have accrued := mul_le_mul_of_nonneg_left spanned rate.le
    rw [accrues_new] at bound
    refine bound.trans ?_
    rw [← mul_div_assoc]
    change capacity + _ ≤ _
    gcongr

/-- One token accrues in the twenty seconds and is given out twice. -/
theorem kicks_twice : ¬ ((new ActionClass.kickMember.budget.1
        ActionClass.kickMember.budget.2 0).granted
      [0, 0, 0, 20 * 10 ^ 9, 0, 20 * 10 ^ 9] : ℚ) ≤
    ActionClass.kickMember.budget.1 + ActionClass.kickMember.budget.2 *
      ((span 0 [0, 0, 20 * 10 ^ 9, 0, 20 * 10 ^ 9] : ℚ) / 10 ^ 9) := by
  have count : (new ActionClass.kickMember.budget.1
      ActionClass.kickMember.budget.2 0).granted
        [0, 0, 0, 20 * 10 ^ 9, 0, 20 * 10 ^ 9] = 5 := by
    norm_num [granted, tryTake, new, elapsed, ActionClass.budget]
  rw [count]
  norm_num [span, ActionClass.budget]

end TokenBucket

end Accord
