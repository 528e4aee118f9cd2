import Accord.Server.Guardrails.Coverage

/-! Runs of checks by anybody, and what the buckets hold them to. -/

namespace Accord

namespace TokenBucket

variable {bucket : TokenBucket} {now again seconds : ℕ}

private theorem tryTake_refused
    (refused : (bucket.tryTake now).1 = some seconds) :
    (1 - (bucket.tryTake now).2.tokens) / bucket.refill ≤ (seconds : ℚ) := by
  simp only [tryTake] at refused ⊢
  split at refused
  · cases refused
  · rename_i short
    simp only [short, if_false]
    obtain rfl := Option.some.inj refused
    have ceiling := Nat.le_ceil ((1 - min (bucket.tokens +
      bucket.elapsed now * bucket.refill) bucket.capacity) / bucket.refill)
    refine ceiling.trans ?_
    exact_mod_cast le_max_right _ _

private theorem tryTake_retry (capacity : 1 ≤ bucket.capacity)
    (refill : 0 < bucket.refill)
    (refused : (bucket.tryTake now).1 = some seconds)
    (waited : now + seconds * 10 ^ 9 ≤ again) :
    ((bucket.tryTake now).2.tryTake again).1 = none := by
  have enough := tryTake_refused refused
  have long : (seconds : ℚ) ≤ (bucket.tryTake now).2.elapsed again := by
    rw [elapsed, tryTake_last, le_div_iff₀ (by norm_num)]
    exact_mod_cast Nat.le_sub_of_add_le' waited
  have accrued : 1 ≤ (bucket.tryTake now).2.tokens +
      (bucket.tryTake now).2.elapsed again *
        (bucket.tryTake now).2.refill := by
    have rest := (div_le_iff₀ refill).mp (enough.trans long)
    rw [tryTake_refill]
    linarith
  have there : 1 ≤ min ((bucket.tryTake now).2.tokens +
      (bucket.tryTake now).2.elapsed again * (bucket.tryTake now).2.refill)
      (bucket.tryTake now).2.capacity := by
    apply le_min accrued
    rw [tryTake_capacity]
    exact capacity
  rw [tryTake]
  simp only [there, if_true]

end TokenBucket

structure CheckCall where
  actor : Uuid
  action : ActionClass
  ctx : ActionContext
  now : ℕ

/-- `passed` records what went through for anybody but the owner. -/
structure Checked where
  guardrails : Guardrails
  passed : List Deed := []

namespace CheckCall

variable (assess : String → List String → Option String)

def key (check : CheckCall) : Uuid × ActionClass :=
  (check.actor, check.action)

def decide (check : CheckCall) (guardrails : Guardrails) :
    GuardrailDecision × Guardrails :=
  guardrails.checkAt assess check.actor check.action check.ctx check.now

def step (checked : Checked) (check : CheckCall) : Checked :=
  let decided := check.decide assess checked.guardrails
  { guardrails := decided.2
    passed :=
      if decided.1.allowed && !check.ctx.isOwner then
        checked.passed ++ [⟨check.now, check.actor, check.action⟩]
      else
        checked.passed }

def after (blockOwner : Bool) (checks : List CheckCall) : Checked :=
  EventRun.run (step assess) { guardrails := { blockOwner } } checks

/-- What the buckets promise of a run of checks.  Instants are nanoseconds,
what a throttle names are seconds. -/
structure Held (blockOwner : Bool) (checks : List CheckCall) : Prop where
  level : ∀ key bucket,
    (after assess blockOwner checks).guardrails.buckets.lookup key =
      some bucket →
    bucket.capacity = key.2.budget.1 ∧ 0 ≤ bucket.tokens ∧
      bucket.tokens ≤ bucket.capacity
  rate : ∀ actor action start finish, start ≤ finish →
    (RateLimit.during (timesOf (after assess blockOwner checks).passed actor
        action) start finish : ℚ) ≤
      action.budget.1 +
        action.budget.2 * (((finish - start : ℕ) : ℚ) / 10 ^ 9)
  retry : ∀ before throttled between again later seconds reason,
    checks = before ++ throttled :: (between ++ again :: later) →
    (throttled.decide assess
        (after assess blockOwner before).guardrails).1 =
      .throttle seconds reason →
    (∀ check ∈ between, check.key ≠ throttled.key) →
    again.key = throttled.key →
    throttled.now + seconds * 10 ^ 9 ≤ again.now →
    (again.decide assess (after assess blockOwner
      (before ++ throttled :: between)).guardrails).1.allowed = true
  spared : ∀ before check later key, checks = before ++ check :: later →
    check.key ≠ key ∨ (check.ctx.isOwner = true ∧ blockOwner = false) →
    (after assess blockOwner (before ++ [check])).guardrails.buckets.lookup
        key =
      (after assess blockOwner before).guardrails.buckets.lookup key

variable {assess} {blockOwner : Bool} {check : CheckCall}
  {guardrails : Guardrails} {checked : Checked}

@[simp] theorem decide_blockOwner (check : CheckCall)
    (guardrails : Guardrails) :
    (check.decide assess guardrails).2.blockOwner =
      guardrails.blockOwner := by
  simp only [decide, Guardrails.checkAt]
  split
  · rfl
  · split <;> rfl

private theorem decide_spares {key : Uuid × ActionClass}
    (spared : check.key ≠ key ∨ guardrails.charges check.ctx = false) :
    (check.decide assess guardrails).2.buckets.lookup key =
      guardrails.buckets.lookup key := by
  cases charged : guardrails.charges check.ctx with
  | false => rw [decide, Guardrails.checkAt_exempt assess charged]
  | true =>
      rcases spared with different | exempt
      · rw [decide, Guardrails.lookup_checkAt assess charged, if_neg]
        exact fun same => different same.symm
      · rw [charged] at exempt
        cases exempt

private theorem decide_throttled {seconds : ℕ} {reason : String}
    (throttled : (check.decide assess guardrails).1 =
      .throttle seconds reason) :
    ((guardrails.bucketOf check.actor check.action check.now).tryTake
        check.now).1 = some seconds ∧
      (check.decide assess guardrails).2.buckets.lookup check.key =
        some ((guardrails.bucketOf check.actor check.action
          check.now).tryTake check.now).2 := by
  cases charged : guardrails.charges check.ctx with
  | false =>
      rw [decide, Guardrails.checkAt_exempt assess charged] at throttled
      simp only [Guardrails.pass] at throttled
      split at throttled <;> cases throttled
  | true =>
      constructor
      · unfold Guardrails.charges at charged
        rw [Bool.not_eq_true'] at charged
        simp only [decide, Guardrails.checkAt, charged, Bool.false_eq_true,
          if_false] at throttled
        cases taken : ((guardrails.bucketOf check.actor check.action
            check.now).tryTake check.now).1 with
        | none =>
            rw [taken] at throttled
            simp only [Guardrails.pass] at throttled
            split at throttled <;> cases throttled
        | some wait =>
            rw [taken] at throttled
            cases throttled
            rfl
      · rw [decide, Guardrails.lookup_checkAt assess charged]
        exact if_pos rfl

private theorem decide_allowed {bucket : TokenBucket}
    (known : guardrails.buckets.lookup check.key = some bucket)
    (there : (bucket.tryTake check.now).1 = none) :
    (check.decide assess guardrails).1.allowed = true := by
  cases charged : guardrails.charges check.ctx with
  | false =>
      rw [decide, Guardrails.checkAt_exempt assess charged]
      exact Guardrails.pass_allowed _
  | true =>
      apply (Guardrails.checkAt_charged assess charged check.actor
        check.action check.now).2.mpr
      unfold key at known
      rw [Guardrails.bucketOf, known]
      exact there

end CheckCall

/-! The buckets account for what went through, and were last looked at before
`now`. -/

structure Checked.Metered (checked : Checked) (now : ℕ) : Prop where
  inOrder : ∀ actor, checked.guardrails.NotAhead actor now
  accounts : ∀ actor action, ∃ times,
    checked.guardrails.Accounts actor action times ∧
      (timesOf checked.passed actor action).Sublist times

namespace Checked.Metered

variable {assess : String → List String → Option String}
  {blockOwner : Bool} {check : CheckCall} {checked : Checked} {now : ℕ}

theorem started (blockOwner : Bool) (now : ℕ) :
    Metered { guardrails := { blockOwner } } now where
  inOrder := by
    intro actor action bucket known
    cases known
  accounts := fun _ _ => ⟨[], rfl, List.Sublist.refl _⟩

theorem mono (metered : checked.Metered now) {later : ℕ}
    (after : now ≤ later) : checked.Metered later where
  inOrder actor := (metered.inOrder actor).mono after
  accounts := metered.accounts

theorem timesOf_step (actor : Uuid) (action : ActionClass) :
    timesOf (check.step assess checked).passed actor action =
      if (check.decide assess checked.guardrails).1.allowed = true ∧
          check.ctx.isOwner = false ∧ check.key = (actor, action) then
        timesOf checked.passed actor action ++ [check.now]
      else
        timesOf checked.passed actor action := by
  simp only [CheckCall.step, CheckCall.key, Prod.mk.injEq, Bool.and_eq_true,
    Bool.not_eq_true']
  split
  · rename_i passes
    rw [timesOf_append]
    by_cases same : check.actor = actor ∧ check.action = action
    · simp only [passes, same, and_self, if_true]
    · simp only [same, and_false, if_false, List.append_nil]
  · rename_i refused
    rw [if_neg]
    rintro ⟨allowed, ordinary, -⟩
    exact refused ⟨allowed, ordinary⟩

theorem step (metered : checked.Metered check.now) :
    (check.step assess checked).Metered check.now := by
  cases charged : checked.guardrails.charges check.ctx with
  | false =>
      -- An exempt owner is neither looked up nor recorded.
      have owner : check.ctx.isOwner = true := by
        unfold Guardrails.charges at charged
        rw [Bool.not_eq_false', Bool.and_eq_true] at charged
        exact charged.1
      have same : check.step assess checked = checked := by
        rw [CheckCall.step, CheckCall.decide,
          Guardrails.checkAt_exempt assess charged]
        simp only [owner, Bool.not_true, Bool.and_false,
          Bool.false_eq_true, if_false]
      rw [same]
      exact metered
  | true =>
      constructor
      · intro actor
        exact Guardrails.checkAt_notAhead assess charged
          (metered.inOrder actor) _ _
      · intro actor action
        obtain ⟨times, accounts, sublist⟩ := metered.accounts actor action
        rw [timesOf_step]
        by_cases same : check.key = (actor, action)
        · obtain ⟨rfl, rfl⟩ := Prod.mk.inj same
          refine ⟨_, Guardrails.checkAt_accounts assess charged accounts
            (metered.inOrder _), ?_⟩
          by_cases allowed :
              (check.decide assess checked.guardrails).1.allowed = true
          · unfold CheckCall.decide at allowed
            rw [if_pos allowed]
            split
            · exact sublist.append_right _
            · exact sublist.trans (List.sublist_append_left _ _)
          · rw [if_neg (fun passes => allowed passes.1)]
            unfold CheckCall.decide at allowed
            rw [if_neg allowed]
            exact sublist
        · refine ⟨times, ?_, ?_⟩
          · exact (Guardrails.checkAt_frame assess charged
              (fun equal => same equal.symm) _ _).mpr accounts
          · rw [if_neg (fun passes => same passes.2.2)]
            exact sublist

/-- By induction on the calls still to come, each of them later than what the
buckets have seen. -/
theorem run (metered : checked.Metered now) {checks : List CheckCall}
    (inOrder : checks.Pairwise fun earlier later => earlier.now ≤ later.now)
    (later : ∀ check ∈ checks, now ≤ check.now) :
    ∃ finish,
      (EventRun.run (CheckCall.step assess) checked checks).Metered
        finish := by
  induction checks generalizing checked now with
  | nil => exact ⟨now, metered⟩
  | cons check rest induction =>
      rw [List.pairwise_cons] at inOrder
      have ready := metered.mono (later check List.mem_cons_self)
      exact induction ready.step inOrder.2 inOrder.1

theorem within (metered : checked.Metered now) (actor : Uuid)
    (action : ActionClass) :
    RateLimit.Within action.budget.1 (action.budget.2 / 10 ^ 9)
      (timesOf checked.passed actor action) := by
  obtain ⟨times, accounts, sublist⟩ := metered.accounts actor action
  exact accounts.within.sublist sublist

private theorem bucket_accounts (metered : checked.Metered now)
    {key : Uuid × ActionClass} {bucket : TokenBucket}
    (known : checked.guardrails.buckets.lookup key = some bucket) :
    ∃ times, bucket.Accounts key.2 times := by
  obtain ⟨times, accounts, -⟩ := metered.accounts key.1 key.2
  unfold Guardrails.Accounts at accounts
  rw [known] at accounts
  exact ⟨times, accounts⟩

end Checked.Metered

namespace CheckCall

variable {assess : String → List String → Option String}
  {blockOwner : Bool} {checks : List CheckCall}

private theorem after_append (first second : List CheckCall) :
    after assess blockOwner (first ++ second) =
      EventRun.run (step assess) (after assess blockOwner first) second :=
  EventRun.run_append _ _ _

private theorem after_metered
    (inOrder : checks.Pairwise fun earlier later =>
      earlier.now ≤ later.now) :
    ∃ now, (after assess blockOwner checks).Metered now :=
  (Checked.Metered.started blockOwner 0).run inOrder
    fun _ _ => Nat.zero_le _

private theorem run_blockOwner (checked : Checked) (checks : List CheckCall) :
    (EventRun.run (step assess) checked checks).guardrails.blockOwner =
      checked.guardrails.blockOwner := by
  induction checks generalizing checked with
  | nil => rfl
  | cons check rest induction =>
      rw [EventRun.run_cons, induction]
      exact decide_blockOwner _ _

private theorem after_blockOwner (blockOwner : Bool) (checks : List CheckCall) :
    (after assess blockOwner checks).guardrails.blockOwner = blockOwner :=
  run_blockOwner _ _

private theorem run_spares {key : Uuid × ActionClass}
    (different : ∀ check ∈ checks, check.key ≠ key) (checked : Checked) :
    (EventRun.run (step assess) checked checks).guardrails.buckets.lookup
        key =
      checked.guardrails.buckets.lookup key := by
  induction checks generalizing checked with
  | nil => rfl
  | cons check rest induction =>
      rw [EventRun.run_cons, induction fun other member =>
        different other (List.mem_cons_of_mem _ member)]
      exact decide_spares (.inl (different check List.mem_cons_self))

private theorem after_retry {before between : List CheckCall}
    {throttled again : CheckCall} {seconds : ℕ} {reason : String}
    (inOrder : (before ++ [throttled]).Pairwise
      fun earlier later => earlier.now ≤ later.now)
    (refused : (throttled.decide assess
      (after assess blockOwner before).guardrails).1 =
        .throttle seconds reason)
    (others : ∀ check ∈ between, check.key ≠ throttled.key)
    (same : again.key = throttled.key)
    (waited : throttled.now + seconds * 10 ^ 9 ≤ again.now) :
    (again.decide assess (after assess blockOwner
      (before ++ throttled :: between)).guardrails).1.allowed = true := by
  obtain ⟨taken, placed⟩ := decide_throttled refused
  generalize (after assess blockOwner before).guardrails.bucketOf
    throttled.actor throttled.action throttled.now = bucket at taken placed
  have here : (after assess blockOwner
      (before ++ [throttled])).guardrails.buckets.lookup throttled.key =
        some (bucket.tryTake throttled.now).2 := by
    rw [after_append]
    exact placed
  have still : (after assess blockOwner
      (before ++ throttled :: between)).guardrails.buckets.lookup again.key =
        some (bucket.tryTake throttled.now).2 := by
    rw [same, List.append_cons, after_append, run_spares others]
    exact here
  obtain ⟨now, metered⟩ : ∃ now, (after assess blockOwner _).Metered now :=
    after_metered inOrder
  obtain ⟨times, accounts⟩ := metered.bucket_accounts here
  obtain ⟨capacity, refill⟩ := ActionClass.budget_pos throttled.key.2
  rw [← accounts.capacity, TokenBucket.tryTake_capacity] at capacity
  rw [← accounts.refill, TokenBucket.tryTake_refill] at refill
  exact decide_allowed still
    (TokenBucket.tryTake_retry capacity refill taken waited)

theorem checks_held (assess : String → List String → Option String)
    (blockOwner : Bool) (checks : List CheckCall)
    (inOrder : checks.Pairwise fun earlier later =>
      earlier.now ≤ later.now) :
    Held assess blockOwner checks where
  level := by
    intro key bucket known
    obtain ⟨now, metered⟩ := after_metered inOrder
    obtain ⟨times, accounts⟩ := metered.bucket_accounts known
    refine ⟨accounts.capacity, accounts.metered.level_nonneg, ?_⟩
    rw [accounts.capacity]
    exact accounts.metered.level_le
  rate := by
    intro actor action start finish _
    obtain ⟨now, metered⟩ := after_metered inOrder
    have spread : action.budget.2 * (((finish - start : ℕ) : ℚ) / 10 ^ 9) =
        action.budget.2 / 10 ^ 9 * ((finish - start : ℕ) : ℚ) := by ring
    rw [spread]
    exact metered.within actor action start finish
  retry := by
    intro before throttled between again later seconds reason split refused
      others same waited
    refine after_retry ?_ refused others same waited
    rw [split, List.append_cons] at inOrder
    exact (List.pairwise_append.mp inOrder).1
  spared := by
    intro before check later key _ spared
    rw [after_append]
    apply decide_spares
    rcases spared with different | ⟨owner, off⟩
    · exact .inl different
    · right
      rw [Guardrails.charges, after_blockOwner, owner, off]
      rfl

/-- Three kicks are let through at once, the fourth one after twenty
seconds. -/
def kicks : List CheckCall :=
  [0, 0, 0, 0, 20 * 10 ^ 9].map fun now => ⟨2, .kickMember, {}, now⟩

theorem kicks_held : Held (fun _ _ => none) false kicks :=
  checks_held (fun _ _ => none) false kicks (by decide)

end CheckCall

end Accord
