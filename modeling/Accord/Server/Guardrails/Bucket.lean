import Accord.Library.RateLimit
import Accord.Server.Groups.Moderation
import Mathlib.Algebra.Order.Floor.Defs
import Mathlib.Data.Rat.Floor

/-! The guardrail engine.  An instant is a number of nanoseconds, and the
amounts the source keeps as floating-point numbers are exact here. -/

namespace Accord

namespace ActionClass

def isDestructive : ActionClass → Bool
  | .deleteChannel | .kickMember | .banMember | .deleteRole => true
  | _ => false

def budget : ActionClass → ℚ × ℚ
  | .deleteChannel | .kickMember | .banMember | .deleteRole => (3, 1 / 20)
  | .updateRole | .assignRole | .updateServer => (5, 1 / 5)
  | .createChannel | .createRole => (5, 1 / 5)

theorem budget_pos (action : ActionClass) :
    1 ≤ action.budget.1 ∧ 0 < action.budget.2 := by
  cases action <;> norm_num [budget]

private theorem budget_nonneg (action : ActionClass) :
    0 ≤ action.budget.1 ∧ 0 ≤ action.budget.2 := by
  obtain ⟨capacity, refill⟩ := action.budget_pos
  exact ⟨zero_le_one.trans capacity, refill.le⟩

end ActionClass

structure TokenBucket where
  tokens : ℚ
  capacity : ℚ
  refill : ℚ
  last : ℕ

namespace TokenBucket

def new (capacity refill : ℚ) (now : ℕ) : TokenBucket :=
  ⟨capacity, capacity, refill, now⟩

/-- `saturating_duration_since`, in seconds. -/
def elapsed (bucket : TokenBucket) (now : ℕ) : ℚ :=
  ((now - bucket.last : ℕ) : ℚ) / 10 ^ 9

/-- The bucket after the call, and the seconds to wait if no token was left. -/
def tryTake (bucket : TokenBucket) (now : ℕ) : Option ℕ × TokenBucket :=
  let tokens := min (bucket.tokens + bucket.elapsed now * bucket.refill)
    bucket.capacity
  if 1 ≤ tokens then
    (none, { bucket with tokens := tokens - 1, last := now })
  else
    (some (max 1 ⌈(1 - tokens) / bucket.refill⌉₊),
      { bucket with tokens, last := now })

end TokenBucket

/-- What a check looks at besides the actor and the action. -/
structure ActionContext where
  name : Option String := none
  recentNames : List String := []
  isOwner : Bool := false

/-- `blockOwner` subjects the owner to the limits too. -/
structure Guardrails where
  blockOwner : Bool := false
  buckets : Mapping (Uuid × ActionClass) TokenBucket := ∅

namespace Guardrails

def throttle (action : ActionClass) (seconds : ℕ) : GuardrailDecision :=
  .throttle seconds ((if action.isDestructive then "destructive"
    else "additive") ++ " action '" ++ action.asStr ++
      "' rate-limited; retry in ~" ++ toString seconds ++ "s")

/-- `assess` is the heuristic over channel names. -/
def flagged (assess : String → List String → Option String)
    (action : ActionClass) (ctx : ActionContext) : Option String :=
  if action = .createChannel then
    ctx.name.bind fun name => assess name ctx.recentNames
  else
    none

def bucketOf (guardrails : Guardrails) (actor : Uuid) (action : ActionClass)
    (now : ℕ) : TokenBucket :=
  (guardrails.buckets.lookup (actor, action)).getD
    (.new action.budget.1 action.budget.2 now)

def pass (flagged : Option String) : GuardrailDecision :=
  match flagged with
  | some reason => .allowFlagged reason
  | none => .allow

def checkAt (assess : String → List String → Option String)
    (guardrails : Guardrails) (actor : Uuid) (action : ActionClass)
    (ctx : ActionContext) (now : ℕ) : GuardrailDecision × Guardrails :=
  if ctx.isOwner && !guardrails.blockOwner then
    (pass (flagged assess action ctx), guardrails)
  else
    let taken := (guardrails.bucketOf actor action now).tryTake now
    let after := { guardrails with
      buckets := guardrails.buckets.insert (actor, action) taken.2 }
    match taken.1 with
    | some seconds => (throttle action seconds, after)
    | none => (pass (flagged assess action ctx), after)

end Guardrails

/-! What the buckets say about the actions they let pass. -/

/-- The bucket follows the budget of the action and accounts for the
passes. -/
structure TokenBucket.Accounts (bucket : TokenBucket) (action : ActionClass)
    (times : List ℕ) : Prop where
  capacity : bucket.capacity = action.budget.1
  refill : bucket.refill = action.budget.2
  metered : RateLimit.Metered action.budget.1 (action.budget.2 / 10 ^ 9)
    bucket.tokens bucket.last times

namespace TokenBucket

variable {bucket : TokenBucket} {action : ActionClass} {times : List ℕ}
  {now : ℕ}

private theorem new_accounts (action : ActionClass) (now : ℕ) :
    (new action.budget.1 action.budget.2 now).Accounts action [] where
  capacity := rfl
  refill := rfl
  metered := RateLimit.Metered.fresh
    (div_nonneg action.budget_nonneg.2 (by norm_num))
    action.budget_nonneg.1 now

private theorem tokens_eq_refilled (accounts : bucket.Accounts action times)
    (now : ℕ) :
    min (bucket.tokens + bucket.elapsed now * bucket.refill)
        bucket.capacity =
      RateLimit.refilled action.budget.1 (action.budget.2 / 10 ^ 9)
        bucket.tokens bucket.last now := by
  rw [accounts.capacity, accounts.refill]
  unfold RateLimit.refilled elapsed
  congr 2
  ring

@[simp] theorem tryTake_last (bucket : TokenBucket) (now : ℕ) :
    (bucket.tryTake now).2.last = now := by
  simp only [tryTake]
  split <;> rfl

@[simp] theorem tryTake_capacity (bucket : TokenBucket) (now : ℕ) :
    (bucket.tryTake now).2.capacity = bucket.capacity := by
  simp only [tryTake]
  split <;> rfl

@[simp] theorem tryTake_refill (bucket : TokenBucket) (now : ℕ) :
    (bucket.tryTake now).2.refill = bucket.refill := by
  simp only [tryTake]
  split <;> rfl

private theorem tryTake_accounts (accounts : bucket.Accounts action times)
    (later : bucket.last ≤ now) :
    (bucket.tryTake now).2.Accounts action
      (if (bucket.tryTake now).1 = none then times ++ [now] else times) := by
  have refilled := accounts.metered.refill later
  rw [← tokens_eq_refilled accounts] at refilled
  unfold tryTake
  by_cases there : 1 ≤ min
      (bucket.tokens + bucket.elapsed now * bucket.refill) bucket.capacity
  · simp only [there, if_true]
    exact ⟨accounts.capacity, accounts.refill, refilled.take there⟩
  · simp only [there, if_false, reduceCtorEq]
    exact ⟨accounts.capacity, accounts.refill, refilled⟩

end TokenBucket

namespace Guardrails

/-- No passes before the first look at the bucket. -/
def Accounts (guardrails : Guardrails) (actor : Uuid) (action : ActionClass)
    (times : List ℕ) : Prop :=
  match guardrails.buckets.lookup (actor, action) with
  | some bucket => bucket.Accounts action times
  | none => times = []

/-- The bucket was not looked at after `now`. -/
def NotAhead (guardrails : Guardrails) (actor : Uuid) (now : ℕ) : Prop :=
  ∀ action bucket,
    guardrails.buckets.lookup (actor, action) = some bucket →
      bucket.last ≤ now

variable {guardrails : Guardrails} {actor : Uuid} {action : ActionClass}
  {times : List ℕ} {now : ℕ}

private theorem bucketOf_accounts
    (accounts : guardrails.Accounts actor action times)
    (inOrder : guardrails.NotAhead actor now) :
    (guardrails.bucketOf actor action now).Accounts action times ∧
      (guardrails.bucketOf actor action now).last ≤ now := by
  unfold Accounts at accounts
  unfold bucketOf
  cases known : guardrails.buckets.lookup (actor, action) with
  | none =>
      rw [known] at accounts
      obtain rfl : times = [] := accounts
      exact ⟨TokenBucket.new_accounts action now, le_rfl⟩
  | some bucket =>
      rw [known] at accounts
      exact ⟨accounts, inOrder action bucket known⟩

theorem pass_allowed (flagged : Option String) :
    (pass flagged).allowed = true := by
  cases flagged <;> rfl

def charges (guardrails : Guardrails) (ctx : ActionContext) : Bool :=
  !(ctx.isOwner && !guardrails.blockOwner)

theorem charges_of_ordinary {ctx : ActionContext}
    (ordinary : ctx.isOwner = false) (guardrails : Guardrails) :
    guardrails.charges ctx = true := by
  simp [charges, ordinary]

section Check

variable (assess : String → List String → Option String)
  {ctx : ActionContext}

theorem checkAt_exempt (exempt : guardrails.charges ctx = false)
    (actor : Uuid) (action : ActionClass) (now : ℕ) :
    guardrails.checkAt assess actor action ctx now =
      (pass (flagged assess action ctx), guardrails) := by
  unfold charges at exempt
  rw [Bool.not_eq_false'] at exempt
  simp only [checkAt, exempt, if_true]

theorem checkAt_charged (charged : guardrails.charges ctx = true)
    (actor : Uuid) (action : ActionClass) (now : ℕ) :
    (guardrails.checkAt assess actor action ctx now).2.buckets =
        guardrails.buckets.insert (actor, action)
          ((guardrails.bucketOf actor action now).tryTake now).2 ∧
      ((guardrails.checkAt assess actor action ctx now).1.allowed = true ↔
        ((guardrails.bucketOf actor action now).tryTake now).1 = none) := by
  unfold charges at charged
  rw [Bool.not_eq_true'] at charged
  simp only [checkAt, charged, Bool.false_eq_true, if_false]
  cases ((guardrails.bucketOf actor action now).tryTake now).1 with
  | none => simp [pass_allowed]
  | some seconds => simp [throttle, GuardrailDecision.allowed]

variable (charged : guardrails.charges ctx = true)

include charged

theorem lookup_checkAt (actor : Uuid) (action : ActionClass) (now : ℕ)
    (key : Uuid × ActionClass) :
    (guardrails.checkAt assess actor action ctx now).2.buckets.lookup key =
      if key = (actor, action) then
        some ((guardrails.bucketOf actor action now).tryTake now).2
      else
        guardrails.buckets.lookup key := by
  rw [(checkAt_charged assess charged actor action now).1,
    Mapping.lookup_insert_eq]

theorem checkAt_accounts
    (accounts : guardrails.Accounts actor action times)
    (inOrder : guardrails.NotAhead actor now) :
    (guardrails.checkAt assess actor action ctx now).2.Accounts actor action
      (if (guardrails.checkAt assess actor action ctx now).1.allowed then
        times ++ [now] else times) := by
  obtain ⟨bucket, later⟩ := bucketOf_accounts accounts inOrder
  have passed :=
    (checkAt_charged assess charged actor action now).2
  unfold Accounts
  rw [lookup_checkAt assess charged, if_pos rfl]
  simp only [passed]
  exact TokenBucket.tryTake_accounts bucket later

theorem checkAt_frame {watched : Uuid} {other : ActionClass}
    (different : (watched, other) ≠ (actor, action)) (now : ℕ)
    (times : List ℕ) :
    (guardrails.checkAt assess actor action ctx now).2.Accounts watched other
        times ↔ guardrails.Accounts watched other times := by
  unfold Accounts
  rw [lookup_checkAt assess charged, if_neg different]

theorem checkAt_notAhead {watched : Uuid}
    (inOrder : guardrails.NotAhead watched now) (actor : Uuid)
    (action : ActionClass) :
    (guardrails.checkAt assess actor action ctx now).2.NotAhead watched
      now := by
  intro other bucket known
  rw [lookup_checkAt assess charged] at known
  split at known
  · cases known
    rw [TokenBucket.tryTake_last]
  · exact inOrder other bucket known

end Check

theorem NotAhead.mono (inOrder : guardrails.NotAhead actor now) {later : ℕ}
    (after : now ≤ later) : guardrails.NotAhead actor later :=
  fun action bucket known => (inOrder action bucket known).trans after

theorem Accounts.within (accounts : guardrails.Accounts actor action times) :
    RateLimit.Within action.budget.1 (action.budget.2 / 10 ^ 9) times := by
  unfold Accounts at accounts
  cases known : guardrails.buckets.lookup (actor, action) with
  | some bucket =>
      rw [known] at accounts
      exact accounts.metered.within
  | none =>
      rw [known] at accounts
      subst accounts
      exact (TokenBucket.new_accounts action 0).metered.within

end Guardrails

end Accord
