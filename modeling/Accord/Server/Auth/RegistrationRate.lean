import Accord.Library.EventRun
import Accord.Library.SlidingLog
import Accord.Server.Auth.Service
import Mathlib.Algebra.Order.BigOperators.Group.List
import Mathlib.Algebra.Order.Group.Nat

/-! Registrations from an address: the device itself is exempt from the rate
limit, every other address is held to it. -/

namespace Accord

inductive IpAddr where
  | v4 (bits : BitVec 32)
  | v6 (bits : BitVec 128)
  deriving DecidableEq

namespace IpAddr

def isLoopbackV4 (bits : BitVec 32) : Bool :=
  bits.extractLsb' 24 8 == 127

def toIpv4Mapped (bits : BitVec 128) : Option (BitVec 32) :=
  if bits.extractLsb' 32 96 = 0xffff then
    some (bits.extractLsb' 0 32)
  else
    none

def isLoopback : IpAddr → Bool
  | .v4 bits => isLoopbackV4 bits
  | .v6 bits => bits == 1 || (toIpv4Mapped bits).any isLoopbackV4

end IpAddr

/-- The admitted registrations of each address, in nanoseconds. -/
abbrev RegLog := Mapping IpAddr (List ℕ)

namespace AuthSvc

def maxRemoteRegistrationsPerWindow : ℕ := 5

def registrationWindow : ℕ := 60 * 60 * 10 ^ 9

def rateLimited : ServerError :=
  .rateLimited "too many registrations from this address; try again later"

def checkRegistrationRate (ip : IpAddr) (now : ℕ) :
    Effect RegLog ServerError Unit := fun log =>
  let entries := SlidingLog.recent registrationWindow now
    ((log.lookup ip).getD [])
  if maxRemoteRegistrationsPerWindow ≤ entries.length then
    (.error rateLimited, log.insert ip entries)
  else
    (.ok (), log.insert ip (entries ++ [now]))

end AuthSvc

structure RateCall where
  ip : IpAddr
  now : ℕ
  deriving DecidableEq

/-- `admitted` records a run. -/
structure RateRun where
  log : RegLog := ∅
  admitted : List RateCall := []

namespace RateRun

open AuthSvc

def verdict (rated : RateRun) (call : RateCall) : Except ServerError Unit :=
  (checkRegistrationRate call.ip call.now rated.log).1

def step (rated : RateRun) (call : RateCall) : RateRun where
  log := (checkRegistrationRate call.ip call.now rated.log).2
  admitted :=
    match rated.verdict call with
    | .ok _ => rated.admitted ++ [call]
    | .error _ => rated.admitted

def after (calls : List RateCall) : RateRun :=
  EventRun.run step {} calls

def timesOf (rated : RateRun) (ip : IpAddr) : List ℕ :=
  (rated.admitted.filter (·.ip = ip)).map (·.now)

/-- What the rate limit promises of a run of calls. -/
structure Limited (calls : List RateCall) : Prop where
  span : ∀ ip start, SlidingLog.inSpan registrationWindow start
    ((after calls).timesOf ip) ≤ maxRemoteRegistrationsPerWindow
  refused : ∀ before call later error, calls = before ++ call :: later →
    (after before).verdict call = .error error →
    maxRemoteRegistrationsPerWindow ≤
      (((after before).timesOf call.ip).filter fun time =>
        time ≤ call.now ∧ call.now - time < registrationWindow).length
  apart : ∀ before call later, calls = before ++ call :: later →
    (after before).verdict call =
      (after (before.filter (·.ip = call.ip))).verdict call

def entries (rated : RateRun) (ip : IpAddr) : List ℕ :=
  (rated.log.lookup ip).getD []

variable {rated : RateRun} {call : RateCall}

def admission (rated : RateRun) (call : RateCall) : Bool × List ℕ :=
  SlidingLog.admission registrationWindow maxRemoteRegistrationsPerWindow
    (rated.entries call.ip) call.now

private theorem checkRegistrationRate_eq (rated : RateRun) (call : RateCall) :
    checkRegistrationRate call.ip call.now rated.log =
      (if (rated.admission call).1 then .ok () else .error rateLimited,
        rated.log.insert call.ip (rated.admission call).2) := by
  by_cases full : maxRemoteRegistrationsPerWindow ≤
      (SlidingLog.recent registrationWindow call.now
        (rated.entries call.ip)).length
  · have refused : rated.admission call = (false, _) := if_pos full
    rw [refused]
    exact if_pos full
  · have admitted : rated.admission call = (true, _) := if_neg full
    rw [admitted]
    exact if_neg full

private theorem verdict_eq (rated : RateRun) (call : RateCall) :
    rated.verdict call =
      if (rated.admission call).1 then .ok () else .error rateLimited := by
  rw [verdict, checkRegistrationRate_eq]

private theorem entries_step (rated : RateRun) (call : RateCall) (ip : IpAddr) :
    (rated.step call).entries ip =
      if ip = call.ip then (rated.admission call).2
      else rated.entries ip := by
  simp only [entries, step, checkRegistrationRate_eq,
    Mapping.lookup_insert_eq]
  split <;> rfl

theorem timesOf_append (rated : RateRun) (call : RateCall) (ip : IpAddr) :
    timesOf { rated with admitted := rated.admitted ++ [call] } ip =
      rated.timesOf ip ++ if ip = call.ip then [call.now] else [] := by
  simp only [timesOf, List.filter_append, List.map_append]
  congr 1
  by_cases same : ip = call.ip
  · simp [same]
  · have other : ¬ call.ip = ip := fun equal => same equal.symm
    simp [same, other]

theorem timesOf_step (rated : RateRun) (call : RateCall) (ip : IpAddr) :
    (rated.step call).timesOf ip =
      if ip = call.ip ∧ (rated.admission call).1 = true then
        rated.timesOf ip ++ [call.now]
      else
        rated.timesOf ip := by
  have admitted : (rated.step call).timesOf ip = timesOf { rated with
      admitted := if (rated.admission call).1 then rated.admitted ++ [call]
        else rated.admitted } ip := by
    simp only [timesOf, step, verdict_eq]
    cases (rated.admission call).1 <;> rfl
  rw [admitted]
  cases passes : (rated.admission call).1 with
  | true =>
      simp only [if_true, timesOf_append, and_true]
      split <;> simp
  | false => simp

/-- Each address has a log of its own, and all logs were last pruned before
`now`. -/
def Logged (rated : RateRun) (now : ℕ) : Prop :=
  ∀ ip, SlidingLog.Faithful registrationWindow
    maxRemoteRegistrationsPerWindow now (rated.entries ip) (rated.timesOf ip)

theorem Logged.step (logged : rated.Logged call.now) :
    (rated.step call).Logged call.now := by
  intro ip
  rw [entries_step, timesOf_step]
  by_cases same : ip = call.ip
  · subst same
    simp only [if_true, true_and]
    exact (logged call.ip).admission
  · simp only [same, if_false, false_and]
    exact logged ip

theorem Logged.run {now finish : ℕ} (logged : rated.Logged now)
    {calls : List RateCall}
    (inOrder : calls.Pairwise fun earlier later => earlier.now ≤ later.now)
    (later : ∀ call ∈ calls, now ≤ call.now)
    (reached : ∀ call ∈ calls, call.now ≤ finish) (bounded : now ≤ finish) :
    (EventRun.run RateRun.step rated calls).Logged finish := by
  induction calls generalizing rated now with
  | nil => exact fun ip => (logged ip).mono bounded
  | cons call rest induction =>
      rw [List.pairwise_cons] at inOrder
      have ready : rated.Logged call.now := fun ip =>
        (logged ip).mono (later call List.mem_cons_self)
      exact induction ready.step inOrder.2 inOrder.1
        (fun other member => reached other (List.mem_cons_of_mem _ member))
        (reached call List.mem_cons_self)

variable {calls : List RateCall}

private theorem after_logged {finish : ℕ}
    (inOrder : calls.Pairwise fun earlier later => earlier.now ≤ later.now)
    (reached : ∀ call ∈ calls, call.now ≤ finish) :
    (after calls).Logged finish :=
  Logged.run (fun _ => SlidingLog.Faithful.empty _ _ 0) inOrder
    (fun _ _ => Nat.zero_le _) reached (Nat.zero_le _)

/-- The log of an address is what its own calls have left in it, by induction
on the calls from two runs that agree about the address. -/
private theorem entries_run (ip : IpAddr) (calls : List RateCall)
    {first second : RateRun} (same : first.entries ip = second.entries ip) :
    (EventRun.run RateRun.step first calls).entries ip =
      (EventRun.run RateRun.step second
        (calls.filter (·.ip = ip))).entries ip := by
  induction calls generalizing first second with
  | nil => exact same
  | cons call rest induction =>
      rw [EventRun.run_cons]
      by_cases own : call.ip = ip
      · subst own
        rw [List.filter_cons_of_pos (by simp), EventRun.run_cons]
        apply induction
        rw [entries_step, entries_step, if_pos rfl, if_pos rfl, admission,
          same]
        rfl
      · rw [List.filter_cons_of_neg (by simpa using own)]
        apply induction
        rw [entries_step, if_neg (fun equal => own equal.symm)]
        exact same

theorem registration_limited (calls : List RateCall)
    (inOrder : calls.Pairwise fun earlier later =>
      earlier.now ≤ later.now) :
    Limited calls where
  span := by
    intro ip start
    have reached : ∀ call ∈ calls, call.now ≤ (calls.map (·.now)).sum :=
      fun call member => List.le_sum_of_mem (List.mem_map_of_mem member)
    exact (after_logged inOrder reached ip).spans start
  refused := by
    intro before call later error split refused
    rw [split, List.pairwise_append, List.pairwise_cons] at inOrder
    obtain ⟨ordered, -, until_⟩ := inOrder
    have logged := after_logged ordered fun other member =>
      until_ other member call List.mem_cons_self
    rw [verdict_eq] at refused
    have full : ((after before).admission call).1 = false := by
      rw [← Bool.not_eq_true]
      intro passes
      rw [if_pos passes] at refused
      cases refused
    have many := (logged call.ip).admission_iff.mp full
    refine Nat.le_trans many (Nat.le_of_eq (congrArg List.length ?_))
    apply List.filter_congr
    intro time member
    have past := (logged call.ip).past time member
    simp [past]
  apart := by
    intro before call later _
    have same : (after before).admission call =
        (after (before.filter (·.ip = call.ip))).admission call := by
      rw [admission, after, entries_run call.ip before rfl]
      rfl
    rw [verdict_eq, verdict_eq, same]

/-- The sixth registration from the address waits for the first to be an hour
old. -/
def sixJoiners : List RateCall :=
  [0, 1, 2, 3, 4, 5, registrationWindow].map
    fun now => ⟨.v4 0x0a000001, now⟩

theorem sixJoiners_limited : Limited sixJoiners :=
  registration_limited sixJoiners (by decide)

end RateRun

end Accord
