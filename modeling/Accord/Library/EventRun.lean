import Mathlib.Data.List.Basic

/-! Runs of a deterministic machine over a list of events, and the two ways a
run is judged: in every state it passes, and at every event it takes. -/

namespace EventRun

variable {State Event : Type} (step : State → Event → State)

def run (start : State) (events : List Event) : State :=
  events.foldl step start

/-- `invariant` holds in the first state and after every event. -/
def Always (invariant : State → Prop) : State → List Event → Prop
  | state, [] => invariant state
  | state, event :: rest =>
      invariant state ∧ Always invariant (step state event) rest

/-- Every event meets `condition` in the state in which it is taken. -/
def Each (condition : State → Event → Prop) : State → List Event → Prop
  | _, [] => True
  | state, event :: rest =>
      condition state event ∧ Each condition (step state event) rest

instance decidableAlways (invariant : State → Prop)
    [∀ state, Decidable (invariant state)] (start : State)
    (events : List Event) : Decidable (Always step invariant start events) :=
  match events with
  | [] => inferInstanceAs (Decidable (invariant start))
  | event :: rest =>
      let _ := decidableAlways invariant (step start event) rest
      inferInstanceAs (Decidable
        (invariant start ∧ Always step invariant (step start event) rest))

instance decidableEach (condition : State → Event → Prop)
    [∀ state event, Decidable (condition state event)] (start : State)
    (events : List Event) : Decidable (Each step condition start events) :=
  match events with
  | [] => inferInstanceAs (Decidable True)
  | event :: rest =>
      let _ := decidableEach condition (step start event) rest
      inferInstanceAs (Decidable
        (condition start event ∧ Each step condition (step start event) rest))

variable {step}

@[simp] theorem run_nil (start : State) : run step start [] = start := rfl

@[simp] theorem run_cons (start : State) (event : Event)
    (rest : List Event) :
    run step start (event :: rest) = run step (step start event) rest := rfl

theorem run_append (start : State) (first second : List Event) :
    run step start (first ++ second) =
      run step (run step start first) second := by
  simp only [run, List.foldl_append]

variable {invariant : State → Prop} {condition : State → Event → Prop}

theorem Always.head {start : State} {events : List Event}
    (always : Always step invariant start events) : invariant start := by
  cases events with
  | nil => exact always
  | cons event rest => exact always.1

theorem Always.last {start : State} {events : List Event}
    (always : Always step invariant start events) :
    invariant (run step start events) := by
  induction events generalizing start with
  | nil => exact always
  | cons event rest induction => exact induction always.2

theorem Always.imp {weaker : State → Prop}
    (weaken : ∀ state, invariant state → weaker state)
    {start : State} {events : List Event}
    (always : Always step invariant start events) :
    Always step weaker start events := by
  induction events generalizing start with
  | nil => exact weaken start always
  | cons event rest induction =>
      exact ⟨weaken start always.1, induction always.2⟩

theorem Always.each
    (gives : ∀ state event, invariant state → condition state event)
    {start : State} {events : List Event}
    (always : Always step invariant start events) :
    Each step condition start events := by
  induction events generalizing start with
  | nil => trivial
  | cons event rest induction =>
      exact ⟨gives start event always.1, induction always.2⟩

theorem each_true (start : State) (events : List Event) :
    Each step (fun _ _ => True) start events := by
  induction events generalizing start with
  | nil => trivial
  | cons event rest induction => exact ⟨trivial, induction _⟩

theorem always_of_step
    (kept : ∀ state event, invariant state → condition state event →
      invariant (step state event))
    {start : State} (initially : invariant start) {events : List Event}
    (admissible : Each step condition start events) :
    Always step invariant start events := by
  induction events generalizing start with
  | nil => exact initially
  | cons event rest induction =>
      exact ⟨initially,
        induction (kept start event initially admissible.1) admissible.2⟩

/-- A property that an invariant implies, and that the first event against the
condition breaks, holds throughout exactly the runs whose events all meet the
condition, among the runs of admissible events. -/
theorem always_iff_each_among {property : State → Prop}
    {admissible : State → Event → Prop}
    (implied : ∀ state, invariant state → property state)
    (kept : ∀ state event, invariant state → admissible state event →
      condition state event → invariant (step state event))
    (broken : ∀ state event, invariant state → admissible state event →
      ¬ condition state event → ¬ property (step state event))
    {start : State} (initially : invariant start) {events : List Event}
    (among : Each step admissible start events) :
    Always step property start events ↔ Each step condition start events := by
  induction events generalizing start with
  | nil => exact ⟨fun _ => trivial, fun _ => implied start initially⟩
  | cons event rest induction =>
      constructor
      · intro always
        have meets : condition start event := by
          by_contra fails
          exact broken start event initially among.1 fails always.2.head
        exact ⟨meets, (induction (kept start event initially among.1 meets)
          among.2).mp always.2⟩
      · intro each
        exact ⟨implied start initially,
          (induction (kept start event initially among.1 each.1)
            among.2).mpr each.2⟩

theorem always_iff_each_of {property : State → Prop}
    (implied : ∀ state, invariant state → property state)
    (kept : ∀ state event, invariant state → condition state event →
      invariant (step state event))
    (broken : ∀ state event, invariant state → ¬ condition state event →
      ¬ property (step state event))
    {start : State} (initially : invariant start) (events : List Event) :
    Always step property start events ↔ Each step condition start events := by
  exact always_iff_each_among implied
    (fun state event holds _ => kept state event holds)
    (fun state event holds _ => broken state event holds) initially
    (each_true start events)

/-- When an event keeps the invariant exactly if it meets the condition, a run
keeps it throughout exactly if all of its events do. -/
theorem always_iff_each
    (exactly : ∀ state event, invariant state →
      (invariant (step state event) ↔ condition state event))
    {start : State} (initially : invariant start) (events : List Event) :
    Always step invariant start events ↔
      Each step condition start events := by
  apply always_iff_each_of (fun _ holds => holds) ?_ ?_ initially
  · intro state event holds meets
    exact (exactly state event holds).mpr meets
  · intro state event holds fails after
    exact fails ((exactly state event holds).mp after)

theorem always_and_each_iff {right : State → Event → Prop}
    (exactly : ∀ state event, invariant state →
      (invariant (step state event) ∧ right state event ↔
        condition state event))
    {start : State} (initially : invariant start) (events : List Event) :
    Always step invariant start events ∧ Each step right start events ↔
      Each step condition start events := by
  induction events generalizing start with
  | nil => exact ⟨fun _ => trivial, fun _ => ⟨initially, trivial⟩⟩
  | cons event rest induction =>
      constructor
      · rintro ⟨⟨_, always⟩, now, later⟩
        exact ⟨(exactly start event initially).mp ⟨always.head, now⟩,
          (induction always.head).mp ⟨always, later⟩⟩
      · rintro ⟨now, later⟩
        obtain ⟨holds, fine⟩ := (exactly start event initially).mpr now
        obtain ⟨always, each⟩ := (induction holds).mpr later
        exact ⟨⟨initially, always⟩, fine, each⟩

theorem each_of_run_among {admissible : State → Event → Prop}
    (lost : ∀ state event, admissible state event →
      invariant (step state event) →
      invariant state ∧ condition state event)
    {start : State} {events : List Event}
    (among : Each step admissible start events)
    (last : invariant (run step start events)) :
    invariant start ∧ Each step condition start events := by
  induction events generalizing start with
  | nil => exact ⟨last, trivial⟩
  | cons event rest induction =>
      obtain ⟨after, later⟩ := induction among.2 last
      obtain ⟨before, now⟩ := lost start event among.1 after
      exact ⟨before, now, later⟩

theorem each_iff_forall {start : State} {events : List Event} :
    Each step condition start events ↔
      ∀ before event after, events = before ++ event :: after →
        condition (run step start before) event := by
  induction events generalizing start with
  | nil => simp [Each]
  | cons first rest induction =>
      constructor
      · intro each before event after split
        cases before with
        | nil =>
            cases split
            exact each.1
        | cons head tail =>
            cases split
            exact induction.mp each.2 tail event after rfl
      · intro holds
        constructor
        · exact holds [] first rest rfl
        · apply induction.mpr
          intro before event after split
          exact holds (first :: before) event after (by rw [split]; rfl)

theorem each_append {start : State} {first second : List Event} :
    Each step condition start (first ++ second) ↔
      Each step condition start first ∧
        Each step condition (run step start first) second := by
  induction first generalizing start with
  | nil => simp [Each]
  | cons event rest induction =>
      simp only [List.cons_append, Each, run_cons, induction, and_assoc]

theorem Each.imp {weaker : State → Event → Prop}
    (weaken : ∀ state event, condition state event → weaker state event)
    {start : State} {events : List Event}
    (each : Each step condition start events) :
    Each step weaker start events := by
  induction events generalizing start with
  | nil => trivial
  | cons event rest induction =>
      exact ⟨weaken start event each.1, induction each.2⟩

theorem Each.and {other : State → Event → Prop} {start : State}
    {events : List Event} (each : Each step condition start events)
    (more : Each step other start events) :
    Each step (fun state event => condition state event ∧ other state event)
      start events := by
  induction events generalizing start with
  | nil => trivial
  | cons event rest induction =>
      exact ⟨⟨each.1, more.1⟩, induction each.2 more.2⟩

theorem Each.under {stronger : State → Event → Prop}
    (gives : ∀ state event, invariant state → condition state event →
      stronger state event)
    {start : State} {events : List Event}
    (always : Always step invariant start events)
    (each : Each step condition start events) :
    Each step stronger start events := by
  induction events generalizing start with
  | nil => trivial
  | cons event rest induction =>
      exact ⟨gives start event always.1 each.1, induction always.2 each.2⟩

theorem Each.congr {other admissible : State → Event → Prop}
    (agree : ∀ state event, admissible state event →
      (condition state event ↔ other state event))
    {start : State} {events : List Event}
    (each : Each step admissible start events) :
    Each step condition start events ↔ Each step other start events := by
  induction events generalizing start with
  | nil => exact Iff.rfl
  | cons event rest induction =>
      exact and_congr (agree start event each.1) (induction each.2)

theorem always_of_kept
    (kept : ∀ state event, invariant state → invariant (step state event))
    {start : State} (initially : invariant start) (events : List Event) :
    Always step invariant start events := by
  induction events generalizing start with
  | nil => exact initially
  | cons event rest induction =>
      exact ⟨initially, induction (kept start event initially)⟩

theorem length_le_of_decreases {measure : State → ℕ}
    (decreases : ∀ state event, condition state event →
      measure (step state event) < measure state)
    {start : State} {events : List Event}
    (each : Each step condition start events) :
    events.length ≤ measure start := by
  induction events generalizing start with
  | nil => exact Nat.zero_le _
  | cons event rest induction =>
      exact Nat.lt_of_le_of_lt (induction each.2)
        (decreases start event each.1)

theorem relates_of_each (relation : State → State → Prop)
    (reflexive : ∀ state, relation state state)
    (transitive : ∀ {first second third}, relation first second →
      relation second third → relation first third)
    (related : ∀ state event, condition state event →
      relation state (step state event))
    {start : State} {events : List Event}
    (each : Each step condition start events) :
    relation start (run step start events) := by
  induction events generalizing start with
  | nil => exact reflexive start
  | cons event rest induction =>
      exact transitive (related start event each.1) (induction each.2)

theorem appended_of_each {Row : Type} (log : State → List Row)
    (wrote : State → Event → Row → Prop)
    (appends : ∀ state event, condition state event →
      ∃ newer, log (step state event) = log state ++ newer ∧
        ∀ row ∈ newer, wrote state event row)
    {start : State} {events : List Event}
    (each : Each step condition start events) :
    ∃ newer, log (run step start events) = log start ++ newer ∧
      ∀ row ∈ newer, ∃ earlier event later,
        events = earlier ++ event :: later ∧
          wrote (run step start earlier) event row := by
  induction events generalizing start with
  | nil => exact ⟨[], (List.append_nil _).symm, nofun⟩
  | cons event rest induction =>
      obtain ⟨newer, grown, written⟩ := appends start event each.1
      obtain ⟨newest, again, later⟩ := induction each.2
      refine ⟨newer ++ newest, ?_, ?_⟩
      · rw [run_cons, again, grown, List.append_assoc]
      · intro row added
        rcases List.mem_append.mp added with first | second
        · exact ⟨[], event, rest, rfl, written row first⟩
        · obtain ⟨earlier, other, after, split, wrote⟩ := later row second
          exact ⟨event :: earlier, other, after, by rw [split]; rfl, wrote⟩

theorem each_not_or_exists (start : State) (events : List Event) :
    Each step (fun state event => ¬ condition state event) start events ∨
      ∃ before event after, events = before ++ event :: after ∧
        condition (run step start before) event := by
  rw [each_iff_forall]
  by_contra neither
  rw [not_or] at neither
  apply neither.1
  intro before event after split meets
  exact neither.2 ⟨before, event, after, split, meets⟩

theorem each_mem (start : State) (events : List Event) :
    Each step (fun _ event => event ∈ events) start events := by
  rw [each_iff_forall]
  intro before event after split
  rw [split]
  exact List.mem_append_right _ List.mem_cons_self

/-- Whatever events of the kind follow, the invariant holds throughout. -/
def Lasting (step : State → Event → State)
    (condition : State → Event → Prop) (invariant : State → Prop)
    (state : State) : Prop :=
  ∀ events, Each step condition state events →
    Always step invariant state events

theorem Lasting.now {state : State}
    (lasting : Lasting step condition invariant state) : invariant state :=
  lasting [] trivial

theorem Lasting.later {state : State}
    (lasting : Lasting step condition invariant state) {event : Event}
    (allowed : condition state event) :
    Lasting step condition invariant (step state event) :=
  fun events each => (lasting (event :: events) ⟨allowed, each⟩).2

theorem lasting_of_step {stronger : State → Prop}
    (implied : ∀ state, stronger state → invariant state)
    (kept : ∀ state event, stronger state → condition state event →
      stronger (step state event))
    {state : State} (initially : stronger state) :
    Lasting step condition invariant state :=
  fun _ each => (always_of_step kept initially each).imp implied

end EventRun
