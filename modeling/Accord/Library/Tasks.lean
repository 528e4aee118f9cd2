import Accord.Library.Effect
import Accord.Library.EventRun
import Accord.Library.Slots

/-! Calls in flight on a shared state.  A call is started, and from then on
takes one turn at a time; between two of its turns the others take theirs, in
any order. -/

namespace Tasks

/-- How a call starts, and what one turn of a task does. -/
structure Machine (Shared Call Task Input : Type) where
  enter : Call → Task
  advance : Shared → Task → Input → Shared × Task

structure Pool (Shared Task : Type) where
  shared : Shared
  tasks : List Task := []

def Pool.settle {Shared Task : Type} (pool : Pool Shared Task) (index : ℕ)
    (outcome : Shared × Task) : Pool Shared Task where
  shared := outcome.1
  tasks := pool.tasks.set index outcome.2

@[simp] theorem Pool.settle_shared {Shared Task : Type}
    (pool : Pool Shared Task) (index : ℕ) (outcome : Shared × Task) :
    (pool.settle index outcome).shared = outcome.1 := rfl

@[simp] theorem Pool.settle_tasks {Shared Task : Type}
    (pool : Pool Shared Task) (index : ℕ) (outcome : Shared × Task) :
    (pool.settle index outcome).tasks =
      pool.tasks.set index outcome.2 := rfl

theorem Pool.settle_self {Shared Task : Type} {pool : Pool Shared Task}
    {index : ℕ} {task : Task} (found : pool.tasks[index]? = some task) :
    pool.settle index (pool.shared, task) = pool := by
  simp only [settle, Slots.set_self_of_found found]

inductive Event (Call Input : Type) where
  | start (call : Call)
  | turn (index : ℕ) (input : Input)

variable {Shared Call Task Input : Type}

/-- A turn that runs a computation and goes on with its value. -/
def turn {Error Value : Type} (effect : Effect Shared Error Value)
    (next : Value → Task) (failed : Error → Task) (shared : Shared) :
    Shared × Task :=
  match effect shared with
  | (.ok value, after) => (after, next value)
  | (.error error, after) => (after, failed error)

theorem turn_mapError {Error Other Value : Type}
    (effect : Effect Shared Error Value) (convert : Error → Other)
    (next : Value → Task) (failed : Other → Task) (shared : Shared) :
    turn (effect.mapError convert) next failed shared =
      turn effect next (fun error => failed (convert error)) shared := by
  simp only [turn, Effect.mapError]
  rcases effect shared with ⟨result, after⟩
  cases result with
  | ok value => rfl
  | error error => rfl

theorem turn_post {Error Value : Type} (holds : Shared × Task → Prop)
    {effect : Effect Shared Error Value} {shared : Shared}
    {post : Except Error Value → Shared → Prop} {next : Value → Task}
    {failed : Error → Task} (posted : effect.Post shared post)
    (succeeds : ∀ value after, post (.ok value) after →
      holds (after, next value))
    (fails : ∀ error after, post (.error error) after →
      holds (after, failed error)) :
    holds (turn effect next failed shared) := by
  simp only [Effect.Post] at posted
  simp only [turn]
  rcases ran : effect shared with ⟨result, after⟩
  rw [ran] at posted
  cases result with
  | ok value => exact succeeds value after posted
  | error error => exact fails error after posted

namespace Machine

variable (machine : Machine Shared Call Task Input)

def started (pool : Pool Shared Task) (call : Call) : Pool Shared Task :=
  { pool with tasks := pool.tasks ++ [machine.enter call] }

def turned (pool : Pool Shared Task) (index : ℕ) (task : Task)
    (input : Input) : Pool Shared Task :=
  pool.settle index (machine.advance pool.shared task input)

def step (pool : Pool Shared Task) : Event Call Input → Pool Shared Task
  | .start call => machine.started pool call
  | .turn index input =>
      match pool.tasks[index]? with
      | some task => machine.turned pool index task input
      | none => pool

variable {machine} {pool : Pool Shared Task}

theorem step_turn {index : ℕ} {task : Task}
    (found : pool.tasks[index]? = some task) (input : Input) :
    machine.step pool (.turn index input) =
      machine.turned pool index task input := by
  simp only [step, found]

theorem turned_found {index : ℕ} {task : Task}
    (found : pool.tasks[index]? = some task) (input : Input) :
    (machine.turned pool index task input).tasks[index]? =
      some (machine.advance pool.shared task input).2 :=
  (Slots.getElem?_set_of_found found _ index).trans (if_pos rfl)

theorem step_absent {index : ℕ} (absent : pool.tasks[index]? = none)
    (input : Input) : machine.step pool (.turn index input) = pool := by
  simp only [step, absent]

variable {invariant : Pool Shared Task → Prop}
  {condition : Pool Shared Task → Event Call Input → Prop}

theorem always_of_turns
    (starts : ∀ pool call, invariant pool → condition pool (.start call) →
      invariant (machine.started pool call))
    (turns : ∀ pool index task input, pool.tasks[index]? = some task →
      invariant pool → condition pool (.turn index input) →
      invariant (machine.turned pool index task input))
    {first : Pool Shared Task} (initially : invariant first)
    {events : List (Event Call Input)}
    (admissible : EventRun.Each machine.step condition first events) :
    EventRun.Always machine.step invariant first events := by
  apply EventRun.always_of_step _ initially admissible
  intro pool event holds allowed
  cases event with
  | start call => exact starts pool call holds allowed
  | turn index input =>
      cases found : pool.tasks[index]? with
      | some task =>
          rw [step_turn found]
          exact turns pool index task input found holds allowed
      | none =>
          rw [step_absent found]
          exact holds

/-- The same for an invariant that does not look at the order of the tasks: it
is enough that a turn keeps it with the task in front of the others. -/
theorem always_of_advance (invariant : Shared → List Task → Prop)
    (unordered : ∀ {shared tasks others}, invariant shared tasks →
      (∀ task, task ∈ others ↔ task ∈ tasks) → invariant shared others)
    (starts : ∀ {shared tasks} call, invariant shared tasks →
      invariant shared (tasks ++ [machine.enter call]))
    (turns : ∀ pool index task input, pool.tasks[index]? = some task →
      condition pool (.turn index input) →
      invariant pool.shared (task :: pool.tasks.eraseIdx index) →
      invariant (machine.advance pool.shared task input).1
        ((machine.advance pool.shared task input).2 ::
          pool.tasks.eraseIdx index))
    {first : Pool Shared Task}
    (initially : invariant first.shared first.tasks)
    {events : List (Event Call Input)}
    (admissible : EventRun.Each machine.step condition first events) :
    EventRun.Always machine.step
      (fun pool => invariant pool.shared pool.tasks) first events := by
  refine always_of_turns ?_ ?_ initially admissible
  · intro pool call holds _
    exact starts call holds
  · intro pool index task input found holds allowed
    have parted : invariant pool.shared
        (task :: pool.tasks.eraseIdx index) := by
      refine unordered holds ?_
      intro other
      rw [List.mem_cons, ← Slots.mem_iff_of_found found]
    refine unordered (turns pool index task input found allowed parted) ?_
    intro other
    rw [List.mem_cons]
    exact Slots.mem_set_of_found found _ other

end Machine

/-- A shared part of which `holds` holds, and tasks that are each `good` with
it. -/
structure Pool.Suits (holds : Shared → Prop) (good : Shared → Task → Prop)
    (pool : Pool Shared Task) : Prop where
  shared : holds pool.shared
  tasks : ∀ task ∈ pool.tasks, good pool.shared task

/-- What a turn leaves behind: it keeps the shared part, goes on with a good
task and spoils no other. -/
structure Machine.Serves (machine : Machine Shared Call Task Input)
    (holds : Shared → Prop) (good : Shared → Task → Prop) (shared : Shared)
    (task : Task) (input : Input) : Prop where
  state : holds (machine.advance shared task input).1
  own : good (machine.advance shared task input).1
    (machine.advance shared task input).2
  others : ∀ other, good shared other →
    good (machine.advance shared task input).1 other

theorem Pool.Suits.step {machine : Machine Shared Call Task Input}
    {holds : Shared → Prop} {good : Shared → Task → Prop}
    {pool : Pool Shared Task} (suits : pool.Suits holds good)
    {event : Event Call Input}
    (enters : ∀ call, event = .start call →
      good pool.shared (machine.enter call))
    (turns : ∀ index task input, event = .turn index input →
      pool.tasks[index]? = some task → good pool.shared task →
      machine.Serves holds good pool.shared task input) :
    (machine.step pool event).Suits holds good := by
  cases event with
  | start call =>
      refine ⟨suits.shared, ?_⟩
      intro task member
      cases List.mem_append.mp member with
      | inl old => exact suits.tasks task old
      | inr new =>
          rw [List.mem_singleton.mp new]
          exact enters call rfl
  | turn index input =>
      cases found : pool.tasks[index]? with
      | none =>
          rw [Machine.step_absent found]
          exact suits
      | some task =>
          have served := turns index task input rfl found
            (suits.tasks task (List.mem_of_getElem? found))
          rw [Machine.step_turn found]
          refine ⟨served.state, ?_⟩
          refine (Slots.forall_set_of_found found _ (good _)).mpr
            ⟨served.own, ?_⟩
          intro other rest
          exact served.others other
            (suits.tasks other (List.mem_of_mem_eraseIdx rest))

/-! A lock in the shared part.  It is taken exactly while one of the tasks
holds it. -/

section Locks

variable (locked : Shared → Bool) (holds : Task → Bool)

def Pool.Exclusive (pool : Pool Shared Task) : Prop :=
  pool.tasks.countP holds = (locked pool.shared).toNat

/-- A turn takes the lock and gives it back along with its task. -/
def Machine.Balanced (machine : Machine Shared Call Task Input)
    (shared : Shared) (task : Task) (input : Input) : Prop :=
  (locked (machine.advance shared task input).1).toNat + (holds task).toNat =
    (locked shared).toNat +
      (holds (machine.advance shared task input).2).toNat

variable {locked holds} {pool : Pool Shared Task}

theorem Pool.Exclusive.locked_of_holds
    (exclusive : pool.Exclusive locked holds) {task : Task}
    (member : task ∈ pool.tasks) (held : holds task = true) :
    locked pool.shared = true := by
  have positive : 0 < pool.tasks.countP holds :=
    List.countP_pos_iff.mpr ⟨task, member, held⟩
  rw [exclusive] at positive
  cases taken : locked pool.shared with
  | true => rfl
  | false =>
      rw [taken] at positive
      cases positive

theorem Pool.Exclusive.others_free (exclusive : pool.Exclusive locked holds)
    {index : ℕ} {task : Task} (found : pool.tasks[index]? = some task)
    (held : holds task = true) {other : Task}
    (member : other ∈ pool.tasks.eraseIdx index) : holds other = false := by
  have parted := Slots.countP_of_found found holds
  have taken := exclusive.locked_of_holds (List.mem_of_getElem? found) held
  rw [exclusive, taken, held] at parted
  have none : (pool.tasks.eraseIdx index).countP holds = 0 := by
    simpa using parted
  exact Bool.eq_false_iff.mpr (List.countP_eq_zero.mp none other member)

theorem Pool.Exclusive.step {machine : Machine Shared Call Task Input}
    (exclusive : pool.Exclusive locked holds)
    (enters : ∀ call, holds (machine.enter call) = false)
    (balanced : ∀ shared task input,
      (holds task = true → locked shared = true) →
        machine.Balanced locked holds shared task input)
    (event : Event Call Input) :
    (machine.step pool event).Exclusive locked holds := by
  cases event with
  | start call =>
      have added : (pool.tasks ++ [machine.enter call]).countP holds =
          pool.tasks.countP holds := by
        rw [List.countP_append, List.countP_singleton, enters call]
        rfl
      exact added.trans exclusive
  | turn index input =>
      cases found : pool.tasks[index]? with
      | none =>
          rw [Machine.step_absent found]
          exact exclusive
      | some task =>
          have moved := Slots.countP_set_of_found found
            (machine.advance pool.shared task input).2 holds
          have balance := balanced pool.shared task input fun held =>
            exclusive.locked_of_holds (List.mem_of_getElem? found) held
          rw [exclusive] at moved
          rw [Machine.step_turn found, Exclusive]
          simp only [Machine.turned, settle_shared, settle_tasks]
          unfold Machine.Balanced at balance
          omega

end Locks

namespace Machine

/-! A task on its own.  Undisturbed, the turns of a call add up to the
computation they were cut from. -/

section Alone

variable (machine : Machine Shared Call Task Input) (input : Input)

def alone (state : Shared × Task) (input : Input) : Shared × Task :=
  machine.advance state.1 state.2 input

theorem run_alone (state : Shared × Task) (inputs : List Input) :
    EventRun.run machine.step ⟨state.1, [state.2]⟩ (inputs.map (.turn 0)) =
      ⟨(EventRun.run machine.alone state inputs).1,
        [(EventRun.run machine.alone state inputs).2]⟩ := by
  induction inputs generalizing state with
  | nil => rfl
  | cons input rest induction => exact induction (machine.alone state input)

/-- The turns of a task end in `after`, where the task has come to rest. -/
inductive Ends : Shared → Task → Shared → Prop
  | halted {shared : Shared} {task : Task}
      (idle : ∀ shared, machine.advance shared task input = (shared, task)) :
      Ends shared task shared
  | turned {shared after : Shared} {task : Task}
      (continued : Ends (machine.advance shared task input).1
        (machine.advance shared task input).2 after) :
      Ends shared task after

variable {machine input}

theorem ends_turn {Error Value Next : Type}
    {effect : Effect Shared Error Value} {next : Value → Task}
    {failed : Error → Task} {shared : Shared} {task : Task}
    {rest : Value → Effect Shared Error Next}
    (taken : machine.advance shared task input =
      turn effect next failed shared)
    (continued : ∀ value after, effect shared = (.ok value, after) →
      Ends machine input after (next value) (rest value after).2)
    (stopped : ∀ error shared, machine.advance shared (failed error) input =
      (shared, failed error)) :
    Ends machine input shared task ((effect >>= rest) shared).2 := by
  apply Ends.turned
  rw [taken]
  simp only [turn]
  rcases ran : effect shared with ⟨result, after⟩
  cases result with
  | ok value =>
      rw [Effect.bind_of_ok ran]
      exact continued value after ran
  | error error =>
      rw [Effect.bind_of_error ran]
      exact .halted (stopped error)

theorem ends_last {Error Value : Type} {effect : Effect Shared Error Value}
    {next : Value → Task} {failed : Error → Task} {shared : Shared}
    {task : Task}
    (taken : machine.advance shared task input =
      turn effect next failed shared)
    (finished : ∀ value shared, machine.advance shared (next value) input =
      (shared, next value))
    (stopped : ∀ error shared, machine.advance shared (failed error) input =
      (shared, failed error)) :
    Ends machine input shared task (effect shared).2 := by
  apply Ends.turned
  rw [taken]
  simp only [turn]
  rcases effect shared with ⟨result, after⟩
  cases result with
  | ok value => exact .halted (finished value)
  | error error => exact .halted (stopped error)

theorem Ends.run {shared after : Shared} {task : Task}
    (ends : Ends machine input shared task after) :
    ∃ count, (EventRun.run machine.step ⟨shared, [task]⟩
      (List.replicate count (.turn 0 input))).shared = after := by
  induction ends with
  | halted => exact ⟨0, rfl⟩
  | turned continued induction =>
      obtain ⟨count, ran⟩ := induction
      refine ⟨count + 1, ?_⟩
      rw [List.replicate_succ, EventRun.run_cons]
      exact ran

end Alone

end Machine

end Tasks
