import Accord.Library.Tasks

/-! The mesh node: connecting, disconnecting, and the watchdogs that restart it
when its peers are gone.  Starting takes long and is done without the lock. -/

namespace Accord

open EventRun

/-- The node runs when it has an address.  Its core and its interface come and
go with that. -/
structure MeshState where
  address : Option String := none
  currentPeers : List String := []
  starting : Bool := false
  watchdogGen : ℕ := 0
  deriving DecidableEq

inductive MeshCommand where
  | connect
  | disconnect

/-- Who is restarting the node: a connect command, or the watchdog of a
generation. -/
inductive MeshStarter where
  | connect
  | watchdog (generation : ℕ)

/-- What is still to do of a command, or of an iteration of a watchdog. -/
inductive MeshTask where
  | resolving
  | stopping (starter : MeshStarter) (peers : List String)
  | entering (starter : MeshStarter) (peers : List String)
  | startingUp (starter : MeshStarter) (peers : List String)
  | spawning
  | watching (generation : ℕ)
  | probing (generation : ℕ) (peers : List String)
  | migrating (generation : ℕ)
  | retiring
  | closing
  | done

structure MeshInput where
  resolved : Except String (List String) := .ok []
  reachable : Bool := false
  started : Except String String := .ok ""

namespace MeshTask

def enter : MeshCommand → MeshTask
  | .connect => resolving
  | .disconnect => retiring

/-- How a start goes on for its starter: a watchdog goes back to its loop in
any case. -/
def started : MeshStarter → Except String String → MeshTask
  | .connect, .ok _ => spawning
  | .connect, .error _ => done
  | .watchdog generation, _ => watching generation

def stop (mesh : MeshState) : MeshState :=
  { mesh with address := none, currentPeers := [] }

/-- The beginning of `start`: it bails out when the node is running or being
started. -/
def begin (mesh : MeshState) (starter : MeshStarter)
    (peers : List String) : MeshState × MeshTask :=
  match mesh.address with
  | some address => (mesh, started starter (.ok address))
  | none =>
      if mesh.starting then
        (mesh, started starter (.error "the mesh is already starting"))
      else ({ mesh with starting := true }, startingUp starter peers)

def finish (mesh : MeshState) (starter : MeshStarter) (peers : List String)
    (input : MeshInput) : MeshState × MeshTask :=
  match input.started with
  | .ok address =>
      ({ mesh with
          starting := false
          address := some address
          currentPeers := peers }, started starter (.ok address))
  | .error cause =>
      ({ mesh with starting := false }, started starter (.error cause))

/-- A watchdog ends when it is not the newest, or has nothing to watch. -/
def watch (mesh : MeshState) (generation : ℕ) : MeshTask :=
  if mesh.watchdogGen ≠ generation ∨ mesh.address = none then done
  else if mesh.currentPeers = [] then done
  else probing generation mesh.currentPeers

def advance (mesh : MeshState) (task : MeshTask) (input : MeshInput) :
    MeshState × MeshTask :=
  match task with
  | resolving =>
      match input.resolved with
      | .ok peers => (mesh, stopping .connect peers)
      | .error _ => (mesh, done)
  | stopping starter peers => (stop mesh, entering starter peers)
  | entering starter peers => begin mesh starter peers
  | startingUp starter peers => finish mesh starter peers input
  | spawning =>
      ({ mesh with watchdogGen := mesh.watchdogGen + 1 },
        watching (mesh.watchdogGen + 1))
  | watching generation => (mesh, watch mesh generation)
  | probing generation _ =>
      if input.reachable then (mesh, watching generation)
      else (mesh, migrating generation)
  | migrating generation =>
      match input.resolved with
      | .ok peers => (mesh, stopping (.watchdog generation) peers)
      | .error _ => (mesh, watching generation)
  | retiring =>
      ({ mesh with watchdogGen := mesh.watchdogGen + 1 }, closing)
  | closing => (stop mesh, done)
  | done => (mesh, done)

/-- The task will start the node without a further look at whether it is
wanted. -/
def Restarts : MeshTask → Prop
  | resolving | stopping .. | entering .. | startingUp .. | probing ..
  | migrating _ => True
  | _ => False

end MeshTask

abbrev MeshPool := Tasks.Pool MeshState MeshTask

abbrev MeshEvent := Tasks.Event MeshCommand MeshInput

def meshMachine :
    Tasks.Machine MeshState MeshCommand MeshTask MeshInput where
  enter := MeshTask.enter
  advance := MeshTask.advance

namespace MeshPool

def StartsNoConnect (_ : MeshPool) : MeshEvent → Prop
  | .start .connect => False
  | _ => True

/-- However things go on, the node does not run unless a further connect is
started. -/
def StaysDown (pool : MeshPool) : Prop :=
  Lasting meshMachine.step StartsNoConnect
    (fun pool => pool.shared.address = none) pool

variable {pool : MeshPool}

abbrev Quiet (pool : MeshPool) : Prop :=
  pool.Suits (fun mesh => mesh.address = none) fun _ task => ¬task.Restarts

theorem Quiet.step (quiet : pool.Quiet) {event : MeshEvent}
    (connectless : StartsNoConnect pool event) :
    Quiet (meshMachine.step pool event) := by
  refine Tasks.Pool.Suits.step quiet ?_ ?_
  · intro command started
    subst started
    cases command with
    | connect => exact connectless.elim
    | disconnect => exact id
  · intro index task input _ _ idle
    refine ⟨?_, ?_, fun _ other => other⟩
    · cases task with
      | spawning | watching | retiring | done => exact quiet.shared
      | closing => rfl
      | _ => exact absurd trivial idle
    · cases task with
      | watching generation =>
          change ¬(MeshTask.watch pool.shared generation).Restarts
          unfold MeshTask.watch
          rw [if_pos (.inr quiet.shared)]
          exact id
      | spawning | retiring | closing | done => exact id
      | _ => exact absurd trivial idle

private theorem Quiet.staysDown (quiet : pool.Quiet) : StaysDown pool := by
  have down : ∀ pool : MeshPool, pool.Quiet → pool.shared.address = none :=
    fun _ holds => holds.shared
  refine lasting_of_step down ?_ quiet
  exact fun _ _ holds connectless => Quiet.step holds connectless

theorem StaysDown.turned (stays : StaysDown pool) {index : ℕ}
    {task : MeshTask} (found : pool.tasks[index]? = some task)
    (input : MeshInput) :
    StaysDown (meshMachine.turned pool index task input) := by
  rw [← Tasks.Machine.step_turn found]
  exact Lasting.later stays trivial

theorem turned_found {index : ℕ} {task : MeshTask}
    (found : pool.tasks[index]? = some task) (input : MeshInput) :
    (meshMachine.turned pool index task input).tasks[index]? =
      some (MeshTask.advance pool.shared task input).2 :=
  Tasks.Machine.turned_found found input

/-! Each of the tasks that restart the node does so, if it gets the chance. -/

private theorem startingUp_restarts {index : ℕ} {starter : MeshStarter}
    {peers : List String}
    (found : pool.tasks[index]? = some (.startingUp starter peers)) :
    ¬StaysDown pool := by
  intro stays
  cases (stays.turned found {}).now

private theorem entering_restarts {index : ℕ} {starter : MeshStarter}
    {peers : List String}
    (found : pool.tasks[index]? = some (.entering starter peers))
    (idle : pool.shared.starting = false) : ¬StaysDown pool := by
  intro stays
  have placed := turned_found found {}
  change _ = some (MeshTask.begin pool.shared starter peers).2 at placed
  unfold MeshTask.begin at placed
  rw [stays.now, idle] at placed
  exact startingUp_restarts placed (stays.turned found {})

private theorem stopping_restarts {index : ℕ} {starter : MeshStarter}
    {peers : List String}
    (found : pool.tasks[index]? = some (.stopping starter peers))
    (idle : pool.shared.starting = false) : ¬StaysDown pool := by
  intro stays
  have placed := turned_found found {}
  exact entering_restarts placed idle (stays.turned found {})

private theorem migrating_restarts {index : ℕ} {generation : ℕ}
    (found : pool.tasks[index]? = some (.migrating generation))
    (idle : pool.shared.starting = false) : ¬StaysDown pool := by
  intro stays
  have placed := turned_found found {}
  exact stopping_restarts placed idle (stays.turned found {})

private theorem restarts {task : MeshTask} (member : task ∈ pool.tasks)
    (restarting : task.Restarts)
    (flagged : pool.shared.starting = true → ∃ starter peers,
      .startingUp starter peers ∈ pool.tasks) : ¬StaysDown pool := by
  intro stays
  cases idle : pool.shared.starting with
  | true =>
      obtain ⟨starter, peers, other⟩ := flagged idle
      obtain ⟨index, found⟩ := List.mem_iff_getElem?.mp other
      exact startingUp_restarts found stays
  | false =>
      obtain ⟨index, found⟩ := List.mem_iff_getElem?.mp member
      have placed := turned_found found {}
      cases task with
      | startingUp => exact startingUp_restarts found stays
      | entering => exact entering_restarts found idle stays
      | stopping => exact stopping_restarts found idle stays
      | migrating => exact migrating_restarts found idle stays
      | resolving =>
          exact stopping_restarts placed idle (stays.turned found {})
      | probing =>
          exact migrating_restarts placed idle (stays.turned found {})
      | _ => exact restarting.elim

/-- The flag is up only while some start is in its slow part. -/
def Flagged (mesh : MeshState) (tasks : List MeshTask) : Prop :=
  mesh.starting = true → ∃ starter peers, .startingUp starter peers ∈ tasks

theorem Flagged.of_subset {mesh : MeshState} {tasks others : List MeshTask}
    (flagged : Flagged mesh tasks) (kept : tasks ⊆ others) :
    Flagged mesh others := by
  intro starting
  obtain ⟨starter, peers, member⟩ := flagged starting
  exact ⟨starter, peers, kept member⟩

theorem Flagged.replace {mesh after : MeshState} {old new : MeshTask}
    {tasks : List MeshTask} (flagged : Flagged mesh (old :: tasks))
    (same : after.starting = mesh.starting)
    (other : ∀ starter peers, old ≠ .startingUp starter peers) :
    Flagged after (new :: tasks) := by
  intro starting
  obtain ⟨starter, peers, member⟩ := flagged (same.symm.trans starting)
  cases List.mem_cons.mp member with
  | inl own => exact absurd own.symm (other starter peers)
  | inr rest => exact ⟨starter, peers, List.mem_cons_of_mem _ rest⟩

theorem Flagged.advance {mesh : MeshState} {task : MeshTask}
    {tasks : List MeshTask} (flagged : Flagged mesh (task :: tasks))
    (input : MeshInput) :
    Flagged (MeshTask.advance mesh task input).1
      ((MeshTask.advance mesh task input).2 :: tasks) := by
  cases task with
  | startingUp starter peers =>
      have lowered :
          (MeshTask.finish mesh starter peers input).1.starting = false := by
        unfold MeshTask.finish
        split <;> rfl
      exact fun raised => absurd (lowered.symm.trans raised)
        Bool.false_ne_true
  | entering starter peers =>
      change Flagged (MeshTask.begin mesh starter peers).1
        ((MeshTask.begin mesh starter peers).2 :: tasks)
      unfold MeshTask.begin
      split
      · exact flagged.replace rfl nofun
      · split
        · exact flagged.replace rfl nofun
        · exact fun _ => ⟨starter, peers, List.mem_cons_self⟩
  | resolving | migrating =>
      unfold MeshTask.advance
      dsimp only
      split <;> exact flagged.replace rfl nofun
  | probing =>
      unfold MeshTask.advance
      dsimp only
      split <;> exact flagged.replace rfl nofun
  | stopping | spawning | watching | retiring | closing | done =>
      exact flagged.replace rfl nofun

private theorem flagged_run (events : List MeshEvent) :
    Flagged (run meshMachine.step ⟨{}, []⟩ events).shared
      (run meshMachine.step ⟨{}, []⟩ events).tasks := by
  have always : Always meshMachine.step
      (fun pool => Flagged pool.shared pool.tasks) ⟨{}, []⟩ events := by
    refine Tasks.Machine.always_of_advance Flagged ?_ ?_ ?_ ?_
      (each_true _ events)
    · exact fun flagged same =>
        flagged.of_subset fun task member => (same task).mpr member
    · exact fun _ flagged =>
        flagged.of_subset fun task => List.mem_append_left _
    · exact fun _ _ _ input _ _ flagged => flagged.advance input
    · exact fun never => absurd never Bool.false_ne_true
  exact always.last

private theorem closed_iff (flagged : Flagged pool.shared pool.tasks)
    {index : ℕ}
    (closing : pool.tasks[index]? = some .closing) (input : MeshInput) :
    StaysDown (meshMachine.step pool (.turn index input)) ↔
      ∀ task ∈ pool.tasks, ¬task.Restarts := by
  rw [Tasks.Machine.step_turn closing]
  have turned : ∀ task,
      task ∈ (meshMachine.turned pool index .closing input).tasks ↔
        task = .done ∨ task ∈ pool.tasks.eraseIdx index :=
    Slots.mem_set_of_found closing _
  have kept : ∀ task ∈ pool.tasks, task ≠ .closing →
      task ∈ (meshMachine.turned pool index .closing input).tasks := by
    intro task member other
    have split := (Slots.mem_iff_of_found closing task).mp member
    exact (turned task).mpr (.inr (split.resolve_left other))
  constructor
  · intro stays task member restarting
    refine restarts (kept task member ?_) restarting ?_ stays
    · rintro rfl
      exact restarting
    · intro starting
      obtain ⟨starter, peers, other⟩ := flagged starting
      exact ⟨starter, peers, kept _ other nofun⟩
  · intro idle
    refine Quiet.staysDown ⟨rfl, fun task member => ?_⟩
    cases (turned task).mp member with
    | inl own => rw [own]; exact id
    | inr rest => exact idle task (List.mem_of_mem_eraseIdx rest)

/-- After a disconnect the node stays down exactly if no connect, and no
watchdog that has passed its check, was in flight. -/
theorem staysDown_iff (events : List MeshEvent) {index : ℕ}
    (input : MeshInput)
    (closing : (run meshMachine.step ⟨{}, []⟩ events).tasks[index]? =
      some .closing) :
    StaysDown (run meshMachine.step ⟨{}, []⟩
        (events ++ [.turn index input])) ↔
      ∀ task ∈ (run meshMachine.step ⟨{}, []⟩ events).tasks,
        ¬task.Restarts := by
  rw [run_append]
  exact closed_iff (flagged_run events) closing input

/-- The watchdog of a node that was connected is asleep. -/
theorem disconnected_stays_down :
    StaysDown (run meshMachine.step ⟨{}, []⟩
      ([.start .connect, .turn 0 {}, .turn 0 {}, .turn 0 {}, .turn 0 {},
        .turn 0 {}, .start .disconnect, .turn 1 {}] ++ [.turn 1 {}])) := by
  refine (staysDown_iff _ {} rfl).mpr ?_
  intro task member
  have listed : task ∈ [MeshTask.watching 1, .closing] := member
  cases List.mem_cons.mp listed with
  | inl own => rw [own]; exact id
  | inr rest => rw [List.mem_singleton.mp rest]; exact id

/-- A connect has resolved its peers when the node is disconnected. -/
theorem connect_outlives_disconnect :
    (run meshMachine.step ⟨{}, []⟩ [.start .connect, .turn 0 {},
        .start .disconnect, .turn 1 {}]).tasks[1]? = some .closing ∧
      ¬StaysDown (run meshMachine.step ⟨{}, []⟩ [.start .connect, .turn 0 {},
        .start .disconnect, .turn 1 {}, .turn 1 {}]) := by
  refine ⟨rfl, fun stays => ?_⟩
  have down := (stays [.turn 0 {}, .turn 0 {}, .turn 0 {}]
    ⟨trivial, trivial, trivial, trivial⟩).last
  cases down

end MeshPool

end Accord
