import Accord.Library.Nested
import Accord.Library.Tasks
import Accord.Types.Text

/-! The taverns that a client hosts: a registry of the running ones behind a
lock, and the list of all of them in a file that the commands read and write
with the lock or without it. -/

namespace Accord

namespace Taverns

structure TavernMeta where
  id : String
  name : String
  port : ℕ
  deriving DecidableEq

structure TavernConnect where
  id : String
  name : String
  endpoint : String
  cert : Option String
  deriving DecidableEq

/-- `metas` is the content of `hosted-taverns.json`, `dirs` are the data
directories.  The code keeps no record of the others: the ids that were ever
listed or drawn, the taverns that were ever listed, and the ids that a deletion
took off the registry and off the list. -/
structure Hosting where
  locked : Bool := false
  running : Mapping String ℕ := ∅
  metas : List TavernMeta := []
  dirs : List String := []
  drawn : List String := []
  created : List TavernMeta := []
  taken : List String := []
  deleted : List String := []

inductive Command where
  | createTavern (name : String)
  | resumeHostedTaverns
  | deleteTavern (id : String)

inductive Outcome where
  | created (connect : TavernConnect)
  | resumed (connects : List TavernConnect)
  | deleted
  | failed (error : String)

inductive Task where
  | locking (name : String)
  | loading (name : String)
  | choosing (name : String) (metas : List TavernMeta)
  | saving (tavern : TavernMeta) (metas : List TavernMeta)
      (connect : TavernConnect)
  | resuming
  | waking (metas : List TavernMeta)
  | spawning (metas : List TavernMeta) (connects : List TavernConnect)
  | stopping (id : String)
  | reading (id : String)
  | rewriting (id : String) (metas : List TavernMeta)
  | removing (id : String)
  | returned (outcome : Outcome)

/-- The setting, the ports that bind, the id that is drawn, and what becomes of
the server that is started. -/
structure Input where
  maxTaverns : ℕ := 16
  portFree : ℕ → Bool := fun _ => true
  id : String := ""
  startError : Option String := none
  cert : String := ""

def firstTavernPort : ℕ := 50052

def lastTavernPort : ℕ := 50307

def firstFreePort (taken : List ℕ) (isFree : ℕ → Bool) : Option ℕ :=
  (List.range' firstTavernPort (lastTavernPort + 1 - firstTavernPort)).find?
    fun port => port ∉ taken && isFree port

theorem firstFreePort_not_mem {taken : List ℕ} {isFree : ℕ → Bool} {port : ℕ}
    (found : firstFreePort taken isFree = some port) : port ∉ taken := by
  have passed := List.find?_some found
  simp only [Bool.and_eq_true, decide_eq_true_eq] at passed
  exact passed.1

/-- The directory is there whether the server starts or not. -/
def spawnTavern (tavern : TavernMeta) (input : Input) :
    Except String TavernConnect :=
  if input.portFree tavern.port then
    match input.startError with
    | some error => .error error
    | none => .ok {
        id := tavern.id
        name := tavern.name
        endpoint := "https://127.0.0.1:" ++ toString tavern.port
        cert := some input.cert }
  else
    .error ("port " ++ toString tavern.port ++ " is already in use")

namespace Hosting

variable (hosting : Hosting)

def release : Hosting := { hosting with locked := false }

def withDir (id : String) : Hosting :=
  { hosting with dirs := hosting.dirs.insert id }

def known (metas : List TavernMeta) : ℕ :=
  (metas.map (·.id) ++ hosting.running.keys).dedup.length

def ports (metas : List TavernMeta) : List ℕ :=
  hosting.running.entries.map (·.2) ++ metas.map (·.port)

end Hosting

namespace Task

def enter : Command → Task
  | .createTavern name =>
      if trim name = "" then returned (.failed "tavern name is required")
      else locking (trim name)
  | .resumeHostedTaverns => resuming
  | .deleteTavern id => stopping id

def fail (hosting : Hosting) (error : String) : Hosting × Task :=
  (hosting.release, returned (.failed error))

def choose (hosting : Hosting) (name : String) (metas : List TavernMeta)
    (input : Input) : Hosting × Task :=
  if input.maxTaverns ≤ hosting.known metas then
    fail hosting ("hosted-tavern limit reached (" ++
      toString input.maxTaverns ++ "). Raise it in Settings → Network " ++
      "(each hosted tavern uses a port from 50052 up).")
  else
    match firstFreePort (hosting.ports metas) input.portFree with
    | none => fail hosting "no free port available for a new tavern"
    | some port =>
        match spawnTavern ⟨input.id, name, port⟩ input with
        | .error error => fail (hosting.withDir input.id) error
        | .ok connect =>
            ({ hosting.withDir input.id with
                running := hosting.running.insert input.id port
                drawn := input.id :: hosting.drawn },
              saving ⟨input.id, name, port⟩ metas connect)

def spawn (hosting : Hosting) (connects : List TavernConnect)
    (input : Input) : List TavernMeta → Hosting × Task
  | [] => (hosting.release, returned (.resumed connects))
  | tavern :: rest =>
      if tavern.id ∈ hosting.running then
        (hosting, spawning rest connects)
      else
        match spawnTavern tavern input with
        | .error _ => (hosting.withDir tavern.id, spawning rest connects)
        | .ok connect =>
            ({ hosting.withDir tavern.id with
                running := hosting.running.insert tavern.id tavern.port },
              spawning rest (connects ++ [connect]))

def stop (hosting : Hosting) (id : String) : Hosting × Task :=
  if id ∈ hosting.running then
    ({ hosting with
        running := hosting.running.erase id
        taken := id :: hosting.taken },
      reading id)
  else
    (hosting, returned
      (.failed "you don't host this tavern (only the host can delete it)"))

def advance (hosting : Hosting) (task : Task) (input : Input) :
    Hosting × Task :=
  match task with
  | locking name =>
      if hosting.locked then (hosting, task)
      else ({ hosting with locked := true }, loading name)
  | loading name => (hosting, choosing name hosting.metas)
  | choosing name metas => choose hosting name metas input
  | saving tavern metas connect =>
      ({ hosting.release with
          metas := metas ++ [tavern]
          created := hosting.created ++ [tavern] },
        returned (.created connect))
  | resuming => (hosting, waking hosting.metas)
  | waking metas =>
      if hosting.locked then (hosting, task)
      else ({ hosting with locked := true }, spawning metas [])
  | spawning metas connects => spawn hosting connects input metas
  | stopping id =>
      if hosting.locked then (hosting, task) else stop hosting id
  | reading id => (hosting, rewriting id hosting.metas)
  | rewriting id metas =>
      ({ hosting with
          metas := metas.filter (·.id != id)
          deleted := id :: hosting.deleted },
        removing id)
  | removing id =>
      ({ hosting with dirs := hosting.dirs.filter (· != id) },
        returned .deleted)
  | returned outcome => (hosting, returned outcome)

/-- Whether a task is between taking the lock and giving it back. -/
def holds : Task → Bool
  | loading _ | choosing _ _ | saving _ _ _ | spawning _ _ => true
  | _ => false

end Task

def machine : Tasks.Machine Hosting Command Task Input where
  enter := Task.enter
  advance := Task.advance

abbrev Pool := Tasks.Pool Hosting Task

abbrev Event := Tasks.Event Command Input

def launch (metas : List TavernMeta) : Pool where
  shared := {
    metas := metas
    drawn := metas.map (·.id)
    created := metas }

theorem holds_enter (command : Command) :
    (Task.enter command).holds = false := by
  cases command with
  | createTavern name =>
      simp only [Task.enter]
      split <;> rfl
  | resumeHostedTaverns => rfl
  | deleteTavern id => rfl

theorem balanced_advance (hosting : Hosting) (task : Task) (input : Input)
    (held : task.holds = true → hosting.locked = true) :
    machine.Balanced Hosting.locked Task.holds hosting task input := by
  unfold Tasks.Machine.Balanced
  cases task with
  | locking name =>
      simp only [machine, Task.advance]
      split
      · rfl
      · rename_i unlocked
        rw [Bool.eq_false_iff.mpr unlocked]
        rfl
  | waking metas =>
      simp only [machine, Task.advance]
      split
      · rfl
      · rename_i unlocked
        rw [Bool.eq_false_iff.mpr unlocked]
        rfl
  | choosing name metas =>
      have locked := held rfl
      simp only [machine, Task.advance, Task.choose]
      split
      · rw [locked]
        rfl
      · split
        · rw [locked]
          rfl
        · split
          · rw [locked]
            rfl
          · rfl
  | saving tavern metas connect =>
      have locked := held rfl
      simp only [machine, Task.advance, locked]
      rfl
  | spawning metas connects =>
      have locked := held rfl
      cases metas with
      | nil =>
          simp only [machine, Task.advance, Task.spawn, locked]
          rfl
      | cons tavern rest =>
          simp only [machine, Task.advance, Task.spawn]
          split
          · rfl
          · split <;> rfl
  | stopping id =>
      simp only [machine, Task.advance, Task.stop]
      split
      · rfl
      · split <;> rfl
  | _ => rfl

end Taverns

end Accord
