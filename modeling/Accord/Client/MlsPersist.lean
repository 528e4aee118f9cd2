import Accord.Client.KeyBackup
import Accord.Client.Vault
import Accord.Library.FileWrite
import Accord.Library.Tasks

/-! Local persistence of an MLS engine.  A persist serialises the engine under
its lock, and writes what it got after the lock is released. -/

namespace Accord

open EventRun

/-- The engine of a signed-in user, its file and what is marked for upload.
The code keeps no versions: they count the changes of the engine, and tell
which state has been serialised, written and marked last. -/
structure MlsFiles (Engine : Type) where
  engine : Engine
  file : Option Bytes := none
  sync : Sync := {}
  version : ℕ := 1
  serialised : ℕ := 0
  written : ℕ := 0
  marked : ℕ := 0

/-- Where an engine is kept: `key` is the data key of the machine. -/
structure MlsStorage (Engine : Type) where
  suite : Backup.Suite
  key : ByteArr 32
  serialize : Engine → Except String Bytes
  userId : String

inductive MlsCommand (Engine : Type) where
  | change (operation : Engine → Engine)
  | persist

inductive MlsTask (Engine : Type) where
  | changing (operation : Engine → Engine)
  | serialising
  | writing (version : ℕ) (bytes : Bytes)
  | marking (version : ℕ) (bytes : Bytes)
  | done

structure MlsInput where
  nonce : ByteArr 24 := .replicate 24 0
  keyring : Except String Unit := .ok ()
  stored : FileWrite String := .done

variable {Engine : Type}

namespace MlsTask

def enter : MlsCommand Engine → MlsTask Engine
  | .change operation => changing operation
  | .persist => serialising

variable (storage : MlsStorage Engine)

def write (files : MlsFiles Engine) (version : ℕ) (bytes : Bytes)
    (input : MlsInput) : MlsFiles Engine :=
  match AtRest.sealWith storage.suite
      (input.keyring.map fun _ => storage.key) input.nonce bytes with
  | .ok blob =>
      match input.stored with
      | .done => { files with file := some blob, written := version }
      | .unopened _ => files
      | .torn _ size =>
          { files with file := some (blob.take size), written := 0 }
  | .error _ => files

def advance (files : MlsFiles Engine) (task : MlsTask Engine)
    (input : MlsInput) : MlsFiles Engine × MlsTask Engine :=
  match task with
  | changing operation =>
      ({ files with
          engine := operation files.engine
          version := files.version + 1 }, done)
  | serialising =>
      match storage.serialize files.engine with
      | .ok bytes =>
          ({ files with serialised := files.version },
            writing files.version bytes)
      | .error _ => (files, done)
  | writing version bytes =>
      (write storage files version bytes input, marking version bytes)
  | marking version bytes =>
      ({ files with
          sync := files.sync.markMls storage.userId bytes
          marked := version }, done)
  | done => (files, done)

end MlsTask

abbrev MlsPool (Engine : Type) := Tasks.Pool (MlsFiles Engine) (MlsTask Engine)

abbrev MlsEvent (Engine : Type) := Tasks.Event (MlsCommand Engine) MlsInput

def mlsMachine (storage : MlsStorage Engine) :
    Tasks.Machine (MlsFiles Engine) (MlsCommand Engine) (MlsTask Engine)
      MlsInput where
  enter := MlsTask.enter
  advance := MlsTask.advance storage

namespace MlsFiles

variable (storage : MlsStorage Engine) (files : MlsFiles Engine)

def OnFile : Prop :=
  ∃ bytes blob, storage.serialize files.engine = .ok bytes ∧
    files.file = some blob ∧
    AtRest.openWith storage.suite (.ok storage.key) blob = some bytes

def Marked : Prop :=
  ∃ bytes, storage.serialize files.engine = .ok bytes ∧
    (storage.userId, bytes) ∈ files.sync.mls

end MlsFiles

namespace MlsPool

variable (storage : MlsStorage Engine)

/-- Every call has completed, and the last change was followed by a
persist. -/
structure Settled (pool : MlsPool Engine) : Prop where
  idle : ∀ task ∈ pool.tasks, task = .done
  persisted : pool.shared.serialised = pool.shared.version

/-- Once all is settled, the file and the mark are the engine as it is. -/
def Current (pool : MlsPool Engine) : Prop :=
  pool.Settled → pool.shared.OnFile storage ∧ pool.shared.Marked storage

/-- The write goes through, and no later state is on file or marked yet. -/
def InOrder (pool : MlsPool Engine) : MlsEvent Engine → Prop
  | .start _ => True
  | .turn index input => ∀ version bytes,
      (pool.tasks[index]? = some (.writing version bytes) →
        pool.shared.written ≤ version ∧ input.stored = .done ∧
          ∃ blob, AtRest.sealWith storage.suite
            (input.keyring.map fun _ => storage.key) input.nonce bytes =
              .ok blob) ∧
      (pool.tasks[index]? = some (.marking version bytes) →
        pool.shared.marked ≤ version)

end MlsPool

namespace MlsTask

def carried? : MlsTask Engine → Option (ℕ × Bytes)
  | writing version bytes | marking version bytes => some (version, bytes)
  | _ => none

end MlsTask

/-- What is on file, marked or on its way there, by version. -/
structure MlsKept (storage : MlsStorage Engine) (files : MlsFiles Engine)
    (tasks : List (MlsTask Engine)) : Prop where
  carried : ∀ task ∈ tasks, ∀ version bytes,
    task.carried? = some (version, bytes) → version ≤ files.version ∧
      (version = files.version → storage.serialize files.engine = .ok bytes)
  serialised : files.serialised ≤ files.version
  written : files.written ≤ files.version
  marked : files.marked ≤ files.version
  onFile : files.written = files.version → files.OnFile storage
  onSync : files.marked = files.version → files.Marked storage
  toWrite : files.serialised = files.version →
    files.written = files.version ∨
      ∃ bytes, .writing files.version bytes ∈ tasks
  toMark : files.serialised = files.version →
    files.marked = files.version ∨ ∃ task ∈ tasks, ∃ bytes,
      task.carried? = some (files.version, bytes)

namespace MlsKept

variable {storage : MlsStorage Engine} {files : MlsFiles Engine}
  {tasks others : List (MlsTask Engine)}

theorem of_mem (kept : MlsKept storage files tasks)
    (same : ∀ task, task ∈ others ↔ task ∈ tasks) :
    MlsKept storage files others where
  carried task member := kept.carried task ((same task).mp member)
  serialised := kept.serialised
  written := kept.written
  marked := kept.marked
  onFile := kept.onFile
  onSync := kept.onSync
  toWrite settled := (kept.toWrite settled).imp_right fun ⟨bytes, member⟩ =>
    ⟨bytes, (same _).mpr member⟩
  toMark settled := (kept.toMark settled).imp_right
    fun ⟨task, member, carries⟩ => ⟨task, (same task).mpr member, carries⟩

/-- A task that has not serialised yet, or is done, does not matter. -/
theorem replace {old new : MlsTask Engine}
    (kept : MlsKept storage files (old :: tasks))
    (oldIdle : old.carried? = none) (newIdle : new.carried? = none) :
    MlsKept storage files (new :: tasks) := by
  refine { kept with carried := ?_, toWrite := ?_, toMark := ?_ }
  · intro task member version bytes carries
    cases List.mem_cons.mp member with
    | inl own => rw [own, newIdle] at carries; cases carries
    | inr other =>
        exact kept.carried task (List.mem_cons_of_mem _ other) _ _ carries
  · intro settled
    refine (kept.toWrite settled).imp_right fun ⟨bytes, member⟩ => ?_
    cases List.mem_cons.mp member with
    | inl own => rw [← own] at oldIdle; cases oldIdle
    | inr other => exact ⟨bytes, List.mem_cons_of_mem _ other⟩
  · intro settled
    refine (kept.toMark settled).imp_right
      fun ⟨task, member, bytes, carries⟩ => ?_
    cases List.mem_cons.mp member with
    | inl own => rw [own, oldIdle] at carries; cases carries
    | inr other => exact ⟨task, List.mem_cons_of_mem _ other, bytes, carries⟩

theorem start (kept : MlsKept storage files tasks)
    (command : MlsCommand Engine) :
    MlsKept storage files (tasks ++ [MlsTask.enter command]) := by
  have idle : (MlsTask.enter command).carried? = none := by
    cases command <;> rfl
  have added : MlsKept storage files (MlsTask.enter command :: tasks) := by
    refine { kept with carried := ?_, toWrite := ?_, toMark := ?_ }
    · intro task member version bytes carries
      cases List.mem_cons.mp member with
      | inl own => rw [own, idle] at carries; cases carries
      | inr other => exact kept.carried task other _ _ carries
    · exact fun settled => (kept.toWrite settled).imp_right
        fun ⟨bytes, member⟩ => ⟨bytes, List.mem_cons_of_mem _ member⟩
    · exact fun settled => (kept.toMark settled).imp_right
        fun ⟨task, member, carries⟩ =>
          ⟨task, List.mem_cons_of_mem _ member, carries⟩
  refine added.of_mem fun task => ?_
  rw [List.mem_append, List.mem_singleton, List.mem_cons, or_comm]

theorem change {operation : Engine → Engine}
    (kept : MlsKept storage files (.changing operation :: tasks)) :
    MlsKept storage
      { files with
        engine := operation files.engine
        version := files.version + 1 } (.done :: tasks) := by
  have idle : MlsKept storage files (.done :: tasks) :=
    kept.replace rfl rfl
  have newer : ∀ {version : ℕ}, version ≤ files.version →
      version ≠ files.version + 1 :=
    fun le => (Nat.lt_succ_of_le le).ne
  refine ⟨?_, Nat.le_succ_of_le kept.serialised,
    Nat.le_succ_of_le kept.written, Nat.le_succ_of_le kept.marked, ?_, ?_,
    ?_, ?_⟩
  · intro task member version bytes carries
    have le := (idle.carried task member version bytes carries).1
    exact ⟨Nat.le_succ_of_le le, fun same => absurd same (newer le)⟩
  · exact fun same => absurd same (newer kept.written)
  · exact fun same => absurd same (newer kept.marked)
  · exact fun same => absurd same (newer kept.serialised)
  · exact fun same => absurd same (newer kept.serialised)

private theorem serialise {bytes : Bytes}
    (kept : MlsKept storage files (.serialising :: tasks))
    (serialised : storage.serialize files.engine = .ok bytes) :
    MlsKept storage { files with serialised := files.version }
      (.writing files.version bytes :: tasks) := by
  have idle : MlsKept storage files (.done :: tasks) :=
    kept.replace rfl rfl
  refine { kept with
    carried := ?_, serialised := le_refl _, toWrite := ?_, toMark := ?_ }
  · intro task member version other carries
    cases List.mem_cons.mp member with
    | inl own =>
        rw [own] at carries
        cases carries
        exact ⟨le_refl _, fun _ => serialised⟩
    | inr rest =>
        exact kept.carried task (List.mem_cons_of_mem _ rest) _ _ carries
  · exact fun _ => .inr ⟨bytes, List.mem_cons_self⟩
  · exact fun _ => .inr ⟨_, List.mem_cons_self, bytes, rfl⟩

theorem own {old : MlsTask Engine} {version : ℕ} {bytes : Bytes}
    (kept : MlsKept storage files (old :: tasks))
    (carries : old.carried? = some (version, bytes)) :
    version ≤ files.version ∧ (version = files.version →
      storage.serialize files.engine = .ok bytes) :=
  kept.carried old List.mem_cons_self version bytes carries

theorem write {version : ℕ} {bytes blob : Bytes}
    (kept : MlsKept storage files (.writing version bytes :: tasks))
    (inOrder : files.written ≤ version)
    (opens : AtRest.openWith storage.suite (.ok storage.key) blob =
      some bytes) :
    MlsKept storage { files with file := some blob, written := version }
      (.marking version bytes :: tasks) := by
  obtain ⟨le, current⟩ := kept.own rfl
  refine { kept with
    carried := ?_, written := le, onFile := ?_, toWrite := ?_, toMark := ?_ }
  · intro task member other _ carries
    cases List.mem_cons.mp member with
    | inl own =>
        rw [own] at carries
        cases carries
        exact ⟨le, current⟩
    | inr rest =>
        exact kept.carried task (List.mem_cons_of_mem _ rest) _ _ carries
  · exact fun same => ⟨bytes, blob, current same, rfl, opens⟩
  · intro settled
    cases kept.toWrite settled with
    | inl old => exact .inl (le_antisymm le (old ▸ inOrder))
    | inr pending =>
        obtain ⟨other, member⟩ := pending
        cases List.mem_cons.mp member with
        | inl own => cases own; exact .inl rfl
        | inr rest => exact .inr ⟨other, List.mem_cons_of_mem _ rest⟩
  · intro settled
    refine (kept.toMark settled).imp_right fun ⟨task, member, carries⟩ => ?_
    cases List.mem_cons.mp member with
    | inl own =>
        rw [own] at carries
        exact ⟨_, List.mem_cons_self, carries⟩
    | inr rest => exact ⟨task, List.mem_cons_of_mem _ rest, carries⟩

theorem mark {version : ℕ} {bytes : Bytes}
    (kept : MlsKept storage files (.marking version bytes :: tasks))
    (inOrder : files.marked ≤ version) :
    MlsKept storage
      { files with
        sync := files.sync.markMls storage.userId bytes
        marked := version } (.done :: tasks) := by
  obtain ⟨le, current⟩ := kept.own rfl
  refine { kept with
    carried := ?_, marked := le, onSync := ?_, toWrite := ?_, toMark := ?_ }
  · intro task member other _ carries
    cases List.mem_cons.mp member with
    | inl own =>
        rw [own] at carries
        cases carries
    | inr rest =>
        exact kept.carried task (List.mem_cons_of_mem _ rest) _ _ carries
  · exact fun same =>
      ⟨bytes, current same, Sync.mem_markMls.mpr (.inl rfl)⟩
  · intro settled
    refine (kept.toWrite settled).imp_right fun ⟨other, member⟩ => ?_
    cases List.mem_cons.mp member with
    | inl own => cases own
    | inr rest => exact ⟨other, List.mem_cons_of_mem _ rest⟩
  · intro settled
    cases kept.toMark settled with
    | inl old => exact .inl (le_antisymm le (old ▸ inOrder))
    | inr pending =>
        obtain ⟨task, member, other, carries⟩ := pending
        cases List.mem_cons.mp member with
        | inl own =>
            rw [own] at carries
            cases carries
            exact .inl rfl
        | inr rest =>
            exact .inr ⟨task, List.mem_cons_of_mem _ rest, other, carries⟩

theorem advance {task : MlsTask Engine} {input : MlsInput}
    (kept : MlsKept storage files (task :: tasks))
    (inOrder : ∀ version bytes,
      (task = .writing version bytes →
        files.written ≤ version ∧ input.stored = .done ∧
          ∃ blob, AtRest.sealWith storage.suite
            (input.keyring.map fun _ => storage.key) input.nonce bytes =
              .ok blob) ∧
      (task = .marking version bytes → files.marked ≤ version)) :
    MlsKept storage (MlsTask.advance storage files task input).1
      ((MlsTask.advance storage files task input).2 :: tasks) := by
  cases task with
  | changing operation => exact kept.change
  | serialising =>
      unfold MlsTask.advance
      cases serialised : storage.serialize files.engine with
      | ok bytes => exact kept.serialise serialised
      | error cause => exact kept.replace rfl rfl
  | writing version bytes =>
      obtain ⟨later, stored, blob, sealed⟩ := (inOrder version bytes).1 rfl
      change MlsKept storage (MlsTask.write storage files version bytes input)
        (.marking version bytes :: tasks)
      unfold MlsTask.write
      rw [sealed, stored]
      exact kept.write later (AtRest.openWith_sealWith sealed)
  | marking version bytes => exact kept.mark ((inOrder version bytes).2 rfl)
  | done => exact kept

theorem current {pool : MlsPool Engine}
    (kept : MlsKept storage pool.shared pool.tasks) :
    pool.Current storage := by
  intro settled
  constructor
  · refine kept.onFile ((kept.toWrite settled.persisted).resolve_right ?_)
    rintro ⟨bytes, member⟩
    cases settled.idle _ member
  · refine kept.onSync ((kept.toMark settled.persisted).resolve_right ?_)
    rintro ⟨task, member, bytes, carries⟩
    rw [settled.idle task member] at carries
    cases carries

end MlsKept

namespace MlsPool

/-- When an engine has been built it is not persisted yet. -/
def start (engine : Engine) (file : Option Bytes) (sync : Sync) :
    MlsPool Engine where
  shared := { engine, file, sync }

/-- Persists that write and mark in order leave the engine as it is behind. -/
theorem current_of_inOrder (storage : MlsStorage Engine) (engine : Engine)
    (file : Option Bytes) (sync : Sync) {events : List (MlsEvent Engine)}
    (inOrder : Each (mlsMachine storage).step (InOrder storage)
      (start engine file sync) events) :
    Always (mlsMachine storage).step (Current storage)
      (start engine file sync) events := by
  have initially : MlsKept storage (start engine file sync).shared
      (start engine file sync).tasks := by
    refine ⟨?_, Nat.zero_le _, Nat.zero_le _, Nat.zero_le _, ?_, ?_, ?_, ?_⟩
    · exact fun _ member => absurd member List.not_mem_nil
    all_goals exact fun never => absurd never Nat.zero_ne_one
  have always : Always (mlsMachine storage).step
      (fun pool => MlsKept storage pool.shared pool.tasks)
      (start engine file sync) events := by
    refine Tasks.Machine.always_of_advance (MlsKept storage) MlsKept.of_mem
      (fun command kept => kept.start command) ?_ initially inOrder
    intro pool index task input found allowed kept
    refine kept.advance fun version bytes => ⟨?_, ?_⟩
    · rintro rfl
      exact (allowed version bytes).1 found
    · rintro rfl
      exact (allowed version bytes).2 found
  exact always.imp fun _ kept => kept.current

def byteStorage : MlsStorage Bytes where
  suite := SyncCall.taggingSuite
  key := .replicate 32 1
  serialize := .ok
  userId := "ann"

theorem current_after_persist :
    Always (mlsMachine byteStorage).step (Current byteStorage)
      (start [7] none {})
      [.start .persist, .turn 0 {}, .turn 0 {}, .turn 0 {}] := by
  refine current_of_inOrder byteStorage [7] none {} ⟨trivial, ?_, ?_, ?_, ?_⟩
  · exact fun _ _ => ⟨fun found => (by cases found),
      fun found => (by cases found)⟩
  · refine fun _ _ => ⟨fun found => ?_, fun found => (by cases found)⟩
    cases found
    exact ⟨Nat.zero_le _, rfl, _, rfl⟩
  · refine fun _ _ => ⟨fun found => (by cases found), fun found => ?_⟩
    cases found
    exact Nat.zero_le _
  · trivial

/-- The first persist is held up between serialising and writing. -/
theorem overtaken_persist_stale :
    ¬Always (mlsMachine byteStorage).step (Current byteStorage)
      (start [7] none {})
      [.start .persist, .turn 0 {}, .start (.change fun _ => [8]), .turn 1 {},
        .start .persist, .turn 2 {}, .turn 2 {}, .turn 2 {}, .turn 0 {},
        .turn 0 {}] := by
  intro always
  have settled : Settled (run (mlsMachine byteStorage).step
      (start [7] none {})
      [.start .persist, .turn 0 {}, .start (.change fun _ => [8]), .turn 1 {},
        .start .persist, .turn 2 {}, .turn 2 {}, .turn 2 {}, .turn 0 {},
        .turn 0 {}]) := by
    refine ⟨fun task member => ?_, rfl⟩
    have done : task ∈ [MlsTask.done, .done, .done] := member
    simpa using done
  obtain ⟨⟨bytes, blob, serialised, onFile, opens⟩, _⟩ := always.last settled
  cases serialised
  cases onFile
  revert opens
  decide +kernel

end MlsPool

end Accord
