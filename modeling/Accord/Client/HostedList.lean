import Accord.Client.HostedTaverns

/-! What the list of hosted taverns says once the commands are through.  A
write is of the list that was read before it, so it undoes whatever was written
in between, and a list that was read before the lock was taken may name taverns
that are deleted by then. -/

namespace Accord

namespace Taverns

def Task.done : Task → Bool
  | returned _ => true
  | _ => false

def Completed (pool : Pool) : Prop :=
  ∀ task ∈ pool.tasks, task.done = true

instance (pool : Pool) : Decidable (Completed pool) :=
  inferInstanceAs (Decidable (∀ task ∈ pool.tasks, _))

/-- The list is what was listed without what was deleted, no two entries share
an id or a port, and nothing that was deleted runs or can be started again. -/
structure Consistent (hosting : Hosting) : Prop where
  listed : hosting.metas =
    hosting.created.filter (·.id ∉ hosting.deleted)
  ids : (hosting.metas.map (·.id)).Nodup
  ports : (hosting.metas.map (·.port)).Nodup
  stopped : ∀ id ∈ hosting.deleted, id ∉ hosting.running
  unlisted : ∀ id ∈ hosting.deleted, id ∉ hosting.metas.map (·.id)

namespace Task

def chooses : Task → Bool
  | choosing _ _ => true
  | _ => false

/-- The list that a task goes by where it writes the file. -/
def writes : Task → List (List TavernMeta)
  | saving _ metas _ => [metas]
  | rewriting _ metas => [metas]
  | _ => []

/-- The taverns that a task starts once it has the lock. -/
def wakes : Task → List TavernMeta
  | waking metas => metas
  | _ => []

/-- The list that a task goes by is not out of date: a write finds it in the
file as it was read, and no tavern about to be started was taken off the
registry by a deletion. -/
structure Current (hosting : Hosting) (task : Task) : Prop where
  written : ∀ metas ∈ task.writes, metas = hosting.metas
  woken : hosting.locked = false →
    ∀ tavern ∈ task.wakes, tavern.id ∉ hosting.taken

end Task

/-- An id that is drawn was never seen before. -/
def Fresh (pool : Pool) : Event → Prop
  | .start _ => True
  | .turn index input => ∀ task ∈ pool.tasks[index]?,
      task.chooses = true → input.id ∉ pool.shared.drawn

def Current (pool : Pool) : Event → Prop
  | .start _ => True
  | .turn index _ => ∀ task ∈ pool.tasks[index]?, task.Current pool.shared

section Decisions

variable (hosting : Hosting) (task : Task) (pool : Pool) (event : Event)

instance : Decidable (task.Current hosting) :=
  decidable_of_iff ((∀ metas ∈ task.writes, metas = hosting.metas) ∧
      (hosting.locked = false →
        ∀ tavern ∈ task.wakes, tavern.id ∉ hosting.taken))
    ⟨fun both => ⟨both.1, both.2⟩,
      fun current => ⟨current.written, current.woken⟩⟩

instance : Decidable (Fresh pool event) :=
  match event with
  | .start _ => .isTrue trivial
  | .turn index input => inferInstanceAs (Decidable
      (∀ task ∈ pool.tasks[index]?,
        task.chooses = true → input.id ∉ pool.shared.drawn))

instance : Decidable (Current pool event) :=
  match event with
  | .start _ => .isTrue trivial
  | .turn index _ => inferInstanceAs (Decidable
      (∀ task ∈ pool.tasks[index]?, task.Current pool.shared))

end Decisions

/-! What one turn keeps. -/

structure Sound (hosting : Hosting) : Prop where
  listed : hosting.metas =
    hosting.created.filter (·.id ∉ hosting.deleted)
  ids : (hosting.created.map (·.id)).Nodup
  ports : (hosting.metas.map (·.port)).Nodup
  deleted : ∀ id ∈ hosting.deleted, id ∈ hosting.taken
  taken : ∀ id ∈ hosting.taken, id ∈ hosting.drawn
  created : ∀ tavern ∈ hosting.created, tavern.id ∈ hosting.drawn
  running : ∀ id ∈ hosting.running, id ∈ hosting.drawn
  stopped : ∀ id ∈ hosting.running, id ∉ hosting.taken

/-- What a task knows of the ids that it carries. -/
def Task.Good (hosting : Hosting) : Task → Prop
  | saving tavern metas _ =>
      tavern.id ∉ hosting.created.map (·.id) ∧ tavern.id ∉ hosting.taken ∧
        tavern.id ∈ hosting.drawn ∧ tavern.port ∉ metas.map (·.port)
  | waking metas => ∀ tavern ∈ metas, tavern.id ∈ hosting.drawn
  | spawning metas _ => ∀ tavern ∈ metas,
      tavern.id ∈ hosting.drawn ∧ tavern.id ∉ hosting.taken
  | reading id => id ∈ hosting.taken
  | rewriting id _ => id ∈ hosting.taken
  | _ => True

private theorem good_enter (hosting : Hosting) (command : Command) :
    (Task.enter command).Good hosting := by
  cases command with
  | createTavern name =>
      simp only [Task.enter]
      split <;> trivial
  | resumeHostedTaverns => trivial
  | deleteTavern id => trivial

variable {hosting after : Hosting}

private theorem Sound.listed_drawn (sound : Sound hosting) {tavern : TavernMeta}
    (member : tavern ∈ hosting.metas) : tavern.id ∈ hosting.drawn := by
  rw [sound.listed] at member
  exact sound.created tavern (List.mem_of_mem_filter member)

/-- The records of a task that does not turn only get older, and while it has
the lock two of them do not change at all. -/
theorem Task.Good.frame {task : Task} (good : task.Good hosting)
    (drawn : ∀ id ∈ hosting.drawn, id ∈ after.drawn)
    (taken : ∀ id ∈ hosting.taken, id ∈ after.taken)
    (held : task.holds = true →
      after.created = hosting.created ∧ after.taken = hosting.taken) :
    task.Good after := by
  cases task with
  | saving tavern metas connect =>
      obtain ⟨created, sameTaken⟩ := held rfl
      obtain ⟨unlisted, running, known, port⟩ := good
      refine ⟨?_, ?_, drawn _ known, port⟩
      · rw [created]
        exact unlisted
      · rw [sameTaken]
        exact running
  | waking metas => exact fun tavern member => drawn _ (good tavern member)
  | spawning metas connects =>
      intro tavern member
      refine ⟨drawn _ (good tavern member).1, ?_⟩
      rw [(held rfl).2]
      exact (good tavern member).2
  | reading id => exact taken id good
  | rewriting id metas => exact taken id good
  | _ => trivial

theorem Sound.with (sound : Sound hosting) (locked : Bool)
    (dirs : List String) : Sound { hosting with locked, dirs } :=
  ⟨sound.listed, sound.ids, sound.ports, sound.deleted, sound.taken,
    sound.created, sound.running, sound.stopped⟩

theorem Sound.start (sound : Sound hosting) {id : String} {drawn : List String}
    (port : ℕ) (own : id ∈ drawn) (free : id ∉ hosting.taken)
    (older : ∀ other ∈ hosting.drawn, other ∈ drawn) :
    Sound { hosting with
      running := hosting.running.insert id port, drawn } where
  listed := sound.listed
  ids := sound.ids
  ports := sound.ports
  deleted := sound.deleted
  taken other member := older other (sound.taken other member)
  created tavern member := older _ (sound.created tavern member)
  running other member := by
    rcases (AList.mem_insert _).mp member with same | old
    · rw [same]
      exact own
    · exact older other (sound.running other old)
  stopped other member := by
    rcases (AList.mem_insert _).mp member with same | old
    · rw [same]
      exact free
    · exact sound.stopped other old

theorem Sound.stop (sound : Sound hosting) {id : String}
    (running : id ∈ hosting.running) :
    Sound { hosting with
      running := hosting.running.erase id
      taken := id :: hosting.taken } where
  listed := sound.listed
  ids := sound.ids
  ports := sound.ports
  deleted other member := List.mem_cons_of_mem _ (sound.deleted other member)
  taken := List.forall_mem_cons.mpr ⟨sound.running id running, sound.taken⟩
  created := sound.created
  running other member := sound.running other (AList.mem_erase.mp member).2
  stopped other member := by
    have remains := AList.mem_erase.mp member
    rw [List.mem_cons, not_or]
    exact ⟨remains.1, sound.stopped other remains.2⟩

theorem Sound.save (sound : Sound hosting) {tavern : TavernMeta}
    {metas : List TavernMeta} {connect : TavernConnect}
    (good : (Task.saving tavern metas connect).Good hosting)
    (read : metas = hosting.metas) :
    Sound { hosting with
      metas := metas ++ [tavern]
      created := hosting.created ++ [tavern] } := by
  obtain ⟨unlisted, free, known, port⟩ := good
  subst read
  have kept : tavern.id ∉ hosting.deleted := fun gone =>
    free (sound.deleted _ gone)
  refine ⟨?_, ?_, ?_, sound.deleted, sound.taken, ?_, sound.running,
    sound.stopped⟩
  · rw [List.filter_append, ← sound.listed]
    simp [kept]
  · rw [List.map_append, List.map_singleton, List.nodup_append']
    refine ⟨sound.ids, List.nodup_singleton _, ?_⟩
    exact List.disjoint_singleton.mpr unlisted
  · rw [List.map_append, List.map_singleton, List.nodup_append']
    refine ⟨sound.ports, List.nodup_singleton _, ?_⟩
    exact List.disjoint_singleton.mpr port
  · intro other member
    rcases List.mem_append.mp member with old | new
    · exact sound.created other old
    · rw [List.mem_singleton.mp new]
      exact known

theorem Sound.rewrite (sound : Sound hosting) {id : String}
    {metas : List TavernMeta} (taken : id ∈ hosting.taken)
    (read : metas = hosting.metas) :
    Sound { hosting with
      metas := metas.filter (·.id != id)
      deleted := id :: hosting.deleted } := by
  subst read
  refine ⟨?_, sound.ids, ?_, ?_, sound.taken, sound.created, sound.running,
    sound.stopped⟩
  · rw [sound.listed, List.filter_filter]
    apply List.filter_congr
    intro tavern member
    simp [not_or, bne, beq_eq_decide]
  · exact sound.ports.sublist (List.filter_sublist.map _)
  · exact List.forall_mem_cons.mpr ⟨taken, sound.deleted⟩

/-- What a turn of a task leaves: what it needs itself, and what any other
task needs of it. -/
structure Turned (hosting : Hosting) (task : Task)
    (outcome : Hosting × Task) : Prop where
  sound : Sound outcome.1
  good : outcome.2.Good outcome.1
  drawn : ∀ id ∈ hosting.drawn, id ∈ outcome.1.drawn
  taken : ∀ id ∈ hosting.taken, id ∈ outcome.1.taken
  held : hosting.locked = true → task.holds = false →
    outcome.1.created = hosting.created ∧ outcome.1.taken = hosting.taken

theorem Turned.with (sound : Sound hosting) (task : Task) {next : Task}
    (locked : Bool) (dirs : List String)
    (good : next.Good { hosting with locked, dirs }) :
    Turned hosting task ({ hosting with locked, dirs }, next) where
  sound := sound.with locked dirs
  good := good
  drawn _ member := member
  taken _ member := member
  held _ _ := ⟨rfl, rfl⟩

private theorem turned_choose (sound : Sound hosting) (name : String)
    (metas : List TavernMeta) {input : Input}
    (fresh : input.id ∉ hosting.drawn) :
    Turned hosting (.choosing name metas)
      (Task.choose hosting name metas input) := by
  unfold Task.choose
  split
  · exact .with sound _ false hosting.dirs trivial
  · split
    · exact .with sound _ false hosting.dirs trivial
    · rename_i port chosen
      split
      · exact .with sound _ false _ trivial
      · have unseen : input.id ∉ hosting.taken := fun member =>
          fresh (sound.taken _ member)
        refine ⟨?_, ?_, ?_, fun _ member => member, ?_⟩
        · exact (sound.with _ _).start port List.mem_cons_self unseen
            fun _ => List.mem_cons_of_mem _
        · refine ⟨?_, unseen, List.mem_cons_self, ?_⟩
          · intro member
            obtain ⟨tavern, listed, same⟩ := List.mem_map.mp member
            have drawn := sound.created tavern listed
            rw [same] at drawn
            exact fresh drawn
          · intro member
            exact firstFreePort_not_mem chosen
              (List.mem_append_right _ member)
        · exact fun _ => List.mem_cons_of_mem _
        · intro _ free
          cases free

private theorem turned_spawn (sound : Sound hosting) {metas : List TavernMeta}
    (connects : List TavernConnect)
    (good : (Task.spawning metas connects).Good hosting) (input : Input) :
    Turned hosting (.spawning metas connects)
      (Task.spawn hosting connects input metas) := by
  cases metas with
  | nil => exact .with sound _ false hosting.dirs trivial
  | cons tavern rest =>
      have first := good tavern List.mem_cons_self
      have later : ∀ other ∈ rest,
          other.id ∈ hosting.drawn ∧ other.id ∉ hosting.taken :=
        fun other member => good other (List.mem_cons_of_mem _ member)
      rw [Task.spawn]
      split
      · exact .with sound _ hosting.locked hosting.dirs later
      · split
        · exact .with sound _ hosting.locked _ later
        · refine ⟨?_, later, fun _ member => member, fun _ member => member, ?_⟩
          · exact (sound.with _ _).start tavern.port first.1 first.2
              fun _ member => member
          · intro _ free
            cases free

private theorem turned_stop (sound : Sound hosting)
    (unlocked : hosting.locked = false) (id : String) :
    Turned hosting (.stopping id) (Task.stop hosting id) := by
  unfold Task.stop
  split
  · rename_i running
    refine ⟨sound.stop running, List.mem_cons_self, fun _ member => member,
      fun _ => List.mem_cons_of_mem _, ?_⟩
    intro locked
    rw [unlocked] at locked
    cases locked
  · exact .with sound _ hosting.locked hosting.dirs trivial

private theorem turned_advance (sound : Sound hosting) {task : Task}
    (good : task.Good hosting) {input : Input}
    (fresh : task.chooses = true → input.id ∉ hosting.drawn)
    (current : task.Current hosting) :
    Turned hosting task (task.advance hosting input) := by
  cases task with
  | locking name =>
      simp only [Task.advance]
      split
      · exact .with sound _ hosting.locked hosting.dirs trivial
      · exact .with sound _ true hosting.dirs trivial
  | loading name => exact .with sound _ hosting.locked hosting.dirs trivial
  | choosing name metas => exact turned_choose sound name metas (fresh rfl)
  | saving tavern metas connect =>
      have read := current.written metas List.mem_cons_self
      refine ⟨(sound.save good read).with false hosting.dirs, trivial,
        fun _ member => member, fun _ member => member, ?_⟩
      intro _ free
      cases free
  | resuming =>
      exact .with sound _ hosting.locked hosting.dirs
        fun _ => sound.listed_drawn
  | waking metas =>
      simp only [Task.advance]
      split
      · exact .with sound _ hosting.locked hosting.dirs good
      · rename_i unlocked
        have alive := current.woken (Bool.eq_false_iff.mpr unlocked)
        exact .with sound _ true hosting.dirs fun tavern member =>
          ⟨good tavern member, alive tavern member⟩
  | spawning metas connects => exact turned_spawn sound connects good input
  | stopping id =>
      simp only [Task.advance]
      split
      · exact .with sound _ hosting.locked hosting.dirs trivial
      · rename_i unlocked
        exact turned_stop sound (Bool.eq_false_iff.mpr unlocked) id
  | reading id => exact .with sound _ hosting.locked hosting.dirs good
  | rewriting id metas =>
      have read := current.written metas List.mem_cons_self
      exact ⟨sound.rewrite good read, trivial, fun _ member => member,
        fun _ member => member, fun _ _ => ⟨rfl, rfl⟩⟩
  | removing id => exact .with sound _ hosting.locked _ trivial
  | returned outcome =>
      exact .with sound _ hosting.locked hosting.dirs trivial

/-! What a whole run keeps. -/

structure Kept (pool : Pool) : Prop where
  exclusive : pool.Exclusive Hosting.locked Task.holds
  sound : Sound pool.shared
  good : ∀ task ∈ pool.tasks, task.Good pool.shared

theorem Kept.started {pool : Pool} (kept : Kept pool) (command : Command) :
    Kept (machine.started pool command) where
  exclusive := kept.exclusive.step holds_enter balanced_advance
    (.start command)
  sound := kept.sound
  good task member := by
    rcases List.mem_append.mp member with old | new
    · exact kept.good task old
    · rw [List.mem_singleton.mp new]
      exact good_enter pool.shared command

theorem Kept.turned {pool : Pool} (kept : Kept pool) {index : ℕ} {task : Task}
    {input : Input} (found : pool.tasks[index]? = some task)
    (fresh : task.chooses = true → input.id ∉ pool.shared.drawn)
    (current : task.Current pool.shared) :
    Kept (machine.turned pool index task input) := by
  have member := List.mem_of_getElem? found
  have turned := turned_advance kept.sound (kept.good task member) fresh
    current
  refine ⟨?_, turned.sound, ?_⟩
  · have stepped := kept.exclusive.step holds_enter balanced_advance
      (.turn index input)
    rwa [Tasks.Machine.step_turn found] at stepped
  · intro other placed
    rcases (Slots.mem_set_of_found found _ other).mp placed with same | rest
    · rw [same]
      exact turned.good
    · have present := List.mem_of_mem_eraseIdx rest
      refine (kept.good other present).frame turned.drawn turned.taken ?_
      intro held
      -- The other one has the lock, so the task that turns has not.
      apply turned.held (kept.exclusive.locked_of_holds present held)
      apply Bool.eq_false_iff.mpr
      intro own
      rw [kept.exclusive.others_free found own rest] at held
      cases held

private theorem kept_launch {metas : List TavernMeta}
    (ids : (metas.map (·.id)).Nodup) (ports : (metas.map (·.port)).Nodup) :
    Kept (launch metas) where
  exclusive := rfl
  sound := {
    listed := by simp [launch]
    ids := ids
    ports := ports
    deleted := nofun
    taken := nofun
    created := fun _ => List.mem_map_of_mem
    running := nofun
    stopped := nofun }
  good := nofun

theorem Sound.consistent (sound : Sound hosting) : Consistent hosting where
  listed := sound.listed
  ids := by
    rw [sound.listed]
    exact sound.ids.sublist (List.filter_sublist.map _)
  ports := sound.ports
  stopped id gone running :=
    sound.stopped id running (sound.deleted id gone)
  unlisted id gone member := by
    obtain ⟨tavern, listed, rfl⟩ := List.mem_map.mp member
    rw [sound.listed] at listed
    simpa [gone] using List.of_mem_filter listed

/-- In every run in which no list that a command goes by is out of date, the
hosted taverns are consistent whenever all commands have returned. -/
theorem hosted_consistent (metas : List TavernMeta)
    (ids : (metas.map (·.id)).Nodup) (ports : (metas.map (·.port)).Nodup)
    (events : List Event)
    (fresh : EventRun.Each machine.step Fresh (launch metas) events)
    (current : EventRun.Each machine.step Current (launch metas) events) :
    EventRun.Always machine.step
      (fun pool => Completed pool → Consistent pool.shared) (launch metas)
      events := by
  have kept : EventRun.Always machine.step Kept (launch metas) events := by
    apply Tasks.Machine.always_of_turns _ _ (kept_launch ids ports)
      (fresh.and current)
    · intro pool command kept _
      exact kept.started command
    · intro pool index task input found kept allowed
      exact kept.turned found (allowed.1 task found) (allowed.2 task found)
  exact kept.imp fun _ kept _ => kept.sound.consistent

/-! A client that hosts one tavern. -/

def hall : TavernMeta := ⟨"hall", "Hall", 50052⟩

def input : Input where
  id := "attic"

def turns (index count : ℕ) : List Event :=
  List.replicate count (.turn index input)

def resumed : List Event := .start .resumeHostedTaverns :: turns 0 4

def inTurn : List Event :=
  resumed ++ .start (.createTavern "Attic") :: turns 1 4 ++
    .start (.deleteTavern "hall") :: turns 2 4

/-- The deletion writes the list between the reading and the writing of the
creation, which puts the tavern back. -/
def overlapping : List Event :=
  resumed ++ [.start (.deleteTavern "hall"),
    .start (.createTavern "Attic")] ++ turns 1 1 ++ turns 2 2 ++
      turns 1 3 ++ turns 2 2

/-- The list is read before the deletion and gone by after it. -/
def outdated : List Event :=
  resumed ++ .start .resumeHostedTaverns :: turns 1 1 ++
    .start (.deleteTavern "hall") :: turns 2 4 ++ turns 1 3

theorem inTurn_consistent :
    EventRun.Always machine.step
      (fun pool => Completed pool → Consistent pool.shared) (launch [hall])
      inTurn :=
  hosted_consistent [hall] (by decide) (by decide) inTurn
    (by decide +kernel) (by decide +kernel)

theorem overlapping_inconsistent :
    (EventRun.Each machine.step Fresh (launch [hall]) overlapping ∧
      ¬ EventRun.Always machine.step
        (fun pool => Completed pool → Consistent pool.shared)
        (launch [hall]) overlapping) ∧
    EventRun.Each machine.step Fresh (launch [hall]) outdated ∧
      ¬ EventRun.Always machine.step
        (fun pool => Completed pool → Consistent pool.shared)
        (launch [hall]) outdated := by
  refine ⟨⟨by decide +kernel, ?_⟩, by decide +kernel, ?_⟩
  · intro always
    have consistent := always.last (by decide +kernel)
    exact consistent.unlisted "hall" (by decide +kernel) (by decide +kernel)
  · intro always
    have consistent := always.last (by decide +kernel)
    exact consistent.stopped "hall" (by decide +kernel) (by decide +kernel)

end Taverns

end Accord
