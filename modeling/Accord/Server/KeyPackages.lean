import Accord.Library.Tasks
import Accord.Server.Store.KeyPackages

/-! Handing out KeyPackages, statement by statement.  On SQLite a claim selects
a package and marks it in a second statement; on Postgres one statement does
both. -/

namespace Accord

inductive Backend where
  | sqlite
  | postgres
  deriving DecidableEq

inductive PackageCall where
  | claim (userId : Uuid)
  | publish (userId deviceId : Uuid) (packages : List Bytes)

/-- `selecting` and `consuming` carry the devices still to come and the
packages claimed so far. -/
inductive PackageTask where
  | listing (userId : Uuid)
  | selecting (devices : List Uuid) (claimed : List KeyPackageRow)
  | consuming (row : KeyPackageRow) (devices : List Uuid)
      (claimed : List KeyPackageRow)
  | returned (claimed : List KeyPackageRow)
  | inserting (userId deviceId : Uuid) (packages : List Bytes)
  | published
  | failed (error : ServerError)
  deriving DecidableEq

namespace PackageTask

def claimed : PackageTask → List KeyPackageRow
  | .selecting _ claimed => claimed
  | .consuming _ _ claimed => claimed
  | .returned claimed => claimed
  | _ => []

def selected : PackageTask → Option KeyPackageRow
  | .consuming row _ _ => some row
  | _ => none

def held (task : PackageTask) : List Uuid :=
  task.claimed.map (·.id) ++ (task.selected.map (·.id)).toList

end PackageTask

/-- What a statement draws: the id and the time of a new row, and the choice
among equally old packages. -/
structure PackageDraw where
  id : Uuid
  now : Int
  preferred : Uuid

abbrev Packages := Tasks.Pool Store PackageTask

abbrev PackageEvent := Tasks.Event PackageCall PackageDraw

namespace Packages

/-- `select` on SQLite, and the one statement that also marks on Postgres. -/
def select (backend : Backend) (store : Store) (row : KeyPackageRow)
    (rest : List Uuid) (claimed : List KeyPackageRow) : Store × PackageTask :=
  match backend with
  | .sqlite => (store, .consuming row rest claimed)
  | .postgres => (store.consume row.id, .selecting rest (claimed ++ [row]))

def advance (backend : Backend) (store : Store) (task : PackageTask)
    (draw : PackageDraw) : Store × PackageTask :=
  match task with
  | .listing userId => (store, .selecting (store.unconsumedDevices userId) [])
  | .selecting [] claimed => (store, .returned claimed)
  | .selecting (device :: rest) claimed =>
      match store.oldestUnconsumed device draw.preferred with
      | some row => select backend store row rest claimed
      | none => (store, .selecting rest claimed)
  | .consuming row rest claimed =>
      (store.consume row.id, .selecting rest (claimed ++ [row]))
  | .inserting _ deviceId [] => (store.capKeyPackages deviceId, .published)
  | .inserting userId deviceId (package :: rest) =>
      Tasks.turn
        (Store.insertKeyPackage
          ⟨draw.id, userId, deviceId, package, false, draw.now⟩)
        (fun _ => .inserting userId deviceId rest) .failed store
  | .returned _ | .published | .failed _ => (store, task)

def enter : PackageCall → PackageTask
  | .claim userId => .listing userId
  | .publish userId deviceId packages => .inserting userId deviceId packages

def machine (backend : Backend) :
    Tasks.Machine Store PackageCall PackageTask PackageDraw where
  enter := enter
  advance := advance backend

/-- No package is returned by two claims. -/
def HandedOnce (pool : Packages) : Prop :=
  ∀ (first second : ℕ) (one other : List KeyPackageRow), first ≠ second →
    pool.tasks[first]? = some (.returned one) →
    pool.tasks[second]? = some (.returned other) →
    ∀ row ∈ one, ∀ another ∈ other, row.id ≠ another.id

/-- The package of the next `select`, if the task is about to make one. -/
def nextSelected (store : Store) (draw : PackageDraw) :
    PackageTask → Option KeyPackageRow
  | .selecting (device :: _) _ => store.oldestUnconsumed device draw.preferred
  | _ => none

def inserts : PackageTask → Bool
  | .inserting _ _ (_ :: _) => true
  | _ => false

/-- A new row gets an id that no claim has met. -/
def FreshIds (pool : Packages) : PackageEvent → Prop
  | .start _ => True
  | .turn index draw => ∀ task ∈ pool.tasks[index]?, inserts task = true →
      ∀ other ∈ pool.tasks, draw.id ∉ other.held

/-- No claim selects a package that another claim has selected and not marked
yet. -/
def Apart (pool : Packages) : PackageEvent → Prop
  | .start _ => True
  | .turn index draw => ∀ task ∈ pool.tasks[index]?,
      ∀ row ∈ nextSelected pool.shared draw task,
      ∀ other ∈ pool.tasks, ∀ selected ∈ other.selected,
        selected.id ≠ row.id

def Serial (pool : Packages) (event : PackageEvent) : Prop :=
  FreshIds pool event ∧ Apart pool event

instance (pool : Packages) (event : PackageEvent) :
    Decidable (FreshIds pool event) :=
  match event with
  | .start _ => inferInstanceAs (Decidable True)
  | .turn index draw =>
      inferInstanceAs (Decidable (∀ task ∈ pool.tasks[index]?,
        inserts task = true → ∀ other ∈ pool.tasks, draw.id ∉ other.held))

instance (pool : Packages) (event : PackageEvent) :
    Decidable (Apart pool event) :=
  match event with
  | .start _ => inferInstanceAs (Decidable True)
  | .turn index draw =>
      inferInstanceAs (Decidable (∀ task ∈ pool.tasks[index]?,
        ∀ row ∈ nextSelected pool.shared draw task,
        ∀ other ∈ pool.tasks, ∀ selected ∈ other.selected,
          selected.id ≠ row.id))

instance (pool : Packages) (event : PackageEvent) :
    Decidable (Serial pool event) :=
  inferInstanceAs (Decidable (FreshIds pool event ∧ Apart pool event))

structure Accounted (pool : Packages) : Prop where
  marked : ∀ (index : ℕ) (task : PackageTask),
    pool.tasks[index]? = some task → ∀ row ∈ task.claimed,
    ∀ other ∈ pool.shared.unconsumed, other.id ≠ row.id
  disjoint : ∀ (first second : ℕ) (one other : PackageTask),
    first ≠ second → pool.tasks[first]? = some one →
    pool.tasks[second]? = some other → ∀ id ∈ one.held, id ∉ other.held

private theorem Accounted.handedOnce {pool : Packages}
    (accounted : Accounted pool) :
    HandedOnce pool := by
  intro first second one other different stored also row listed another
    alsoListed same
  apply accounted.disjoint first second _ _ different stored also row.id
  · exact List.mem_append_left _ (List.mem_map_of_mem listed)
  · rw [same]
    exact List.mem_append_left _ (List.mem_map_of_mem alsoListed)

private theorem held_enter (call : PackageCall) : (enter call).held = [] := by
  cases call <;> rfl

theorem Accounted.started {pool : Packages} (accounted : Accounted pool)
    (backend : Backend) (call : PackageCall) :
    Accounted ((machine backend).started pool call) where
  marked := by
    intro index task stored row claimed
    rcases Slots.append_cases stored with old | ⟨_, rfl⟩
    · exact accounted.marked index task old row claimed
    · cases call <;> cases claimed
  disjoint := by
    intro first second one other different stored also id held alsoHeld
    rcases Slots.append_cases stored with old | ⟨_, rfl⟩
    · rcases Slots.append_cases also with alsoOld | ⟨_, rfl⟩
      · exact accounted.disjoint first second one other different old alsoOld
          id held alsoHeld
      · rw [machine, held_enter] at alsoHeld
        cases alsoHeld
    · rw [machine, held_enter] at held
      cases held

section Turns

variable {pool : Packages} {index : ℕ} {old new : PackageTask} {store : Store}

/-- A turn keeps the account when what it claims is marked, when rows that
become unclaimed are new, and when what it picks nobody else has picked. -/
theorem Accounted.settled (accounted : Accounted pool)
    (found : pool.tasks[index]? = some old)
    (others : ∀ other ∈ pool.tasks, ∀ row ∈ other.claimed,
      ∀ left ∈ store.unconsumed, left ∈ pool.shared.unconsumed ∨
        left.id ≠ row.id)
    (own : ∀ row ∈ new.claimed, ∀ left ∈ store.unconsumed,
      left.id ≠ row.id)
    (picks : ∀ id ∈ new.held, id ∈ old.held ∨
      ∀ (place : ℕ) (other : PackageTask), place ≠ index →
        pool.tasks[place]? = some other → id ∉ other.held) :
    Accounted (pool.settle index (store, new)) where
  marked := by
    intro place task stored row claimed left leftListed
    rcases Slots.set_cases found stored with ⟨_, rfl⟩ | ⟨_, kept⟩
    · exact own row claimed left leftListed
    · rcases others task (List.mem_of_getElem? kept) row claimed left
        leftListed with before | different
      · exact accounted.marked place task kept row claimed left before
      · exact different
  disjoint := by
    -- only pairs with the task that took the turn are new
    have apart : ∀ (place : ℕ) (other : PackageTask), place ≠ index →
        pool.tasks[place]? = some other → ∀ id ∈ new.held,
        id ∉ other.held := by
      intro place other different stored id held
      rcases picks id held with before | unmet
      · exact accounted.disjoint index place old other different.symm found
          stored id before
      · exact unmet place other different stored
    intro first second one other different stored also id held alsoHeld
    rcases Slots.set_cases found stored with ⟨rfl, rfl⟩ | ⟨away, kept⟩
    · rcases Slots.set_cases found also with ⟨rfl, _⟩ | ⟨alsoAway, alsoKept⟩
      · exact different rfl
      · exact apart second other alsoAway alsoKept id held alsoHeld
    · rcases Slots.set_cases found also with ⟨rfl, rfl⟩ | ⟨_, alsoKept⟩
      · exact apart first one away kept id alsoHeld held
      · exact accounted.disjoint first second one other different kept
          alsoKept id held alsoHeld

theorem Accounted.moved (accounted : Accounted pool)
    (found : pool.tasks[index]? = some old)
    (sameClaims : new.claimed = old.claimed)
    (samePicks : new.held = old.held) :
    Accounted (pool.settle index (pool.shared, new)) := by
  apply accounted.settled found
  · exact fun _ _ _ _ left listed => .inl listed
  · intro row claimed
    rw [sameClaims] at claimed
    exact accounted.marked index old found row claimed
  · intro id held
    rw [samePicks] at held
    exact .inl held

theorem Accounted.unheld (accounted : Accounted pool) {row : KeyPackageRow}
    (listed : row ∈ pool.shared.unconsumed)
    (apart : ∀ other ∈ pool.tasks, ∀ selected ∈ other.selected,
      selected.id ≠ row.id)
    {place : ℕ} {other : PackageTask}
    (stored : pool.tasks[place]? = some other) : row.id ∉ other.held := by
  intro held
  rcases List.mem_append.mp held with claimed | selected
  · obtain ⟨taken, takenListed, same⟩ := List.mem_map.mp claimed
    exact accounted.marked place other stored taken takenListed row listed
      same.symm
  · cases chosen : other.selected with
    | none =>
        rw [chosen] at selected
        cases selected
    | some taken =>
        rw [chosen] at selected
        exact apart other (List.mem_of_getElem? stored) taken chosen
          (List.mem_singleton.mp selected).symm

theorem Accounted.consumed (accounted : Accounted pool)
    (found : pool.tasks[index]? = some old) {row : KeyPackageRow}
    {rest : List Uuid}
    (picked : row.id ∈ old.held ∨
      ∀ (place : ℕ) (other : PackageTask), place ≠ index →
        pool.tasks[place]? = some other → row.id ∉ other.held) :
    Accounted (pool.settle index (pool.shared.consume row.id,
      .selecting rest (old.claimed ++ [row]))) := by
  apply accounted.settled found
  · intro _ _ _ _ left listed
    exact .inl (Store.mem_unconsumed_consume listed).1
  · intro claimed listed left leftListed
    obtain ⟨before, different⟩ := Store.mem_unconsumed_consume leftListed
    rcases List.mem_append.mp listed with earlier | marked
    · exact accounted.marked index old found claimed earlier left before
    · rw [List.mem_singleton.mp marked]
      exact different
  · intro id held
    simp only [PackageTask.held, PackageTask.claimed, PackageTask.selected,
      List.map_append, List.map_cons, List.map_nil, Option.map_none,
      Option.toList_none, List.append_nil] at held
    rcases List.mem_append.mp held with earlier | marked
    · exact .inl (List.mem_append_left _ earlier)
    · rw [List.mem_singleton.mp marked]
      exact picked

private theorem Accounted.selects (accounted : Accounted pool) {device : Uuid}
    {rest : List Uuid} {claimed : List KeyPackageRow}
    (found : pool.tasks[index]? = some (.selecting (device :: rest) claimed))
    {row : KeyPackageRow}
    (unheld : ∀ (place : ℕ) (other : PackageTask), place ≠ index →
      pool.tasks[place]? = some other → row.id ∉ other.held) :
    Accounted (pool.settle index
      (pool.shared, .consuming row rest claimed)) := by
  apply accounted.settled found
  · exact fun _ _ _ _ left listed => .inl listed
  · have before := accounted.marked index _ found
    exact before
  · intro id held
    rcases List.mem_append.mp held with earlier | selected
    · exact .inl (List.mem_append_left _ earlier)
    · rw [List.mem_singleton.mp selected]
      exact .inr unheld

theorem Accounted.inserted (accounted : Accounted pool)
    (found : pool.tasks[index]? = some old) {row : KeyPackageRow}
    (fresh : ∀ other ∈ pool.tasks, row.id ∉ other.held)
    (grown : ∀ left ∈ store.unconsumed,
      left ∈ pool.shared.unconsumed ∨ left = row)
    (idle : new.held = []) : Accounted (pool.settle index (store, new)) := by
  have none : new.claimed = [] := by
    have empty := (List.append_eq_nil_iff.mp idle).1
    exact List.map_eq_nil_iff.mp empty
  apply accounted.settled found
  · intro other member claimed listed left leftListed
    rcases grown left leftListed with before | rfl
    · exact .inl before
    · right
      intro same
      apply fresh other member
      rw [same]
      exact List.mem_append_left _ (List.mem_map_of_mem listed)
  · intro claimed listed
    rw [none] at listed
    cases listed
  · intro id held
    rw [idle] at held
    cases held

theorem Accounted.turned (accounted : Accounted pool) (backend : Backend)
    (found : pool.tasks[index]? = some old) (draw : PackageDraw)
    (fresh : FreshIds pool (.turn index draw))
    (apart : Apart pool (.turn index draw)) :
    Accounted ((machine backend).turned pool index old draw) := by
  cases old with
  | listing userId => exact accounted.moved found rfl rfl
  | selecting devices claimed =>
      cases devices with
      | nil => exact accounted.moved found rfl rfl
      | cons device rest =>
          simp only [Tasks.Machine.turned, machine, advance]
          cases chosen :
              pool.shared.oldestUnconsumed device draw.preferred with
          | none => exact accounted.moved found rfl rfl
          | some row =>
              have unheld : ∀ (place : ℕ) (other : PackageTask),
                  place ≠ index → pool.tasks[place]? = some other →
                  row.id ∉ other.held := by
                intro place other _ stored
                exact accounted.unheld (Store.oldestUnconsumed_mem chosen)
                  (apart _ found row chosen) stored
              cases backend with
              | sqlite => exact accounted.selects found unheld
              | postgres => exact accounted.consumed found (.inr unheld)
  | consuming row rest claimed =>
      exact accounted.consumed found (.inl (by simp [PackageTask.held,
        PackageTask.selected]))
  | returned claimed => exact accounted.moved found rfl rfl
  | inserting userId deviceId packages =>
      cases packages with
      | nil =>
          apply accounted.settled found
          · exact fun _ _ _ _ left listed =>
              .inl (Store.mem_unconsumed_cap listed)
          · intro row claimed
            cases claimed
          · intro id held
            cases held
      | cons package rest =>
          apply Tasks.turn_post
            (fun outcome => Accounted (pool.settle index outcome))
            (Store.insertKeyPackage_post
              ⟨draw.id, userId, deviceId, package, false, draw.now⟩
              pool.shared)
          · intro _ store grown
            exact accounted.inserted found (fresh _ found rfl) grown rfl
          · intro _ store grown
            exact accounted.inserted found (fresh _ found rfl) grown rfl
  | published => exact accounted.moved found rfl rfl
  | failed error => exact accounted.moved found rfl rfl

end Turns

private theorem accounted_boot (store : Store) :
    Accounted { shared := store } where
  marked := by
    intro index task stored
    cases stored
  disjoint := by
    intro first second one other _ stored
    cases stored

/-- Claims that keep apart between a selection and its mark hand out every
package once. -/
theorem handedOnce_of_serial (store : Store) (events : List PackageEvent)
    (serial : EventRun.Each (machine .sqlite).step Serial
      { shared := store } events) :
    EventRun.Always (machine .sqlite).step HandedOnce
      { shared := store } events := by
  have accounted := Tasks.Machine.always_of_turns
    (fun _ call holds _ => Accounted.started holds .sqlite call)
    (fun _ _ _ draw found holds serial =>
      holds.turned .sqlite found draw serial.1 serial.2)
    (accounted_boot store) serial
  exact accounted.imp fun _ holds => holds.handedOnce

/-! On Postgres no claim is ever between the two, so the claims keep apart in
every run. -/

def NoneSelected (pool : Packages) : Prop :=
  ∀ task ∈ pool.tasks, task.selected = none

theorem NoneSelected.apart {pool : Packages} (none : NoneSelected pool)
    (event : PackageEvent) : Apart pool event := by
  cases event with
  | start call => trivial
  | turn index draw =>
      intro _ _ _ _ other member selected chosen
      rw [none other member] at chosen
      cases chosen

private theorem selected_enter (call : PackageCall) :
    (enter call).selected = none := by
  cases call <;> rfl

private theorem selected_advance (store : Store) (task : PackageTask)
    (draw : PackageDraw) :
    (advance .postgres store task draw).2.selected = none := by
  cases task with
  | listing userId => rfl
  | selecting devices claimed =>
      cases devices with
      | nil => rfl
      | cons device rest =>
          simp only [advance]
          cases store.oldestUnconsumed device draw.preferred with
          | none => rfl
          | some row => rfl
  | consuming row rest claimed => rfl
  | returned claimed => rfl
  | inserting userId deviceId packages =>
      cases packages with
      | nil => rfl
      | cons package rest =>
          simp only [advance, Tasks.turn]
          split <;> rfl
  | published => rfl
  | failed error => rfl

structure Atomic (pool : Packages) : Prop where
  accounted : Accounted pool
  noneSelected : NoneSelected pool

theorem Atomic.started {pool : Packages} (atomic : Atomic pool)
    (call : PackageCall) :
    Atomic ((machine .postgres).started pool call) where
  accounted := atomic.accounted.started .postgres call
  noneSelected := by
    intro task member
    rcases List.mem_append.mp member with old | created
    · exact atomic.noneSelected task old
    · rw [List.mem_singleton.mp created]
      exact selected_enter call

theorem Atomic.turned {pool : Packages} (atomic : Atomic pool) {index : ℕ}
    {task : PackageTask} (found : pool.tasks[index]? = some task)
    (draw : PackageDraw) (fresh : FreshIds pool (.turn index draw)) :
    Atomic ((machine .postgres).turned pool index task draw) where
  accounted := atomic.accounted.turned .postgres found draw fresh
    (atomic.noneSelected.apart _)
  noneSelected := by
    intro other member
    rcases List.mem_or_eq_of_mem_set member with old | rfl
    · exact atomic.noneSelected other old
    · exact selected_advance pool.shared task draw

theorem postgres_handedOnce (store : Store) (events : List PackageEvent)
    (fresh : EventRun.Each (machine .postgres).step FreshIds
      { shared := store } events) :
    EventRun.Always (machine .postgres).step HandedOnce
      { shared := store } events := by
  have initially : Atomic { shared := store } :=
    ⟨accounted_boot store, by rintro task ⟨⟩⟩
  have atomic := Tasks.Machine.always_of_turns
    (fun _ call holds _ => Atomic.started holds call)
    (fun _ _ _ draw found holds fresh => holds.turned found draw fresh)
    initially fresh
  exact atomic.imp fun _ holds => holds.accounted.handedOnce

def stockedStore : Store where
  users := [⟨1, "ada", "Ada", "", false, false, none, ""⟩]
  devices := [⟨10, 1, "desk", none⟩]
  keyPackages := [
    ⟨100, 1, 10, [7], false, 1000⟩, ⟨101, 1, 10, [8], false, 1001⟩]

/-- One claim after the other, while the device publishes a third package. -/
def queuedClaims : List PackageEvent :=
  let draw : PackageDraw := ⟨102, 1002, 0⟩
  [.start (.claim 1), .turn 0 draw, .turn 0 draw, .start (.publish 1 10 [[9]]),
    .turn 1 draw, .turn 0 draw, .turn 0 draw, .turn 1 draw, .start (.claim 1),
    .turn 2 draw, .turn 2 draw, .turn 2 draw, .turn 2 draw]

def racingClaims : List PackageEvent :=
  let draw : PackageDraw := ⟨102, 1002, 0⟩
  [.start (.claim 1), .start (.claim 1), .turn 0 draw, .turn 1 draw,
    .turn 0 draw, .turn 1 draw, .turn 0 draw, .turn 1 draw, .turn 0 draw,
    .turn 1 draw]

theorem queuedClaims_handedOnce :
    EventRun.Always (machine .sqlite).step HandedOnce
      { shared := stockedStore } queuedClaims :=
  handedOnce_of_serial stockedStore queuedClaims (by decide +kernel)

theorem racingClaims_handedTwice :
    ¬ EventRun.Always (machine .sqlite).step HandedOnce
      { shared := stockedStore } racingClaims := by
  intro always
  let row : KeyPackageRow := ⟨100, 1, 10, [7], false, 1000⟩
  have once := always.last 0 1 [row] [row] (by decide) (by decide) (by decide)
  exact once row (by simp) row (by simp) rfl

end Packages

end Accord
