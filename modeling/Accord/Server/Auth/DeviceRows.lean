import Accord.Library.Tasks
import Accord.Server.Auth.Service

/-! Sessions that are issued and devices that are revoked, store call by store
call.  A session looks for a device of its name in one call and creates it in
another. -/

namespace Accord

/-- A session is taken from where its credentials have been checked, be it by
password or by key. -/
inductive DeviceCall where
  | session (user : UserRow) (deviceName : String)
  | revokeDevice (token : Option Claims) (deviceId : Option IdText)

inductive DeviceTask where
  | opening (user : UserRow) (deviceName : String)
  | finding (user : UserRow) (name : String)
  | creating (user : UserRow) (name : String)
  | joining (user : UserRow) (name : String) (deviceId : Uuid)
  | storing (user : UserRow) (name : String) (deviceId : Uuid)
  | issued (user : UserRow) (name : String) (response : AuthSvc.LoginResponse)
  | revoking (token : Option Claims) (deviceId : Option IdText)
  | revoked
  | failed (status : Status)

/-- Whose session, on which install, with which device. -/
structure InstallSession where
  userId : Uuid
  name : String
  deviceId : Uuid
  deriving DecidableEq

/-- The session of a task, from the moment it has a device. -/
def DeviceTask.session : DeviceTask → Option InstallSession
  | .joining user name deviceId => some ⟨user.id, name, deviceId⟩
  | .storing user name deviceId => some ⟨user.id, name, deviceId⟩
  | .issued user name response => some ⟨user.id, name, response.deviceId⟩
  | _ => none

def DeviceTask.creates : DeviceTask → Option (UserRow × String)
  | .creating user name => some (user, name)
  | _ => none

abbrev DeviceRows := Tasks.Pool Store DeviceTask

abbrev DeviceEvent := Tasks.Event DeviceCall AuthSvc.Mint

def DeviceRow.activeFor (userId : Uuid) (name : String) (row : DeviceRow) :
    Bool :=
  row.userId == userId && row.name == name && row.revokedAt.isNone

namespace Store

/-- A user has at most one active device of a name. -/
def OneActive (store : Store) : Prop :=
  ∀ userId name, store.devices.countP (DeviceRow.activeFor userId name) ≤ 1

def HasRow (store : Store) (session : InstallSession) : Prop :=
  ∃ row ∈ store.devices, row.id = session.deviceId ∧
    row.userId = session.userId ∧ row.name = session.name

/-- Rows are added and revoked, and none is taken away. -/
def KeepsRows (before after : Store) : Prop :=
  ∀ session, before.HasRow session → after.HasRow session

variable {store : Store} {userId deviceId : Uuid} {name : String}

private theorem foldl_newest {rows : List DeviceRow} {newest : Option Uuid}
    (found : rows.foldl (fun newest device =>
      match newest with
      | some id => if id.toNat < device.id.toNat then some device.id else newest
      | none => some device.id) newest = some deviceId) :
    newest = some deviceId ∨ ∃ row ∈ rows, row.id = deviceId := by
  induction rows generalizing newest with
  | nil => exact .inl found
  | cons row rows induction =>
      rw [List.foldl_cons] at found
      rcases induction found with here | ⟨other, member, same⟩
      · cases newest with
        | none => exact .inr ⟨row, List.mem_cons_self, Option.some.inj here⟩
        | some id =>
            simp only at here
            split at here
            · exact .inr ⟨row, List.mem_cons_self, Option.some.inj here⟩
            · exact .inl here
      · exact .inr ⟨other, List.mem_cons_of_mem _ member, same⟩

theorem hasRow_of_findDevice
    (found : store.findDevice userId name = some deviceId) :
    store.HasRow ⟨userId, name, deviceId⟩ := by
  rcases foldl_newest found with none | ⟨row, member, same⟩
  · cases none
  · obtain ⟨present, active⟩ := List.mem_filter.mp member
    simp only [Bool.and_eq_true, beq_iff_eq] at active
    exact ⟨row, present, same, active.1.1, active.1.2⟩

theorem OneActive.eq (one : store.OneActive) {first second : DeviceRow}
    (inFirst : first ∈ store.devices)
    (inSecond : second ∈ store.devices)
    (active : first.activeFor userId name = true)
    (again : second.activeFor userId name = true) : first = second := by
  have few := one userId name
  rw [List.countP_eq_length_filter] at few
  have memberFirst := List.mem_filter.mpr ⟨inFirst, active⟩
  have memberSecond := List.mem_filter.mpr ⟨inSecond, again⟩
  generalize store.devices.filter (DeviceRow.activeFor userId name) = rows
    at few memberFirst memberSecond
  cases rows with
  | nil => cases memberFirst
  | cons row rest =>
      cases rest with
      | nil =>
          rw [List.mem_singleton.mp memberFirst,
            List.mem_singleton.mp memberSecond]
      | cons _ _ => simp at few

private theorem keepsRows_of_devices {after : Store}
    (same : after.devices = store.devices) : store.KeepsRows after := by
  intro session known
  unfold HasRow
  rw [same]
  exact known

theorem OneActive.of_devices {after : Store} (one : store.OneActive)
    (same : after.devices = store.devices) : after.OneActive := by
  intro userId name
  rw [same]
  exact one userId name

def addDevice (store : Store) (row : DeviceRow) : Store :=
  { store with devices := store.devices ++ [row] }

private theorem createDevice_eq (fresh : Uuid) :
    createDevice fresh userId name store =
      if store.referencesHold (store.hasUser userId) then
        (.ok fresh, store.addDevice ⟨fresh, userId, name, none⟩)
      else (.error violation, store) := by
  simp only [createDevice, Effect.check_bind]
  rfl

private theorem keepsRows_addDevice (row : DeviceRow) :
    store.KeepsRows (store.addDevice row) := by
  rintro session ⟨known, member, named⟩
  exact ⟨known, List.mem_append_left _ member, named⟩

private theorem hasRow_addDevice (row : DeviceRow) :
    (store.addDevice row).HasRow ⟨row.userId, row.name, row.id⟩ :=
  ⟨row, List.mem_append_right _ (List.mem_singleton.mpr rfl), rfl, rfl, rfl⟩

/-- There is one active row of the name afterwards exactly if there was none
before. -/
private theorem oneActive_addDevice_iff (one : store.OneActive) (fresh : Uuid) :
    (store.addDevice ⟨fresh, userId, name, none⟩).OneActive ↔
      ∀ row ∈ store.devices, row.activeFor userId name = false := by
  have counted : ∀ other title,
      (store.addDevice ⟨fresh, userId, name, none⟩).devices.countP
        (DeviceRow.activeFor other title) =
      store.devices.countP (DeviceRow.activeFor other title) +
        if userId = other ∧ name = title then 1 else 0 := by
    intro other title
    simp [addDevice, List.countP_append, DeviceRow.activeFor]
  constructor
  · intro after row member
    have few := after userId name
    rw [counted, if_pos ⟨rfl, rfl⟩] at few
    have none : store.devices.countP (DeviceRow.activeFor userId name) = 0 := by
      omega
    exact Bool.eq_false_iff.mpr (List.countP_eq_zero.mp none row member)
  · intro none other title
    rw [counted]
    split
    · rename_i same
      obtain ⟨rfl, rfl⟩ := same
      have empty : store.devices.countP
          (DeviceRow.activeFor userId name) = 0 := by
        rw [List.countP_eq_zero]
        intro row member
        rw [none row member]
        exact Bool.false_ne_true
      rw [empty]
    · exact one other title

section Revoke

variable (userId deviceId : Uuid) (now : Int)

private theorem keepsRows_revokeDevice :
    store.KeepsRows (store.revokeDevice userId deviceId now) := by
  rintro session ⟨known, member, named⟩
  refine ⟨_, List.mem_map_of_mem member, ?_⟩
  split
  · exact named
  · exact named

theorem OneActive.revokeDevice (one : store.OneActive) :
    (store.revokeDevice userId deviceId now).OneActive := by
  intro other title
  refine Nat.le_trans ?_ (one other title)
  unfold Store.revokeDevice
  rw [List.countP_map]
  apply List.countP_mono_left
  intro row _ active
  rw [Function.comp_apply] at active
  split at active
  · simp [DeviceRow.activeFor] at active
  · exact active

end Revoke

end Store

namespace DeviceRows

open AuthSvc

def enter : DeviceCall → DeviceTask
  | .session user deviceName => .opening user deviceName
  | .revokeDevice token deviceId => .revoking token deviceId

def advance (store : Store) (task : DeviceTask) (mint : Mint) :
    Store × DeviceTask :=
  match task with
  | .opening user deviceName =>
      Tasks.turn (refuseBanned user.id)
        (fun _ => .finding user (sessionDeviceName deviceName)) .failed store
  | .finding user name =>
      (store, match store.findDevice user.id name with
        | some deviceId => .joining user name deviceId
        | none => .creating user name)
  | .creating user name =>
      Tasks.turn (orStatus (Store.createDevice mint.id user.id name))
        (.joining user name) .failed store
  | .joining user name deviceId =>
      Tasks.turn (joinDefaultChannel user)
        (fun _ => .storing user name deviceId) .failed store
  | .storing user name deviceId =>
      Tasks.turn (orStatus (Store.storeRefreshToken
          ⟨mint.token, user.id, deviceId, mint.now + refreshTokenTtl⟩))
        (fun _ => .issued user name
          ⟨⟨user.id, deviceId⟩, mint.token, user.id, deviceId⟩) .failed store
  | .revoking token deviceId =>
      Tasks.turn (revokeDevice mint.now token deviceId)
        (fun _ => .revoked) .failed store
  | .issued _ _ _ | .revoked | .failed _ => (store, task)

def machine : Tasks.Machine Store DeviceCall DeviceTask Mint where
  enter := enter
  advance := advance

/-! Undisturbed, the turns of a session add up to the login. -/

section Alone

open Tasks.Machine

variable (mint : Mint) (store : Store) (user : UserRow)

theorem ends_joining (name : String) (deviceId : Uuid) :
    Ends machine mint store (.joining user name deviceId)
      ((do
        joinDefaultChannel user
        orStatus (Store.storeRefreshToken
          ⟨mint.token, user.id, deviceId, mint.now + refreshTokenTtl⟩)
        return ⟨⟨user.id, deviceId⟩, mint.token, user.id, deviceId⟩ :
          Effect Store Status LoginResponse) store).2 := by
  apply ends_turn rfl _ (fun _ _ => rfl)
  intro _ after _
  rw [Effect.bind_pure_state]
  exact ends_last rfl (fun _ _ => rfl) (fun _ _ => rfl)

theorem ends_issueSession (deviceName : String) :
    Ends machine mint store (.finding user (sessionDeviceName deviceName))
      (issueSession mint user deviceName store).2 := by
  have viewed : (Effect.read fun store : Store =>
      store.findDevice user.id (sessionDeviceName deviceName) :
        Effect Store Status (Option Uuid)) store =
          (.ok (store.findDevice user.id (sessionDeviceName deviceName)),
            store) := rfl
  apply Ends.turned
  simp only [machine, advance, issueSession, findOrCreateDevice, bind_assoc]
  rw [Effect.bind_of_ok viewed]
  cases store.findDevice user.id (sessionDeviceName deviceName) with
  | some deviceId => exact ends_joining mint store user _ deviceId
  | none =>
      apply ends_turn rfl _ (fun _ _ => rfl)
      intro deviceId after _
      exact ends_joining mint after user _ deviceId

theorem ends_session (deviceName : String) :
    Ends machine mint store (enter (.session user deviceName))
      ((do
        refuseBanned user.id
        issueSession mint user deviceName :
          Effect Store Status LoginResponse) store).2 := by
  apply ends_turn rfl _ (fun _ _ => rfl)
  intro _ after _
  exact ends_issueSession mint after user deviceName

end Alone

/-! One device a name. -/

/-- A user has one active device of a name, and the sessions of one install
share it as long as it is not revoked. -/
structure Reused (pool : DeviceRows) : Prop where
  one : pool.shared.OneActive
  shared : ∀ first ∈ pool.tasks, ∀ second ∈ pool.tasks,
    ∀ here ∈ first.session, ∀ there ∈ second.session,
      here.userId = there.userId → here.name = there.name →
      pool.shared.isRevoked here.deviceId = false →
      pool.shared.isRevoked there.deviceId = false →
      here.deviceId = there.deviceId

/-- A session that creates a device is the first to have one of its name. -/
def CreatesNew (pool : DeviceRows) : DeviceEvent → Prop
  | .start _ => True
  | .turn index _ => ∀ task ∈ pool.tasks[index]?, ∀ made ∈ task.creates,
      pool.shared.referencesHold (pool.shared.hasUser made.1.id) = true →
      ∀ row ∈ pool.shared.devices, row.activeFor made.1.id made.2 = false

instance (pool : DeviceRows) (event : DeviceEvent) :
    Decidable (CreatesNew pool event) :=
  match event with
  | .start _ => inferInstanceAs (Decidable True)
  | .turn index _ =>
      inferInstanceAs (Decidable (∀ task ∈ pool.tasks[index]?,
        ∀ made ∈ task.creates,
        pool.shared.referencesHold (pool.shared.hasUser made.1.id) = true →
        ∀ row ∈ pool.shared.devices, row.activeFor made.1.id made.2 = false))

def Good (store : Store) (task : DeviceTask) : Prop :=
  ∀ session ∈ task.session, store.HasRow session

/-- What every turn but that of a second creation does. -/
structure Moves (store : Store) (outcome : Store × DeviceTask) : Prop where
  one : outcome.1.OneActive
  rows : store.KeepsRows outcome.1
  own : Good outcome.1 outcome.2

section Moves

variable {store : Store}

private theorem moves_of_devices (one : store.OneActive)
    {outcome : Store × DeviceTask}
    (same : outcome.1.devices = store.devices)
    (own : Good store outcome.2) : Moves store outcome where
  one := one.of_devices same
  rows := Store.keepsRows_of_devices same
  own session member := Store.keepsRows_of_devices same session
    (own session member)

private theorem good_of_none {task : DeviceTask} (none : task.session = none) :
    Good store task := by
  intro session member
  rw [none] at member
  cases member

private theorem moves_turn {Value : Type} {effect : Effect Store Status Value}
    (one : store.OneActive)
    (kept : effect.Keeps fun after => after.devices = store.devices)
    {next : Value → DeviceTask} (own : ∀ value, Good store (next value)) :
    Moves store (Tasks.turn effect next .failed store) := by
  have posted : effect.Post store fun _ after =>
      after.devices = store.devices := kept store rfl
  apply Tasks.turn_post (Moves store) posted
  · intro value after same
    exact moves_of_devices one same (own value)
  · intro status after same
    exact moves_of_devices one same (good_of_none rfl)

private theorem keeps_devices_joinDefaultChannel (user : UserRow) :
    (joinDefaultChannel user).Keeps fun after =>
      after.devices = store.devices := by
  unfold joinDefaultChannel
  split
  · exact (Effect.readOnly_pure _).keeps
  · refine Effect.Keeps.attempt
      ((Effect.readOnly_check _ _).keeps.bind fun _ => ?_)
    apply Effect.keeps_update
    intro after same
    split
    · exact same
    · exact same

private theorem keeps_devices_storeRefreshToken (row : RefreshRow) :
    (orStatus (Store.storeRefreshToken row)).Keeps fun after =>
      after.devices = store.devices := by
  apply Effect.Keeps.mapError
  refine (Effect.readOnly_check _ _).keeps.bind fun _ => ?_
  refine (Effect.readOnly_check _ _).keeps.bind fun _ => ?_
  exact Effect.keeps_update fun _ same => same

private theorem advance_creating (user : UserRow) (name : String)
    (mint : Mint) :
    advance store (.creating user name) mint =
      if store.referencesHold (store.hasUser user.id) then
        (store.addDevice ⟨mint.id, user.id, name, none⟩,
          .joining user name mint.id)
      else (store, .failed Store.violation.toStatus) := by
  rw [advance.eq_def]
  dsimp only
  rw [orStatus, Tasks.turn_mapError, Tasks.turn, Store.createDevice_eq]
  cases store.referencesHold (store.hasUser user.id) with
  | true => rfl
  | false => rfl

private theorem moves_creating (one : store.OneActive) {user : UserRow}
    {name : String} (mint : Mint)
    (new : store.referencesHold (store.hasUser user.id) = true →
      ∀ row ∈ store.devices, row.activeFor user.id name = false) :
    Moves store (advance store (.creating user name) mint) := by
  rw [advance_creating]
  split
  · rename_i known
    refine ⟨?_, Store.keepsRows_addDevice _, ?_⟩
    · exact (Store.oneActive_addDevice_iff one mint.id).mpr (new known)
    · rintro session ⟨⟩
      exact Store.hasRow_addDevice ⟨mint.id, user.id, name, none⟩
  · exact moves_of_devices one rfl (good_of_none rfl)

def Grown (before after : Store) : Prop :=
  after.OneActive ∧ before.KeepsRows after

private theorem moves_revoking (one : store.OneActive) (token : Option Claims)
    (deviceId : Option IdText) (mint : Mint) :
    Moves store (advance store (.revoking token deviceId) mint) := by
  have kept : (revokeDevice mint.now token deviceId).Keeps (Grown store) := by
    apply keeps_revokeDevice
    intro after userId device now grown
    refine ⟨grown.1.revokeDevice userId device now, ?_⟩
    intro session known
    exact Store.keepsRows_revokeDevice userId device now session
      (grown.2 session known)
  have posted : (revokeDevice mint.now token deviceId).Post store
      fun _ after => Grown store after :=
    kept store ⟨one, fun _ known => known⟩
  apply Tasks.turn_post (Moves store) posted
  · intro _ after grown
    exact ⟨grown.1, grown.2, good_of_none rfl⟩
  · intro _ after grown
    exact ⟨grown.1, grown.2, good_of_none rfl⟩

theorem moves_advance (one : store.OneActive) {task : DeviceTask}
    (good : Good store task) (mint : Mint)
    (new : ∀ made ∈ task.creates,
      store.referencesHold (store.hasUser made.1.id) = true →
      ∀ row ∈ store.devices, row.activeFor made.1.id made.2 = false) :
    Moves store (advance store task mint) := by
  cases task with
  | opening user deviceName =>
      exact moves_turn one (readOnly_refuseBanned _).keeps
        fun _ => good_of_none rfl
  | finding user name =>
      apply moves_of_devices one rfl
      simp only [advance]
      cases found : store.findDevice user.id name with
      | none => exact good_of_none rfl
      | some deviceId =>
          rintro session ⟨⟩
          exact Store.hasRow_of_findDevice found
  | creating user name => exact moves_creating one mint (new (user, name) rfl)
  | joining user name deviceId =>
      exact moves_turn one (keeps_devices_joinDefaultChannel user)
        fun _ => good
  | storing user name deviceId =>
      exact moves_turn one (keeps_devices_storeRefreshToken _)
        fun _ => good
  | issued user name response => exact moves_of_devices one rfl good
  | revoking token deviceId => exact moves_revoking one token deviceId mint
  | revoked => exact moves_of_devices one rfl good
  | failed status => exact moves_of_devices one rfl good

end Moves

abbrev Sound (pool : DeviceRows) : Prop := pool.Suits Store.OneActive Good

theorem Sound.step {pool : DeviceRows} (sound : Sound pool)
    {event : DeviceEvent} (new : CreatesNew pool event) :
    Sound (machine.step pool event) := by
  apply Tasks.Pool.Suits.step sound
  · intro call _
    cases call with
    | session user deviceName => exact good_of_none rfl
    | revokeDevice token deviceId => exact good_of_none rfl
  · rintro index task mint rfl found good
    have moves := moves_advance sound.shared good mint (new task found)
    exact {
      state := moves.one
      own := moves.own
      others := fun other held session member =>
        moves.rows session (held session member) }

theorem Sound.reused {pool : DeviceRows} (sound : Sound pool) :
    Reused pool where
  one := sound.shared
  shared := by
    intro first inFirst second inSecond here mine there yours sameUser
      sameName liveHere liveThere
    obtain ⟨row, member, rowId, rowUser, rowName⟩ :=
      sound.tasks first inFirst here mine
    obtain ⟨other, again, otherId, otherUser, otherName⟩ :=
      sound.tasks second inSecond there yours
    have active : ∀ {row : DeviceRow} {session : InstallSession},
        row ∈ pool.shared.devices → row.id = session.deviceId →
        row.userId = session.userId → row.name = session.name →
        pool.shared.isRevoked session.deviceId = false →
        row.activeFor session.userId session.name = true := by
      intro row session member sameId sameUser sameName live
      have unrevoked : row.revokedAt.isSome = false := by
        rw [← sameId] at live
        by_contra gone
        rw [Bool.not_eq_false] at gone
        exact absurd (Store.isRevoked_iff.mpr ⟨row, member, rfl, gone⟩)
          (by rw [live]; exact Bool.false_ne_true)
      simp [DeviceRow.activeFor, sameUser, sameName,
        Option.isSome_eq_false_iff.mp unrevoked]
    have activeRow := active member rowId rowUser rowName liveHere
    have activeOther := active again otherId otherUser otherName liveThere
    rw [sameUser, sameName] at activeRow
    rw [← rowId, ← otherId,
      sound.shared.eq member again activeRow activeOther]

private theorem not_reused_of_not_createsNew {pool : DeviceRows}
    (sound : Sound pool) {event : DeviceEvent}
    (late : ¬CreatesNew pool event) :
    ¬Reused (machine.step pool event) := by
  intro reused
  apply late
  cases event with
  | start call => trivial
  | turn index mint =>
      intro task found made creating known
      obtain ⟨user, name⟩ := made
      obtain rfl : task = .creating user name := by
        cases task <;> cases creating
        rfl
      have one := reused.one
      rw [Tasks.Machine.step_turn found] at one
      simp only [Tasks.Machine.turned, machine, Tasks.Pool.settle_shared,
        advance_creating, known, if_true] at one
      exact (Store.oneActive_addDevice_iff sound.shared mint.id).mp one

/-- Devices are reused throughout exactly the runs in which no session creates
a device after another one has done so since it looked. -/
theorem always_reused_iff (store : Store) (one : store.OneActive)
    (events : List DeviceEvent) :
    EventRun.Always machine.step Reused ⟨store, []⟩ events ↔
      EventRun.Each machine.step CreatesNew ⟨store, []⟩ events := by
  have initially : Sound ⟨store, []⟩ := ⟨one, nofun⟩
  apply EventRun.always_iff_each_of _ _ _ initially
  · intro pool sound
    exact sound.reused
  · intro pool event sound new
    exact sound.step new
  · intro pool event sound late
    exact not_reused_of_not_createsNew sound late

def ana : UserRow := ⟨1, "ana", "Ana", "", false, false, none, ""⟩

def drawn (id : Uuid) : Mint := ⟨0, id, id.text⟩

/-- Two logins of one install, one after the other, and a third after the
device is revoked. -/
def oneByOne : List DeviceEvent :=
  .start (.session ana "pc") ::
    List.replicate 5 (.turn 0 (drawn 10)) ++
  .start (.session ana " pc ") ::
    List.replicate 4 (.turn 1 (drawn 11)) ++
  .start (.revokeDevice (some ⟨1, 10⟩) (some (.uuid 10))) ::
    .turn 2 (drawn 12) ::
  .start (.session ana "pc") ::
    List.replicate 5 (.turn 3 (drawn 13))

theorem oneByOne_reused :
    EventRun.Always machine.step Reused ⟨{ users := [ana] }, []⟩ oneByOne :=
  (always_reused_iff { users := [ana] } (fun _ _ => Nat.zero_le _)
    oneByOne).mpr (by decide +kernel)

/-- Both look for the device before either creates it. -/
def atOnce : List DeviceEvent :=
  [.start (.session ana "pc"), .start (.session ana "pc"),
    .turn 0 (drawn 10), .turn 0 (drawn 10),
    .turn 1 (drawn 11), .turn 1 (drawn 11),
    .turn 0 (drawn 10), .turn 1 (drawn 11)]

theorem atOnce_split :
    ¬EventRun.Always machine.step Reused ⟨{ users := [ana] }, []⟩ atOnce := by
  intro always
  exact absurd (always.last.one 1 "pc") (by decide +kernel)

end DeviceRows

end Accord
