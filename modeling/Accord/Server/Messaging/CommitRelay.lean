import Accord.Server.Messaging.Mailbox
import Accord.Server.MlsRelay

/-! `SendCommit` and the streams, await by await.  A Commit is published once
its sender is found to be a member, and the Welcomes that come with it are
queued and published one after the other.  The bus is in-process. -/

namespace Accord

inductive CommitPhase where
  | publishing
  | relaying (welcomes : List WelcomeTarget)
  | announcing (device : Uuid) (welcome : Bytes)
      (rest : List WelcomeTarget)
  | done
  | failed

structure CommitTask where
  claims : Claims
  groupId : Uuid
  req : MlsRelaySvc.SendCommitRequest
  phase : CommitPhase

/-- A Commit that was accepted, the devices it was for, and those it has been
put to on a stream.  The code keeps no such record. -/
structure Posted where
  groupId : Uuid
  commit : Bytes
  owed : List Uuid
  reached : List Uuid
  deriving DecidableEq

structure CommitRoom where
  mail : Mailroom
  tasks : List CommitTask := []
  posted : List Posted := []

/-- `full` are the channels whose buffers are full. -/
inductive CommitEvent where
  | lookup (claims : Claims)
  | register (stream : ℕ)
  | drain (stream : ℕ)
  | close (stream : ℕ)
  | sendCommit (claims : Claims) (req : MlsRelaySvc.SendCommitRequest)
  | publish (task : ℕ) (full : List ℕ)
  | relay (task : ℕ)
  | announce (task : ℕ) (full : List ℕ)

namespace MlsRelaySvc

/-- The checks of `send_commit`. -/
def acceptCommit (claims : Claims) (req : SendCommitRequest) :
    Effect Store Status CommitTask := do
  let groupId ← GroupSvc.requireGroupId req.groupId
  Effect.check (·.isMember groupId claims.sub) ServerError.permissionDenied
  return ⟨claims, groupId, req, .publishing⟩

def targetDevice (target : WelcomeTarget) : Effect Store Status Uuid := do
  let text ← Effect.ofOption target.deviceId
    (ServerError.invalidArgument "welcome target needs device_id")
  Effect.ofOption text.parse (ServerError.invalidArgument "bad device id")

def queueWelcome (groupId : Uuid) (target : WelcomeTarget) :
    Effect Store Status Uuid := do
  let device ← targetDevice target
  orStatus (Store.enqueueInbox device .welcome groupId target.welcome)
  return device

end MlsRelaySvc

namespace CommitRoom

open MlsRelaySvc

/-- The offers that find room in the buffer of a live stream. -/
def accepted (mail : Mailroom) (full : List ℕ)
    (offers : List (ℕ × ServerMessage)) : List Receipt :=
  mail.arrivals (offers.filter fun offer => !full.contains offer.1)

def owed (room : CommitRoom) (task : CommitTask) : List Uuid :=
  (room.mail.store.deviceIdsForGroup task.groupId).filter
    (· != task.claims.deviceId)

def advance (room : CommitRoom) (index : ℕ) (task : CommitTask)
    (phase : CommitPhase) : List CommitTask :=
  room.tasks.set index { task with phase }

def sendCommit (room : CommitRoom) (claims : Claims)
    (req : SendCommitRequest) : CommitRoom :=
  match (acceptCommit claims req room.mail.store).1 with
  | .ok task => { room with tasks := room.tasks ++ [task] }
  | .error _ => room

def publish (room : CommitRoom) (index : ℕ) (full : List ℕ) : CommitRoom :=
  match room.tasks[index]? with
  | some ⟨claims, groupId, req, .publishing⟩ =>
      let task : CommitTask := ⟨claims, groupId, req, .publishing⟩
      let arrived := accepted room.mail full (room.mail.registry.route
        (.commit groupId req.commit 0 claims.deviceId))
      { room with
        mail := { room.mail with received := room.mail.received ++ arrived }
        tasks := room.advance index task (.relaying req.welcomes)
        posted := room.posted ++ [⟨groupId, req.commit, room.owed task,
          arrived.map (·.device)⟩] }
  | _ => room

/-- The next Welcome is put into the inbox of its device. -/
def relay (room : CommitRoom) (index : ℕ) : CommitRoom :=
  match room.tasks[index]? with
  | some ⟨claims, groupId, req, .relaying []⟩ =>
      { room with
        tasks := room.advance index ⟨claims, groupId, req, .relaying []⟩
          .done }
  | some ⟨claims, groupId, req, .relaying (target :: rest)⟩ =>
      let task : CommitTask :=
        ⟨claims, groupId, req, .relaying (target :: rest)⟩
      match queueWelcome groupId target room.mail.store with
      | (.ok device, store) =>
          { room with
            mail := { room.mail with store }
            tasks := room.advance index task
              (.announcing device target.welcome rest) }
      | (.error _, store) =>
          { room with
            mail := { room.mail with store }
            tasks := room.advance index task .failed }
  | _ => room

def announce (room : CommitRoom) (index : ℕ) (full : List ℕ) : CommitRoom :=
  match room.tasks[index]? with
  | some ⟨claims, groupId, req, .announcing device welcome rest⟩ =>
      let task : CommitTask :=
        ⟨claims, groupId, req, .announcing device welcome rest⟩
      { room with
        mail := { room.mail with
          registry := room.mail.registry.subscribe device groupId
          received := room.mail.received ++ accepted room.mail full
            (room.mail.registry.route (.welcome device groupId welcome)) }
        tasks := room.advance index task (.relaying rest) }
  | _ => room

/-- A queued Commit that is drained has been put to the device. -/
def Posted.drained (device : Uuid) (rows : List InboxRow)
    (posted : Posted) : Posted :=
  if rows.any fun row => row.kind == .commit &&
      row.groupId == posted.groupId && row.payload == posted.commit then
    { posted with reached := posted.reached ++ [device] }
  else
    posted

def drain (codec : InboxCodec) (room : CommitRoom) (index : ℕ) :
    CommitRoom :=
  { room with
    mail := room.mail.drain codec index
    posted :=
      match room.mail.inPhase index .registered with
      | some stream =>
          room.posted.map (Posted.drained stream.claims.deviceId
            (room.mail.store.drainInbox stream.claims.deviceId).1)
      | none => room.posted }

def step (codec : InboxCodec) (room : CommitRoom) : CommitEvent → CommitRoom
  | .lookup claims => { room with mail := room.mail.lookup claims }
  | .register index => { room with mail := room.mail.register index }
  | .drain index => room.drain codec index
  | .close index => { room with mail := room.mail.close index }
  | .sendCommit claims req => room.sendCommit claims req
  | .publish index full => room.publish index full
  | .relay index => room.relay index
  | .announce index full => room.announce index full

end CommitRoom

/-! A call that nothing interrupts does what the handler does. -/

namespace MlsRelaySvc

open Server

private theorem onStore_ofOption {Value : Type} (value : Option Value)
    (status : Status) :
    onStore (Effect.ofOption value status) = Effect.ofOption value status := by
  funext server
  cases value <;> rfl

private theorem onStore_targetDevice (target : WelcomeTarget) :
    onStore (targetDevice target) = requireDevice target := by
  unfold targetDevice requireDevice
  simp only [onStore_bind, onStore_ofOption]

private theorem relayWelcome_eq (bus : Bus) (groupId : Uuid)
    (target : WelcomeTarget) :
    relayWelcome bus groupId target = (do
      let device ← onStore (queueWelcome groupId target)
      publish bus (.welcome device groupId target.welcome)
      subscribe device groupId) := by
  unfold relayWelcome queueWelcome
  simp only [onStore_bind, onStore_targetDevice, onStore_pure, bind_assoc,
    pure_bind]

private theorem sendCommit_eq (bus : Bus) (claims : Claims)
    (req : SendCommitRequest) :
    sendCommit bus (some claims) req = (do
      let task ← onStore (acceptCommit claims req)
      publish bus (.commit task.groupId req.commit 0 claims.deviceId)
      Effect.forEach (relayWelcome bus task.groupId) req.welcomes) := by
  unfold sendCommit acceptCommit requireGroupId
  simp only [authenticate_bind, onStore_bind, onStore_pure, bind_assoc,
    pure_bind]

private theorem acceptCommit_ok {claims : Claims} {req : SendCommitRequest}
    {store : Store} {task : CommitTask}
    (accepted : (acceptCommit claims req store).1 = .ok task) :
    task = ⟨claims, task.groupId, req, .publishing⟩ := by
  have yields : (acceptCommit claims req).Yields fun task =>
      task = ⟨claims, task.groupId, req, .publishing⟩ :=
    Effect.Yields.bind fun _ => Effect.Yields.bind fun _ =>
      Effect.yields_pure rfl
  exact yields store task accepted

private theorem readOnly_acceptCommit (claims : Claims)
    (req : SendCommitRequest) :
    (acceptCommit claims req).ReadOnly := by
  refine (GroupSvc.readOnly_requireGroupId _).bind fun _ => ?_
  exact (Effect.readOnly_check _ _).bind fun _ => Effect.readOnly_pure _

end MlsRelaySvc

namespace CommitRoom

open MlsRelaySvc

def server (room : CommitRoom) : Server where
  store := room.mail.store
  registry := room.mail.registry
  channels := room.mail.streams.map (·.claims.deviceId)

def inProcess : Bus := fun _ => .ok ()

/-- One Welcome is queued and announced, or the call has failed. -/
def relayOne (room : CommitRoom) (index : ℕ) : CommitRoom :=
  (room.relay index).announce index []

def finish (room : CommitRoom) (index : ℕ) (welcomes : List WelcomeTarget) :
    CommitRoom :=
  welcomes.foldl (fun before _ => before.relayOne index) room

private theorem relayOne_failed {room : CommitRoom} {index : ℕ}
    {claims : Claims}
    {groupId : Uuid} {req : SendCommitRequest}
    (found : room.tasks[index]? = some ⟨claims, groupId, req, .failed⟩) :
    room.relayOne index = room := by
  have relayed : room.relay index = room := by
    unfold relay
    rw [found]
  unfold relayOne announce
  rw [relayed, found]

private theorem finish_idle {room : CommitRoom} {index : ℕ}
    (idle : room.relayOne index = room) (welcomes : List WelcomeTarget) :
    room.finish index welcomes = room := by
  induction welcomes with
  | nil => rfl
  | cons target rest induction =>
      change (room.relayOne index).finish index rest = room
      rw [idle]
      exact induction

private theorem relayOne_server {room : CommitRoom} {index : ℕ}
    {claims : Claims}
    {groupId : Uuid} {req : SendCommitRequest} {target : WelcomeTarget}
    {rest : List WelcomeTarget}
    (found : room.tasks[index]? =
      some ⟨claims, groupId, req, .relaying (target :: rest)⟩) :
    relayWelcome inProcess groupId target room.server =
        (.ok (), (room.relayOne index).server) ∧
      (room.relayOne index).tasks[index]? =
        some ⟨claims, groupId, req, .relaying rest⟩ ∨
    (∃ status, relayWelcome inProcess groupId target room.server =
        (.error status, (room.relayOne index).server)) ∧
      (room.relayOne index).tasks[index]? =
        some ⟨claims, groupId, req, .failed⟩ := by
  rw [relayWelcome_eq]
  rcases queued : queueWelcome groupId target room.mail.store with
    ⟨result, store⟩
  have placed : ∀ phase, (room.advance index
      ⟨claims, groupId, req, .relaying (target :: rest)⟩ phase)[index]? =
        some ⟨claims, groupId, req, phase⟩ := by
    intro phase
    exact (Slots.getElem?_set_of_found found _ _).trans (if_pos rfl)
  cases result with
  | ok device =>
      left
      have relayed : room.relay index = { room with
          mail := { room.mail with store }
          tasks := room.advance index
            ⟨claims, groupId, req, .relaying (target :: rest)⟩
            (.announcing device target.welcome rest) } := by
        unfold relay
        simp only [found, queued]
      unfold relayOne announce
      simp only [relayed, placed]
      refine ⟨?_, ?_⟩
      · have ran : Server.onStore (queueWelcome groupId target) room.server =
            (.ok device, { room.server with store }) :=
          Server.onStore_of_ok queued
        rw [Effect.bind_of_ok ran]
        rfl
      · exact (Slots.getElem?_set_of_found (placed _) _ _).trans (if_pos rfl)
  | error status =>
      right
      have relayed : room.relay index = { room with
          mail := { room.mail with store }
          tasks := room.advance index
            ⟨claims, groupId, req, .relaying (target :: rest)⟩ .failed } := by
        unfold relay
        simp only [found, queued]
      unfold relayOne announce
      simp only [relayed, placed]
      refine ⟨⟨status, ?_⟩, trivial⟩
      have ran : Server.onStore (queueWelcome groupId target) room.server =
          (.error status, { room.server with store }) :=
        Server.onStore_of_error queued
      rw [Effect.bind_of_error ran]
      rfl

private theorem finish_server {room : CommitRoom} {index : ℕ} {claims : Claims}
    {groupId : Uuid} {req : SendCommitRequest}
    (welcomes : List WelcomeTarget)
    (found : room.tasks[index]? =
      some ⟨claims, groupId, req, .relaying welcomes⟩) :
    (room.finish index welcomes).server =
      (Effect.forEach (relayWelcome inProcess groupId) welcomes
        room.server).2 := by
  induction welcomes generalizing room with
  | nil => rfl
  | cons target rest induction =>
      change ((room.relayOne index).finish index rest).server = _
      simp only [Effect.forEach]
      rcases relayOne_server found with ⟨ran, next⟩ | ⟨⟨status, ran⟩, next⟩
      · rw [Effect.bind_of_ok ran]
        exact induction next
      · rw [Effect.bind_of_error ran, finish_idle (relayOne_failed next)]

theorem sendCommit_server (room : CommitRoom) (claims : Claims)
    (req : SendCommitRequest) :
    (((room.sendCommit claims req).publish room.tasks.length []).finish
        room.tasks.length req.welcomes).server =
      (MlsRelaySvc.sendCommit inProcess (some claims) req room.server).2 := by
  rw [sendCommit_eq]
  rcases checked : acceptCommit claims req room.mail.store with
    ⟨result, store⟩
  obtain rfl : store = room.mail.store :=
    (congrArg Prod.snd checked).symm.trans
      (readOnly_acceptCommit claims req room.mail.store)
  cases result with
  | error status =>
      have refused : room.sendCommit claims req = room := by
        unfold CommitRoom.sendCommit
        rw [checked]
      have ran : Server.onStore (acceptCommit claims req) room.server =
          (.error status, room.server) := Server.onStore_of_error checked
      have absent : room.tasks[room.tasks.length]? = none := by simp
      have unpublished : room.publish room.tasks.length [] = room := by
        unfold CommitRoom.publish
        rw [absent]
      have idle : room.relayOne room.tasks.length = room := by
        have relayed : room.relay room.tasks.length = room := by
          unfold relay
          rw [absent]
        unfold relayOne announce
        rw [relayed, absent]
      rw [Effect.bind_of_error ran, refused, unpublished, finish_idle idle]
  | ok task =>
      have ran : Server.onStore (acceptCommit claims req) room.server =
          (.ok task, room.server) := Server.onStore_of_ok checked
      have shape := acceptCommit_ok (congrArg Prod.fst checked)
      have entered : room.sendCommit claims req =
          { room with tasks := room.tasks ++ [task] } := by
        unfold CommitRoom.sendCommit
        rw [checked]
      have found : (room.tasks ++ [task])[room.tasks.length]? =
          some ⟨claims, task.groupId, req, .publishing⟩ := by
        rw [List.getElem?_concat_length, ← shape]
      have relaying : ((room.sendCommit claims req).publish
          room.tasks.length []).tasks[room.tasks.length]? =
          some ⟨claims, task.groupId, req, .relaying req.welcomes⟩ := by
        simp only [entered, CommitRoom.publish, found]
        exact (Slots.getElem?_set_of_found found _ _).trans (if_pos rfl)
      have same : ((room.sendCommit claims req).publish room.tasks.length
          []).server = room.server := by
        simp only [entered, CommitRoom.publish, found]
        rfl
      rw [Effect.bind_of_ok ran, finish_server req.welcomes relaying, same]
      rfl

end CommitRoom

end Accord
