import Accord.Library.Tasks
import Accord.Server.Auth.Service
import Accord.Server.Messaging.Service

/-! Bans against the calls that let users into channels, store call by store
call.  A ban lists the groups of its target, leaves them one by one and is
recorded last; every other call looks at the bans, if it does, in a store call
before the one that adds the member.  None of these calls writes what
permissions, ranks and guest flags are read from, so the reads of one check are
one turn here. -/

namespace Accord

/-- A login is taken from where its credentials have been checked. -/
inductive JoinCall where
  | banMember (decision : GuardrailDecision) (token : Option Claims)
      (req : GroupSvc.BanMemberRequest)
  | addMembers (token : Option Claims) (req : GroupSvc.AddMembersRequest)
  | participate (groupId userId : Uuid)
  | session (user : UserRow) (deviceName : String)
  | createPublicGroup (decision : GuardrailDecision) (token : Option Claims)
      (req : GroupSvc.CreatePublicGroupRequest)

inductive AfterJoin where
  | asking (groupId : Uuid) (members : List IdText)
  | storing (user : UserRow) (deviceId : Uuid)
  | nothing

inductive JoinTask where
  | banOpening (decision : GuardrailDecision) (token : Option Claims)
      (req : GroupSvc.BanMemberRequest)
  | banListing (caller target : Uuid) (reason : String)
  | banRemoving (caller target : Uuid) (reason : String)
      (groups : List Uuid)
  | addOpening (token : Option Claims) (req : GroupSvc.AddMembersRequest)
  | addAsking (groupId : Uuid) (members : List IdText)
  | partOpening (groupId userId : Uuid)
  | partFinding (groupId userId : Uuid)
  | partAsking (groupId userId : Uuid)
  | sessionOpening (user : UserRow) (deviceName : String)
  | sessionFinding (user : UserRow) (deviceName : String)
  | sessionCreating (user : UserRow) (deviceName : String)
  | sessionStoring (user : UserRow) (deviceId : Uuid)
  | createOpening (decision : GuardrailDecision) (token : Option Claims)
      (req : GroupSvc.CreatePublicGroupRequest)
  | createInserting (caller : Uuid) (req : GroupSvc.CreatePublicGroupRequest)
  | joining (groupId userId : Uuid) (role : String) (next : AfterJoin)
  | finished

namespace GroupSvc

/-- The caller and the target of a ban that is permitted. -/
def openBan (decision : GuardrailDecision) (token : Option Claims)
    (req : BanMemberRequest) : Effect Store Status (Uuid × Uuid) := do
  let claims ← authenticate token
  let target ← requireUserId req.userId
  permitBan decision claims.sub target
  return (claims.sub, target)

def openAdd (token : Option Claims) (req : AddMembersRequest) :
    Effect Store Status Uuid := do
  let claims ← authenticate token
  Effect.check (fun store => !store.isUserGuest claims.sub)
    ServerError.permissionDenied
  let groupId ← requireGroupId req.groupId
  let group ← orStatus (Store.getGroup groupId)
  Effect.check (fun _ => group.kind = .pub)
    ⟨.unimplemented,
      "adding members to private groups requires an MLS Commit"⟩
  return groupId

def askMember (member : IdText) : Effect Store Status Uuid := do
  let userId ← Effect.ofOption member.parse
    (ServerError.invalidArgument "member id is not a valid UUID")
  Effect.check (fun store => !store.isUserGuest userId)
    ServerError.permissionDenied
  Effect.check (fun store => !store.isBanned userId)
    ⟨.failedPrecondition, "user is banned from this server"⟩
  return userId

def openCreate (decision : GuardrailDecision) (token : Option Claims)
    (req : CreatePublicGroupRequest) : Effect Store Status Uuid := do
  let claims ← authenticate token
  Effect.check (fun _ => trim req.name ≠ "")
    (ServerError.invalidArgument "group name is required")
  Authz.require claims.sub Permissions.manageChannels
  guard decision claims.sub .createChannel (trim req.name)
  return claims.sub

def insertChannel (fresh : Uuid) (req : CreatePublicGroupRequest) :
    Effect Store Status Uuid :=
  orStatus (Store.createPublicGroup fresh (trim req.name)
    (trim req.description) (parseChannelKind req.channelKind)
    (trim req.categoryId))

end GroupSvc

/-- A public channel that is open to the user as far as their account goes. -/
def MessagingSvc.findChannel (groupId userId : Uuid) :
    Effect Store ServerError Bool := do
  let group ← Store.getGroup groupId
  let guest ← Effect.read (·.isUserGuest userId)
  return group.kind = .pub && !guest

namespace AfterJoin

def joined : AfterJoin → JoinTask
  | .asking groupId members => .addAsking groupId members
  | .storing user deviceId => .sessionStoring user deviceId
  | .nothing => .finished

def refused : AfterJoin → JoinTask
  | .storing user deviceId => .sessionStoring user deviceId
  | .asking _ _ | .nothing => .finished

end AfterJoin

namespace JoinTask

def sessionJoining (user : UserRow) (deviceId : Uuid) : JoinTask :=
  if user.isGuest then
    .sessionStoring user deviceId
  else
    .joining AuthSvc.defaultPublicChannelId user.id "member"
      (.storing user deviceId)

end JoinTask

abbrev Joins := Tasks.Pool Store JoinTask

abbrev JoinEvent := Tasks.Event JoinCall AuthSvc.Mint

namespace Joins

open GroupSvc AuthSvc

def enter : JoinCall → JoinTask
  | .banMember decision token req => .banOpening decision token req
  | .addMembers token req => .addOpening token req
  | .participate groupId userId => .partOpening groupId userId
  | .session user deviceName => .sessionOpening user deviceName
  | .createPublicGroup decision token req => .createOpening decision token req

def advance (store : Store) (task : JoinTask) (mint : Mint) :
    Store × JoinTask :=
  match task with
  | .banOpening decision token req =>
      Tasks.turn (openBan decision token req)
        (fun found => .banListing found.1 found.2 (trim req.reason))
        (fun _ => .finished) store
  | .banListing caller target reason =>
      (store, .banRemoving caller target reason
        (store.groupIdsForUser target))
  | .banRemoving caller target reason (group :: rest) =>
      (store.removeMember group target,
        .banRemoving caller target reason rest)
  | .banRemoving caller target reason [] =>
      (store.banUser target caller reason, .finished)
  | .addOpening token req =>
      Tasks.turn (openAdd token req)
        (fun groupId => .addAsking groupId req.memberIds)
        (fun _ => .finished) store
  | .addAsking groupId (member :: rest) =>
      Tasks.turn (askMember member)
        (fun userId => .joining groupId userId "member"
          (.asking groupId rest))
        (fun _ => .finished) store
  | .addAsking _ [] => (store, .finished)
  | .partOpening groupId userId =>
      (store, if store.isMember groupId userId then .finished
        else .partFinding groupId userId)
  | .partFinding groupId userId =>
      Tasks.turn (MessagingSvc.findChannel groupId userId)
        (fun isOpen => if isOpen then .partAsking groupId userId
          else .finished)
        (fun _ => .finished) store
  | .partAsking groupId userId =>
      (store, if store.isBanned userId then .finished
        else .joining groupId userId "member" .nothing)
  | .sessionOpening user deviceName =>
      (store, if store.isBanned user.id then .finished
        else .sessionFinding user deviceName)
  | .sessionFinding user deviceName =>
      (store, match store.findDevice user.id (sessionDeviceName deviceName) with
        | some deviceId => .sessionJoining user deviceId
        | none => .sessionCreating user deviceName)
  | .sessionCreating user deviceName =>
      Tasks.turn (Store.createDevice mint.id user.id
          (sessionDeviceName deviceName))
        (fun deviceId => .sessionJoining user deviceId)
        (fun _ => .finished) store
  | .sessionStoring user deviceId =>
      Tasks.turn (Store.storeRefreshToken
          ⟨mint.token, user.id, deviceId, mint.now + refreshTokenTtl⟩)
        (fun _ => .finished) (fun _ => .finished) store
  | .createOpening decision token req =>
      Tasks.turn (openCreate decision token req)
        (fun caller => .createInserting caller req)
        (fun _ => .finished) store
  | .createInserting caller req =>
      Tasks.turn (insertChannel mint.id req)
        (fun groupId => .joining groupId caller "owner" .nothing)
        (fun _ => .finished) store
  | .joining groupId userId role next =>
      Tasks.turn (Store.addMember groupId userId role)
        (fun _ => next.joined) (fun _ => next.refused) store
  | .finished => (store, .finished)

def machine : Tasks.Machine Store JoinCall JoinTask Mint where
  enter := enter
  advance := advance

/-! Undisturbed, the turns of each call add up to its handler. -/

section Alone

variable (mint : Mint) (store : Store)

open Tasks.Machine

private theorem ends_banRemoving (caller target : Uuid) (reason : String)
    (groups : List Uuid) :
    Ends machine mint store (.banRemoving caller target reason groups)
      ((do
        Effect.forEach (GroupSvc.removeMember · target) groups
        Effect.update (·.banUser target caller reason) :
          Effect Store Status Unit) store).2 := by
  induction groups generalizing store with
  | nil => exact .turned (.halted fun _ => rfl)
  | cons group rest induction =>
      exact .turned (induction (store.removeMember group target))

theorem ends_banMember (decision : GuardrailDecision)
    (token : Option Claims) (req : BanMemberRequest) :
    Ends machine mint store (enter (.banMember decision token req))
      (banMember decision token req store).2 := by
  have split : banMember decision token req = (do
      let found ← openBan decision token req
      let groups ← Effect.read (·.groupIdsForUser found.2)
      Effect.forEach (GroupSvc.removeMember · found.2) groups
      Effect.update (·.banUser found.2 found.1 (trim req.reason))) := by
    simp only [banMember, openBan, bind_assoc, pure_bind]
  rw [split]
  apply ends_turn rfl _ (fun _ _ => rfl)
  intro found after _
  exact .turned (ends_banRemoving mint after _ _ _ _)

private theorem turn_orStatus {Value : Type}
    (effect : Effect Store ServerError Value) (next : Value → JoinTask)
    (failed : JoinTask) :
    Tasks.turn effect next (fun _ => failed) store =
      Tasks.turn (orStatus effect) next (fun _ => failed) store :=
  (Tasks.turn_mapError effect ServerError.toStatus next (fun _ => failed)
    store).symm

theorem ends_joining {Value : Type} (groupId userId : Uuid) (role : String)
    {next : AfterJoin} (stops : next.refused = .finished)
    {rest : Unit → Effect Store Status Value}
    (continued : ∀ after,
      Ends machine mint after next.joined (rest () after).2) :
    Ends machine mint store (.joining groupId userId role next)
      ((orStatus (Store.addMember groupId userId role) >>= rest) store).2 := by
  have taken : machine.advance store (.joining groupId userId role next)
      mint = Tasks.turn (orStatus (Store.addMember groupId userId role))
        (fun _ => next.joined) (fun _ => .finished) store := by
    rw [← turn_orStatus, ← stops]
    rfl
  apply ends_turn taken _ (fun _ _ => rfl)
  intro _ after _
  exact continued after

private theorem ends_addAsking (groupId : Uuid) (members : List IdText) :
    Ends machine mint store (.addAsking groupId members)
      (Effect.forEach (addMemberById groupId) members store).2 := by
  induction members generalizing store with
  | nil => exact .turned (.halted fun _ => rfl)
  | cons member rest induction =>
      have split : addMemberById groupId member = (do
          let userId ← askMember member
          orStatus (Store.addMember groupId userId "member")) := by
        simp only [addMemberById, askMember, bind_assoc, pure_bind]
      simp only [Effect.forEach]
      rw [split, bind_assoc]
      apply ends_turn rfl _ (fun _ _ => rfl)
      intro userId after _
      exact ends_joining mint after groupId userId "member" rfl induction

theorem ends_addMembers (token : Option Claims) (req : AddMembersRequest) :
    Ends machine mint store (enter (.addMembers token req))
      (addMembers token req store).2 := by
  have split : addMembers token req = (do
      let groupId ← openAdd token req
      Effect.forEach (addMemberById groupId) req.memberIds) := by
    simp only [addMembers, openAdd, bind_assoc, pure_bind]
  rw [split]
  apply ends_turn rfl _ (fun _ _ => rfl)
  intro groupId after _
  exact ends_addAsking mint after groupId req.memberIds

private theorem ends_joinOnFirstUse (groupId userId : Uuid) :
    Ends machine mint store (.partFinding groupId userId)
      (MessagingSvc.joinOnFirstUse groupId userId store).2 := by
  apply Ends.turned
  simp only [machine, advance]
  cases known : store.kindOf groupId with
  | none =>
      obtain ⟨error, missing⟩ := MessagingSvc.getGroup_of_none known
      have unfound : MessagingSvc.findChannel groupId userId store =
          (.error error, store) := Effect.bind_of_error missing _
      have outcome : MessagingSvc.joinOnFirstUse groupId userId store =
          (.error error, store) := Effect.bind_of_error missing _
      rw [outcome]
      simp only [Tasks.turn, unfound]
      exact .halted fun _ => rfl
  | some kind =>
      have found : MessagingSvc.findChannel groupId userId store =
          (.ok (kind = .pub && !store.isUserGuest userId), store) := by
        obtain ⟨group, present, rfl⟩ := MessagingSvc.getGroup_of_kind known
        exact Effect.bind_of_ok present _
      simp only [Tasks.turn, found]
      by_cases channel : kind = .pub ∧ store.isUserGuest userId = false
      · obtain ⟨rfl, ordinary⟩ := channel
        simp only [decide_true, ordinary, Bool.not_false, Bool.and_self,
          if_true]
        apply Ends.turned
        simp only [advance]
        cases banned : store.isBanned userId with
        | true =>
            rw [MessagingSvc.joinOnFirstUse_keptOut known
              (fun _ => by rw [banned, Bool.or_true])]
            exact .halted fun _ => rfl
        | false =>
            rw [MessagingSvc.joinOnFirstUse_open known ordinary banned,
              Effect.bind_pure_state]
            exact ends_last rfl (fun _ _ => rfl) (fun _ _ => rfl)
      · have closed : (decide (kind = .pub) &&
            !store.isUserGuest userId) = false := by
          grind
        rw [closed, MessagingSvc.joinOnFirstUse_keptOut known (by grind)]
        exact .halted fun _ => rfl

theorem ends_participate (groupId userId : Uuid) :
    Ends machine mint store (enter (.participate groupId userId))
      (MessagingSvc.ensureParticipant groupId userId store).2 := by
  have viewed : (Effect.read fun store : Store =>
      store.isMember groupId userId : Effect Store ServerError Bool) store =
        (.ok (store.isMember groupId userId), store) := rfl
  apply Ends.turned
  simp only [machine, enter, advance, MessagingSvc.ensureParticipant]
  rw [Effect.bind_of_ok viewed]
  cases store.isMember groupId userId with
  | true => exact .halted fun _ => rfl
  | false => exact ends_joinOnFirstUse mint store groupId userId

private theorem ends_sessionStoring (user : UserRow) (deviceId : Uuid) :
    Ends machine mint store (.sessionStoring user deviceId)
      ((do
        orStatus (Store.storeRefreshToken
          ⟨mint.token, user.id, deviceId, mint.now + refreshTokenTtl⟩)
        return ⟨⟨user.id, deviceId⟩, mint.token, user.id, deviceId⟩ :
          Effect Store Status LoginResponse) store).2 := by
  rw [Effect.bind_pure_state]
  exact ends_last (turn_orStatus store _ _ _) (fun _ _ => rfl)
    (fun _ _ => rfl)

/-- Whether the default channel takes the user or not, the session is
stored. -/
private theorem ends_sessionJoining (user : UserRow) (deviceId : Uuid) :
    Ends machine mint store (.sessionJoining user deviceId)
      ((do
        joinDefaultChannel user
        orStatus (Store.storeRefreshToken
          ⟨mint.token, user.id, deviceId, mint.now + refreshTokenTtl⟩)
        return ⟨⟨user.id, deviceId⟩, mint.token, user.id, deviceId⟩ :
          Effect Store Status LoginResponse) store).2 := by
  simp only [JoinTask.sessionJoining, joinDefaultChannel]
  split
  · exact ends_sessionStoring mint store user deviceId
  · have taken : machine.advance store (.joining defaultPublicChannelId
        user.id "member" (.storing user deviceId)) mint =
        ((Store.addMember defaultPublicChannelId user.id "member" store).2,
          .sessionStoring user deviceId) := by
      simp only [machine, advance, Tasks.turn]
      rcases Store.addMember defaultPublicChannelId user.id "member" store
        with ⟨result, after⟩
      cases result with
      | ok _ => rfl
      | error _ => rfl
    apply Ends.turned
    rw [taken]
    exact ends_sessionStoring mint _ user deviceId

theorem ends_issueSession (user : UserRow) (deviceName : String) :
    Ends machine mint store (.sessionFinding user deviceName)
      (issueSession mint user deviceName store).2 := by
  have viewed : (Effect.read fun store : Store =>
      store.findDevice user.id (sessionDeviceName deviceName) :
        Effect Store Status (Option Uuid)) store =
          (.ok (store.findDevice user.id (sessionDeviceName deviceName)),
            store) := rfl
  apply Ends.turned
  simp only [machine, advance, issueSession, findOrCreateDevice, bind_assoc]
  rw [Effect.bind_of_ok viewed]
  cases store.findDevice user.id (sessionDeviceName deviceName) with
  | some deviceId =>
      exact ends_sessionJoining mint store user deviceId
  | none =>
      apply ends_turn (turn_orStatus store _ _ _) _ (fun _ _ => rfl)
      intro deviceId after _
      exact ends_sessionJoining mint after user deviceId

theorem ends_session (user : UserRow) (deviceName : String) :
    Ends machine mint store (enter (.session user deviceName))
      ((do
        refuseBanned user.id
        issueSession mint user deviceName :
          Effect Store Status LoginResponse) store).2 := by
  apply Ends.turned
  simp only [machine, enter, advance, refuseBanned, Effect.check_bind]
  cases banned : store.isBanned user.id with
  | true => exact .halted fun _ => rfl
  | false => exact ends_issueSession mint store user deviceName

theorem createPublicGroup_store (decision : GuardrailDecision)
    (fresh : Uuid) (token : Option Claims) (req : CreatePublicGroupRequest)
    (server : Server) :
    (createPublicGroup decision fresh token req server).2.store =
      ((do
        let caller ← openCreate decision token req
        let groupId ← insertChannel fresh req
        orStatus (Store.addMember groupId caller "owner") :
          Effect Store Status Unit) server.store).2 := by
  simp only [createPublicGroup, openCreate, bind_assoc, pure_bind]
  cases token with
  | none => rfl
  | some claims =>
      rw [Effect.bind_of_ok (authenticate_some claims server),
        Effect.bind_of_ok (authenticate_some claims server.store),
        Effect.check_bind, Effect.check_bind]
      split
      · apply Server.onStore_bind_store
        intro _ permitted
        apply Server.onStore_bind_store
        intro _ guarded
        apply Server.onStore_bind_store
        intro groupId inserted
        rw [← Effect.bind_pure_state id (inserted.store)]
        apply Server.onStore_bind_store
        intro _ _
        rfl
      · rfl

theorem ends_createPublicGroup (decision : GuardrailDecision)
    (token : Option Claims) (req : CreatePublicGroupRequest)
    (server : Server) :
    Ends machine mint server.store
      (enter (.createPublicGroup decision token req))
      (createPublicGroup decision mint.id token req server).2.store := by
  rw [createPublicGroup_store]
  apply ends_turn rfl _ (fun _ _ => rfl)
  intro caller opened _
  apply ends_turn rfl _ (fun _ _ => rfl)
  intro groupId inserted _
  exact ends_last (turn_orStatus inserted _ _ _) (fun _ _ => rfl)
    (fun _ _ => rfl)

end Alone

end Joins

end Accord
