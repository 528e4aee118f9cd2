import Accord.Server.Messaging.Service
import Accord.Types.Json

/-! The calls that only ask: the groups of the caller, one group, its members,
and the histories. -/

namespace Accord

structure GroupSummary where
  groupId : String
  name : String
  kind : GroupKind
  memberCount : UInt32
  channelKind : ChannelKind
  categoryId : String
  position : Int
  deriving DecidableEq

structure GroupInfo where
  summary : GroupSummary
  description : String
  memberIds : List String
  deriving DecidableEq

structure MemberInfo where
  userId : String
  username : String
  displayName : String
  isOwner : Bool
  online : Bool
  roleIds : List String
  avatarUrl : String
  deriving DecidableEq

namespace Store

/-- A row of the groups with its `count(*)`. -/
structure GroupSummaryRow where
  group : GroupRow
  memberCount : ℕ

def memberIds (store : Store) (groupId : Uuid) : List Uuid :=
  (store.groupMembers.filter (·.groupId == groupId)).map (·.userId)

def memberCount (store : Store) (groupId : Uuid) : ℕ :=
  (store.groupMembers.filter (·.groupId == groupId)).length

def groupSummary (store : Store) (group : GroupRow) : GroupSummaryRow :=
  ⟨group, store.memberCount group.id⟩

def summaryBefore (first second : GroupSummaryRow) : Bool :=
  first.group.position < second.group.position ||
    (first.group.position == second.group.position &&
      first.group.name ≤ second.group.name)

/-- A group comes once for every membership the user has in it. -/
def listGroupsForUser (store : Store) (userId : Uuid) :
    List GroupSummaryRow :=
  (store.groups.flatMap fun group =>
    (store.groupMembers.filter fun row =>
      row.groupId == group.id && row.userId == userId).map
        fun _ => store.groupSummary group).mergeSort summaryBefore

def listMembers (store : Store) (groupId : Uuid) : List UserRow :=
  (store.users.flatMap fun user =>
    (store.groupMembers.filter fun row =>
      row.groupId == groupId && row.userId == user.id).map
        fun _ => user).mergeSort
    fun first second => first.displayName ≤ second.displayName

def deviceIdsForUser (store : Store) (userId : Uuid) : List Uuid :=
  (store.devices.filter fun device =>
    device.userId == userId && device.revokedAt.isNone).map (·.id)

/-- The query selects five columns of a role and the conversion reads nine, so
no row can be converted.  What that leads to is an argument: no roles where the
error is reported, the end of the call where the conversion panics. -/
def rolesForUser (store : Store) (unreadable : Except Status (List RoleRow))
    (userId : Uuid) : Except Status (List RoleRow) :=
  if (store.rolesOf userId).isEmpty then .ok [] else unreadable

end Store

namespace GroupSvc

open Server

def summaryToProto (row : Store.GroupSummaryRow) : GroupSummary where
  groupId := row.group.id.text
  name := row.group.name
  kind := row.group.kind
  memberCount := UInt32.ofNat row.memberCount
  channelKind := row.group.channelKind
  categoryId := row.group.categoryId
  position := asI32 row.group.position

def listGroups (token : Option Claims) :
    Effect Server Status (List GroupSummary) := do
  let claims ← authenticate token
  let rows ← onStore (Effect.read (·.listGroupsForUser claims.sub))
  return rows.map summaryToProto

def getGroupInfo (token : Option Claims) (groupId : Option IdText) :
    Effect Server Status GroupInfo := do
  let _ ← authenticate token
  let groupId ← onStore (requireGroupId groupId)
  let group ← onStore (orStatus (Store.getGroup groupId))
  let row ← onStore (Effect.read (·.groupSummary group))
  let memberIds ← onStore (Effect.read (·.memberIds groupId))
  return {
    summary := summaryToProto row
    description := group.description
    memberIds := memberIds.map Uuid.text }

def memberInfo (unreadable : Except Status (List RoleRow))
    (server : Server) (user : UserRow) :
    Except Status MemberInfo := do
  let roles ← server.store.rolesForUser unreadable user.id
  return {
    userId := user.id.text
    username := user.username
    displayName := user.displayName
    isOwner := user.isOwner
    online := (server.store.deviceIdsForUser user.id).any
      server.registry.isConnected
    roleIds := roles.map (·.id.text)
    avatarUrl := user.avatarUrl }

def listMembers (unreadable : Except Status (List RoleRow))
    (token : Option Claims)
    (groupId : Option IdText) : Effect Server Status (List MemberInfo) := do
  let claims ← authenticate token
  let groupId ← onStore (requireGroupId groupId)
  onStore (Effect.check (·.isMember groupId claims.sub)
    (ServerError.permissionDenied : Status))
  let members ← Effect.read fun server =>
    (server.store.listMembers groupId).mapM
      (memberInfo unreadable server)
  Effect.ofExcept members

end GroupSvc

end Accord
