import Accord.Library.Nested
import Accord.Server.Error
import Accord.Types.Permissions

/-! The tables the services read and write.  Columns that no modelled
statement reads (creation times of most rows) are left out. -/

namespace Accord

structure UserRow where
  id : Uuid
  username : String
  displayName : String
  passwordHash : String
  isOwner : Bool
  isGuest : Bool
  identityKey : Option Bytes
  avatarUrl : String
  deriving DecidableEq

structure DeviceRow where
  id : Uuid
  userId : Uuid
  name : String
  revokedAt : Option Int
  deriving DecidableEq

structure RefreshRow where
  token : String
  userId : Uuid
  deviceId : Uuid
  expiresAt : Int
  deriving DecidableEq

structure BanRow where
  userId : Uuid
  bannedBy : Uuid
  reason : String
  deriving DecidableEq

structure InviteRow where
  token : String
  revoked : Bool
  deriving DecidableEq

inductive GroupKind where
  | pub
  | priv
  deriving DecidableEq

inductive ChannelKind where
  | text
  | voice
  deriving DecidableEq

structure GroupRow where
  id : Uuid
  name : String
  description : String
  kind : GroupKind
  channelKind : ChannelKind
  categoryId : String
  position : Int
  deriving DecidableEq

structure GroupMemberRow where
  groupId : Uuid
  userId : Uuid
  role : String
  deriving DecidableEq

structure RoleRow where
  id : Uuid
  name : String
  permissions : BitVec 64
  position : Int
  isDefault : Bool
  color : String
  icon : String
  hoist : Bool
  mentionable : Bool
  deriving DecidableEq

structure RoleWrite where
  name : String
  permissions : BitVec 64
  color : String
  icon : String
  hoist : Bool
  mentionable : Bool
  deriving DecidableEq

structure MemberRoleRow where
  userId : Uuid
  roleId : Uuid
  deriving DecidableEq

/-- What a new row of a message table gets from its surroundings: an id, the
next number of the database and the time. -/
structure RowDraw where
  id : Uuid
  seq : ℕ
  now : Int
  deriving DecidableEq

/-- `createdAt` is in milliseconds. -/
structure PublicMessageRow where
  id : Uuid
  groupId : Uuid
  senderId : Uuid
  content : String
  clientMessageId : Uuid
  seq : ℕ
  createdAt : Int
  deriving DecidableEq

structure PrivateMessageRow where
  id : Uuid
  groupId : Uuid
  senderId : Uuid
  senderDeviceId : Uuid
  ciphertext : Bytes
  epoch : UInt64
  clientMessageId : Uuid
  seq : ℕ
  createdAt : Int
  deriving DecidableEq

inductive InboxKind where
  | welcome
  | commit
  | priv
  deriving DecidableEq

structure InboxRow where
  deviceId : Uuid
  kind : InboxKind
  groupId : Uuid
  payload : Bytes
  deriving DecidableEq

structure KeyPackageRow where
  id : Uuid
  userId : Uuid
  deviceId : Uuid
  keyPackage : Bytes
  consumed : Bool
  createdAt : Int
  deriving DecidableEq

structure BackupRow where
  encryptedBlob : Bytes
  salt : Bytes
  argon2Params : Bytes
  version : Int32
  deriving DecidableEq

structure AuditRow where
  actorId : Uuid
  action : String
  target : String
  outcome : String
  reason : String
  deriving DecidableEq

/-- `foreignKeys` says whether the database enforces the `REFERENCES` clauses
of the schema: Postgres does, and SQLite does when the pragma is on. -/
structure Store where
  foreignKeys : Bool := true
  users : List UserRow := []
  devices : List DeviceRow := []
  refreshTokens : List RefreshRow := []
  bans : List BanRow := []
  invites : List InviteRow := []
  groups : List GroupRow := []
  groupMembers : List GroupMemberRow := []
  roles : List RoleRow := []
  memberRoles : List MemberRoleRow := []
  publicMessages : List PublicMessageRow := []
  privateMessages : List PrivateMessageRow := []
  inbox : List InboxRow := []
  keyPackages : List KeyPackageRow := []
  keyBackups : Mapping Uuid BackupRow := ∅
  auditLog : List AuditRow := []

namespace Store

def hasUser (store : Store) (userId : Uuid) : Bool :=
  store.users.any (·.id == userId)

def hasDevice (store : Store) (deviceId : Uuid) : Bool :=
  store.devices.any (·.id == deviceId)

def hasGroup (store : Store) (groupId : Uuid) : Bool :=
  store.groups.any (·.id == groupId)

/-- A row may be inserted only if what it references exists. -/
def referencesHold (store : Store) (present : Bool) : Bool :=
  !store.foreignKeys || present

def violation : ServerError :=
  .database "FOREIGN KEY constraint failed"

def duplicate : ServerError :=
  .database "UNIQUE constraint failed"

end Store

end Accord
