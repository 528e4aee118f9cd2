import Accord.Server.Store.Messages
import Accord.Server.Store.Roles

/-! Statements that the Postgres store words differently from the SQLite one.
Positions are `i32` there from the query on, assignments go with their role by
`ON DELETE CASCADE`, a message statement also returns the id, and `TEXT` does
not take U+0000, which SQLite stores. -/

namespace Accord

namespace Postgres

def createRole (store : Store) (id : Uuid) (write : RoleWrite) : Store :=
  { store with
    roles := store.roles ++ [{
      id, name := write.name, permissions := write.permissions
      position := asI32 (asI32 (Store.maxPosition store.roles) + 1)
      isDefault := false, color := write.color, icon := write.icon
      hoist := write.hoist, mentionable := write.mentionable }] }

def deletes (id : Uuid) (role : RoleRow) : Bool :=
  role.id == id && !role.isDefault

def deleteRole (store : Store) (id : Uuid) : Store :=
  { store with
    memberRoles := store.memberRoles.filter fun row =>
      !(store.roles.any fun role => deletes id role && role.id == row.roleId)
    roles := store.roles.filter (!deletes id ·) }

def reorderRoles (store : Store) (orderedTopFirst : List Uuid) : Store :=
  let count : Int := asI32 orderedTopFirst.length
  { store with
    roles := orderedTopFirst.zipIdx.foldl
      (fun roles entry =>
        Store.setPosition (asI32 (count - asI32 entry.2)) entry.1 roles)
      store.roles }

def takesText (text : String) : Bool := text.toList.all (· != Char.ofNat 0)

def invalidText : ServerError :=
  .database "invalid byte sequence for encoding \"UTF8\": 0x00"

/-- The parameters are checked before the statement looks for a conflict. -/
def insertPublicMessage (draw : RowDraw) (groupId senderId : Uuid)
    (content : String) (clientMessageId : Uuid) :
    Effect Store ServerError Store.PublicMessage := do
  let sent := Store.sentMessage draw groupId senderId content clientMessageId
  Effect.check (fun _ => takesText content) invalidText
  let stored ← Store.keepPublicMessage sent
  let name ← Store.senderName senderId
  return ⟨{ sent with
    id := stored.id, seq := stored.seq, createdAt := stored.createdAt }, name⟩

def storePrivateMessage (draw : RowDraw)
    (groupId senderId senderDeviceId : Uuid) (ciphertext : Bytes)
    (epoch : UInt64) (clientMessageId : Uuid) :
    Effect Store ServerError PrivateMessageRow := do
  let row : PrivateMessageRow := {
    id := draw.id
    groupId, senderId, senderDeviceId, ciphertext, epoch, clientMessageId
    seq := draw.seq, createdAt := draw.now }
  match ← Effect.read (·.findPrivateMessage groupId clientMessageId) with
  | some stored =>
      return { row with
        id := stored.id, seq := stored.seq, createdAt := stored.createdAt }
  | none => Store.insertPrivateMessage row

end Postgres

end Accord
