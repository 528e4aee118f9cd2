import Accord.Server.Store.Model

/-! Accounts, devices, refresh tokens and bans. -/

namespace Accord

namespace Store

def findUserByUsername (store : Store) (username : String) :
    Option UserRow :=
  store.users.find? (·.username == username)

def findUserByIdentity (store : Store) (identityPubkey : List UInt8) :
    Option UserRow :=
  store.users.find? (·.identityKey == some identityPubkey)

def identityExists (store : Store) (identityPubkey : List UInt8) : Bool :=
  store.users.any (·.identityKey == some identityPubkey)

def countUsers (store : Store) : ℕ := store.users.length

def isInviteValid (store : Store) (token : String) : Bool :=
  store.invites.any fun invite => invite.token == token && !invite.revoked

/-- `row.id` is the id `Uuid::now_v7` hands out. -/
def createUser (row : UserRow) : Effect Store ServerError Uuid := do
  Effect.check
    (fun store => !store.users.any fun user =>
      user.username == row.username ||
        (row.identityKey.isSome && user.identityKey == row.identityKey))
    (.alreadyExists "username or identity")
  Effect.update fun store => { store with users := store.users ++ [row] }
  pure row.id

def findDevice (store : Store) (userId : Uuid) (name : String) :
    Option Uuid :=
  (store.devices.filter fun device =>
      device.userId == userId && device.name == name &&
        device.revokedAt.isNone).foldl
    (fun newest device =>
      match newest with
      | some id => if id.toNat < device.id.toNat then some device.id else newest
      | none => some device.id)
    none

def createDevice (fresh userId : Uuid) (name : String) :
    Effect Store ServerError Uuid := do
  Effect.check (fun store => store.referencesHold (store.hasUser userId))
    violation
  Effect.update fun store =>
    { store with devices := store.devices ++ [⟨fresh, userId, name, none⟩] }
  pure fresh

def revokeDevice (store : Store) (userId deviceId : Uuid) (now : Int) :
    Store :=
  { store with
    devices := store.devices.map fun device =>
      if device.id == deviceId && device.userId == userId &&
          device.revokedAt.isNone then
        { device with revokedAt := some now }
      else
        device }

def isRevoked (store : Store) (deviceId : Uuid) : Bool :=
  store.devices.any fun device =>
    device.id == deviceId && device.revokedAt.isSome

def storeRefreshToken (row : RefreshRow) : Effect Store ServerError Unit := do
  Effect.check
    (fun store => !store.refreshTokens.any (·.token == row.token)) duplicate
  Effect.check
    (fun store => store.referencesHold
      (store.hasUser row.userId && store.hasDevice row.deviceId))
    violation
  Effect.update fun store =>
    { store with refreshTokens := store.refreshTokens ++ [row] }

/-- The row violates neither the primary key nor a reference. -/
def acceptsRefreshToken (store : Store) (row : RefreshRow) : Bool :=
  !store.refreshTokens.any (·.token == row.token) &&
    store.referencesHold
      (store.hasUser row.userId && store.hasDevice row.deviceId)

def lookupRefreshToken (store : Store) (token : String) :
    Option RefreshRow :=
  store.refreshTokens.find? (·.token == token)

def deleteRefreshToken (store : Store) (token : String) : Store :=
  { store with
    refreshTokens := store.refreshTokens.filter (·.token != token) }

def isBanned (store : Store) (userId : Uuid) : Bool :=
  store.bans.any (·.userId == userId)

def banUser (store : Store) (userId bannedBy : Uuid) (reason : String) :
    Store :=
  if store.isBanned userId then
    { store with
      bans := store.bans.map fun ban =>
        if ban.userId == userId then
          { ban with bannedBy := bannedBy, reason := reason }
        else
          ban }
  else
    { store with bans := store.bans ++ [⟨userId, bannedBy, reason⟩] }

def unbanUser (store : Store) (userId : Uuid) : Store :=
  { store with bans := store.bans.filter (·.userId != userId) }

/-! Revocation is permanent, and only tokens found are live. -/

theorem isRevoked_iff {store : Store} {deviceId : Uuid} :
    store.isRevoked deviceId = true ↔
      ∃ device ∈ store.devices, device.id = deviceId ∧
        device.revokedAt.isSome = true := by
  simp [isRevoked]

theorem isRevoked_revokeDevice {store : Store} {deviceId : Uuid}
    (revoked : store.isRevoked deviceId = true) (userId other : Uuid)
    (now : Int) :
    (store.revokeDevice userId other now).isRevoked deviceId = true := by
  obtain ⟨device, member, sameId, gone⟩ := isRevoked_iff.mp revoked
  apply isRevoked_iff.mpr
  refine ⟨_, List.mem_map_of_mem member, ?_⟩
  split
  · exact ⟨sameId, rfl⟩
  · exact ⟨sameId, gone⟩

theorem storeRefreshToken_accepted {store : Store} {row : RefreshRow}
    (accepted : store.acceptsRefreshToken row = true) :
    storeRefreshToken row store =
      (.ok (),
        { store with refreshTokens := store.refreshTokens ++ [row] }) := by
  unfold acceptsRefreshToken at accepted
  rw [Bool.and_eq_true] at accepted
  simp only [storeRefreshToken, bind, Effect.bind, Effect.check,
    accepted.1, accepted.2, if_true, Effect.update]

theorem storeRefreshToken_refused {store : Store} {row : RefreshRow}
    (refused : store.acceptsRefreshToken row = false) :
    ∃ error, storeRefreshToken row store = (.error error, store) := by
  unfold acceptsRefreshToken at refused
  cases unused : !store.refreshTokens.any (·.token == row.token) with
  | false =>
      exact ⟨duplicate, by
        simp only [storeRefreshToken, bind, Effect.bind, Effect.check, unused,
          Bool.false_eq_true, if_false]⟩
  | true =>
      rw [unused, Bool.true_and] at refused
      exact ⟨violation, by
        simp only [storeRefreshToken, bind, Effect.bind, Effect.check, unused,
          refused, Bool.false_eq_true, if_false, if_true]⟩

theorem lookupRefreshToken_eq {store : Store} {token : String}
    {row : RefreshRow} (found : store.lookupRefreshToken token = some row) :
    row ∈ store.refreshTokens ∧ row.token = token := by
  unfold lookupRefreshToken at found
  exact ⟨List.mem_of_find?_eq_some found, by simpa using List.find?_some found⟩

end Store

end Accord
