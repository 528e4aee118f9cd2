import Accord.Server.Groups.Service

/-! Channels after their creation, and profiles.  Categories have no table
here: a channel only carries the id of its own. -/

namespace Accord

namespace Store

/-- The rows that refer to a group go before the group itself. -/
def deleteGroup (store : Store) (groupId : Uuid) : Store :=
  { store with
    groupMembers := store.groupMembers.filter (·.groupId != groupId)
    publicMessages := store.publicMessages.filter (·.groupId != groupId)
    privateMessages := store.privateMessages.filter (·.groupId != groupId)
    groups := store.groups.filter (·.id != groupId) }

def placeChannel (categoryId : String) (groups : List GroupRow)
    (entry : Uuid × ℕ) : List GroupRow :=
  groups.map fun group =>
    if group.id == entry.1 then
      { group with categoryId, position := entry.2 }
    else
      group

def reorderChannels (store : Store) (categoryId : String)
    (ordered : List Uuid) : Store :=
  { store with
    groups := ordered.zipIdx.foldl (placeChannel categoryId) store.groups }

def deleteCategory (store : Store) (id : Uuid) : Store :=
  { store with
    groups := store.groups.map fun group =>
      if group.categoryId == id.text then
        { group with categoryId := "" }
      else
        group }

def updateProfile (store : Store) (userId : Uuid)
    (displayName avatarUrl : String) : Store :=
  { store with
    users := store.users.map fun user =>
      if user.id == userId then { user with displayName, avatarUrl }
      else user }

end Store

namespace GroupSvc

def deleteGroup (decision : GuardrailDecision) (token : Option Claims)
    (groupId : Option IdText) : Effect Store Status Unit := do
  let claims ← authenticate token
  let groupId ← requireGroupId groupId
  let group ← orStatus (Store.getGroup groupId)
  Effect.check (fun _ => group.kind = .pub)
    ⟨.failedPrecondition, "private groups are not deleted through this RPC"⟩
  Authz.require claims.sub Permissions.manageChannels
  guard decision claims.sub .deleteChannel group.name
  Effect.update (·.deleteGroup groupId)

def invalidId : Status := ServerError.invalidArgument "invalid id in token"

def reorderChannels (token : Option Claims) (categoryId : String)
    (groupIds : List IdText) : Effect Store Status Unit := do
  let claims ← authenticate token
  Authz.require claims.sub Permissions.manageChannels
  let ids ← Effect.ofOption (IdText.parseAll groupIds) invalidId
  Effect.update (·.reorderChannels (trim categoryId) ids)

def deleteCategory (decision : GuardrailDecision) (token : Option Claims)
    (id : IdText) : Effect Store Status Unit := do
  let claims ← authenticate token
  Authz.require claims.sub Permissions.manageChannels
  let id ← Effect.ofOption id.parse invalidId
  guard decision claims.sub .deleteChannel id.text
  Effect.update (·.deleteCategory id)

/-- `CreateCategory` as far as the tables here go; the row itself is in one
of its own. -/
def createCategory (decision : GuardrailDecision) (token : Option Claims)
    (name : String) : Effect Store Status Unit := do
  let claims ← authenticate token
  Authz.require claims.sub Permissions.manageChannels
  Effect.check (fun _ => trim name ≠ "")
    (ServerError.invalidArgument "category name is required" : Status)
  guard decision claims.sub .createChannel (trim name)

/-- `ReorderCategories`, likewise. -/
def reorderCategories (token : Option Claims) (categoryIds : List IdText) :
    Effect Store Status (List Uuid) := do
  let claims ← authenticate token
  Authz.require claims.sub Permissions.manageChannels
  Effect.ofOption (IdText.parseAll categoryIds) invalidId

/-- `UpdateTavern`, up to the settings, which are in no table here. -/
def updateTavern (decision : GuardrailDecision) (token : Option Claims) :
    Effect Store Status Unit := do
  let claims ← authenticate token
  Authz.require claims.sub Permissions.manageServer
  guard decision claims.sub .updateServer "tavern"

structure ProfileResponse where
  username : String
  displayName : String
  avatarUrl : String
  deriving DecidableEq

def updateProfile (token : Option Claims) (displayName avatarUrl : String) :
    Effect Store Status ProfileResponse := do
  let claims ← authenticate token
  Effect.check (fun _ => trim displayName != "")
    (ServerError.invalidArgument "display name is required" : Status)
  Effect.update
    (·.updateProfile claims.sub (trim displayName) (trim avatarUrl))
  let user ← Effect.require
    (fun store => store.users.find? (·.id == claims.sub))
    (ServerError.notFound "profile")
  return ⟨user.username, user.displayName, user.avatarUrl⟩

end GroupSvc

end Accord
