import Accord.Server.Store.Accounts

/-! Groups and their members. -/

namespace Accord

namespace Store

def getGroup (groupId : Uuid) : Effect Store ServerError GroupRow :=
  Effect.require (fun store => store.groups.find? (·.id == groupId))
    (.notFound ("group " ++ groupId.text))

def isMember (store : Store) (groupId userId : Uuid) : Bool :=
  store.groupMembers.any fun row =>
    row.groupId == groupId && row.userId == userId

def groupIdsForUser (store : Store) (userId : Uuid) : List Uuid :=
  (store.groupMembers.filter (·.userId == userId)).map (·.groupId)

def deviceIdsForGroup (store : Store) (groupId : Uuid) : List Uuid :=
  (store.devices.filter fun device =>
    store.isMember groupId device.userId && device.revokedAt.isNone).map
    (·.id)

/-- `COALESCE(MAX(position), -1)` over the groups of a category. -/
def lastPosition (store : Store) (categoryId : String) : Int :=
  ((store.groups.filter (·.categoryId == categoryId)).map
    (·.position)).max?.getD (-1)

def createPublicGroup (fresh : Uuid) (name description : String)
    (channelKind : ChannelKind) (categoryId : String) :
    Effect Store ServerError Uuid := do
  Effect.check (fun store => !store.hasGroup fresh) duplicate
  Effect.update fun store =>
    { store with
      groups := store.groups ++ [{
        id := fresh, name, description, kind := .pub, channelKind, categoryId
        position := store.lastPosition categoryId + 1 }] }
  pure fresh

def createPrivateGroupWithId (id : Uuid) (name : String) :
    Effect Store ServerError Unit := do
  Effect.check (fun store => !store.hasGroup id)
    (.alreadyExists ("group " ++ id.text))
  Effect.update fun store =>
    { store with
      groups := store.groups ++ [{
        id, name, description := "", kind := .priv, channelKind := .text
        categoryId := "", position := 0 }] }

def addMember (groupId userId : Uuid) (role : String) :
    Effect Store ServerError Unit := do
  Effect.check
    (fun store => store.referencesHold
      (store.hasGroup groupId && store.hasUser userId))
    violation
  Effect.update fun store =>
    if store.isMember groupId userId then
      store
    else
      { store with
        groupMembers := store.groupMembers ++ [⟨groupId, userId, role⟩] }

def removeMember (store : Store) (groupId userId : Uuid) : Store :=
  { store with
    groupMembers := store.groupMembers.filter fun row =>
      !(row.groupId == groupId && row.userId == userId) }

theorem addMember_eq (groupId userId : Uuid) (role : String)
    (store : Store) :
    addMember groupId userId role store =
      if store.referencesHold
          (store.hasGroup groupId && store.hasUser userId) then
        (.ok (), if store.isMember groupId userId then store else
          { store with
            groupMembers :=
              store.groupMembers ++ [⟨groupId, userId, role⟩] })
      else
        (.error violation, store) := by
  simp only [addMember, Effect.check_bind]
  rfl

structure SameMembers (before after : Store) : Prop where
  devices : after.devices = before.devices
  members : after.groupMembers = before.groupMembers

namespace SameMembers

theorem refl (store : Store) : store.SameMembers store := ⟨rfl, rfl⟩

variable {before after : Store} (same : before.SameMembers after)

include same

theorem isMember (groupId userId : Uuid) :
    after.isMember groupId userId = before.isMember groupId userId := by
  unfold Store.isMember
  rw [same.members]

theorem groupIdsForUser (userId : Uuid) :
    after.groupIdsForUser userId = before.groupIdsForUser userId := by
  unfold Store.groupIdsForUser
  rw [same.members]

theorem deviceIdsForGroup (groupId : Uuid) :
    after.deviceIdsForGroup groupId = before.deviceIdsForGroup groupId := by
  unfold Store.deviceIdsForGroup
  simp only [same.devices, same.isMember]

end SameMembers

theorem isMember_iff {store : Store} {groupId userId : Uuid} :
    store.isMember groupId userId = true ↔
      ∃ row ∈ store.groupMembers,
        row.groupId = groupId ∧ row.userId = userId := by
  simp [isMember]

theorem mem_groupIdsForUser {store : Store} {groupId userId : Uuid} :
    groupId ∈ store.groupIdsForUser userId ↔
      store.isMember groupId userId = true := by
  rw [isMember_iff]
  unfold groupIdsForUser
  simp only [List.mem_map, List.mem_filter, beq_iff_eq]
  constructor
  · intro listed
    obtain ⟨row, ⟨member, sameUser⟩, sameGroup⟩ := listed
    exact ⟨row, member, sameGroup, sameUser⟩
  · intro listed
    obtain ⟨row, member, sameGroup, sameUser⟩ := listed
    exact ⟨row, ⟨member, sameUser⟩, sameGroup⟩

theorem isMember_append (store : Store) (row : GroupMemberRow)
    (group user : Uuid) :
    ({ store with groupMembers := store.groupMembers ++ [row] } :
        Store).isMember group user = true ↔
      store.isMember group user = true ∨
        row.groupId = group ∧ row.userId = user := by
  simp [isMember]

theorem isMember_removeMember (store : Store)
    (groupId userId group user : Uuid) :
    (store.removeMember groupId userId).isMember group user = true ↔
      store.isMember group user = true ∧
        ¬ (group = groupId ∧ user = userId) := by
  simp only [isMember_iff, removeMember, List.mem_filter]
  constructor
  · intro listed
    obtain ⟨row, ⟨member, kept⟩, rfl, rfl⟩ := listed
    exact ⟨⟨row, member, rfl, rfl⟩, by grind⟩
  · intro listed
    obtain ⟨⟨row, member, rfl, rfl⟩, other⟩ := listed
    exact ⟨row, ⟨member, by grind⟩, rfl, rfl⟩

end Store

end Accord
