import Accord.Server.Store.Model
import Accord.Library.Peak

/-! Role rows, their assignment to members, and the two quantities derived
from them: the highest assigned position and the combined permission bits. -/

namespace Accord

namespace Store

def isOwner (store : Store) (userId : Uuid) : Bool :=
  store.users.any fun user => user.id == userId && user.isOwner

def isUserGuest (store : Store) (userId : Uuid) : Bool :=
  store.users.any fun user => user.id == userId && user.isGuest

def roleIds (store : Store) : List Uuid := store.roles.map (·.id)

def hasRole (store : Store) (userId roleId : Uuid) : Bool :=
  store.memberRoles.contains ⟨userId, roleId⟩

/-- `COALESCE(MAX(position), 0)`. -/
def maxPosition (roles : List RoleRow) : Int :=
  Peak.peak 0 (roles.map (·.position))

def createRole (store : Store) (id : Uuid) (write : RoleWrite) : Store :=
  { store with
    roles := store.roles ++ [{
      id, name := write.name, permissions := write.permissions
      position := maxPosition store.roles + 1, isDefault := false
      color := write.color, icon := write.icon
      hoist := write.hoist, mentionable := write.mentionable }] }

/-- Positions are read back as `i32`. -/
def roleFromRow (role : RoleRow) : RoleRow :=
  { role with position := asI32 role.position }

def roleBefore (first second : RoleRow) : Bool :=
  second.position < first.position ||
    (first.position == second.position && first.name ≤ second.name)

def listRoles (store : Store) : List RoleRow :=
  (store.roles.mergeSort roleBefore).map roleFromRow

def getRole (store : Store) (id : Uuid) : Option RoleRow :=
  (store.roles.find? (·.id == id)).map roleFromRow

def overwrite (role : RoleRow) (write : RoleWrite) : RoleRow :=
  { role with
    name := write.name, permissions := write.permissions
    color := write.color, icon := write.icon
    hoist := write.hoist, mentionable := write.mentionable }

def updateRole (store : Store) (id : Uuid) (write : RoleWrite) : Store :=
  { store with
    roles := store.roles.map fun role =>
      if role.id == id then overwrite role write else role }

def deleteRole (store : Store) (id : Uuid) : Store :=
  { store with
    memberRoles := store.memberRoles.filter (·.roleId != id)
    roles := store.roles.filter fun role => role.id != id || role.isDefault }

def setPosition (position : Int) (id : Uuid) (roles : List RoleRow) :
    List RoleRow :=
  roles.map fun role =>
    if role.id == id && !role.isDefault then
      { role with position := position }
    else
      role

/-- Positions from a top-first list: the first id gets the length of the
list, each later one a position lower. -/
def reorderRoles (store : Store) (orderedTopFirst : List Uuid) : Store :=
  let count : Int := orderedTopFirst.length
  { store with
    roles := orderedTopFirst.zipIdx.foldl
      (fun roles entry => setPosition (count - entry.2) entry.1 roles)
      store.roles }

def assignRole (store : Store) (userId roleId : Uuid) : Store :=
  if store.hasRole userId roleId then
    store
  else
    { store with memberRoles := store.memberRoles ++ [⟨userId, roleId⟩] }

def unassignRole (store : Store) (userId roleId : Uuid) : Store :=
  { store with
    memberRoles := store.memberRoles.filter (· != ⟨userId, roleId⟩) }

def rolesOf (store : Store) (userId : Uuid) : List RoleRow :=
  store.roles.filter fun role => store.hasRole userId role.id

def highestRolePosition (store : Store) (userId : Uuid) : Int :=
  asI32 (maxPosition (store.rolesOf userId))

def memberPermissions (store : Store) (userId : Uuid) : BitVec 64 :=
  (store.roles.filter fun role =>
      role.isDefault || store.hasRole userId role.id).foldl
    (fun bits role => bits ||| role.permissions) 0

/-! Assignments after each statement. -/

section Assignments

variable (store : Store) (userId roleId : Uuid)

theorem hasRole_iff :
    store.hasRole userId roleId = true ↔
      (⟨userId, roleId⟩ : MemberRoleRow) ∈ store.memberRoles := by
  simp [hasRole]

@[simp] theorem hasRole_createRole (id : Uuid) (write : RoleWrite) :
    (store.createRole id write).hasRole userId roleId =
      store.hasRole userId roleId := rfl

@[simp] theorem hasRole_updateRole (id : Uuid) (write : RoleWrite) :
    (store.updateRole id write).hasRole userId roleId =
      store.hasRole userId roleId := rfl

@[simp] theorem hasRole_reorderRoles (ids : List Uuid) :
    (store.reorderRoles ids).hasRole userId roleId =
      store.hasRole userId roleId := rfl

theorem hasRole_deleteRole (id : Uuid) :
    (store.deleteRole id).hasRole userId roleId = true ↔
      store.hasRole userId roleId = true ∧ roleId ≠ id := by
  simp [hasRole_iff, deleteRole]

theorem hasRole_assignRole (user role : Uuid) :
    (store.assignRole user role).hasRole userId roleId = true ↔
      store.hasRole userId roleId = true ∨
        (userId = user ∧ roleId = role) := by
  unfold assignRole
  split
  · rename_i present
    constructor
    · exact Or.inl
    · rintro (held | ⟨rfl, rfl⟩)
      · exact held
      · exact present
  · simp [hasRole_iff]

theorem hasRole_unassignRole (user role : Uuid) :
    (store.unassignRole user role).hasRole userId roleId = true ↔
      store.hasRole userId roleId = true ∧
        ¬(userId = user ∧ roleId = role) := by
  simp [hasRole_iff, unassignRole]

@[simp] theorem roles_assignRole (user role : Uuid) :
    (store.assignRole user role).roles = store.roles := by
  unfold assignRole
  split <;> rfl

end Assignments

/-! What a reorder writes: an ordinary listed role ends at a position counted
from the end of the list, every other role where it was. -/

/-- Where writing the entries in order leaves a role. -/
def placed (count : Int) : List (Uuid × ℕ) → RoleRow → Int
  | [], role => role.position
  | entry :: rest, role =>
      placed count rest
        (if role.id == entry.1 && !role.isDefault then
          { role with position := count - entry.2 }
        else
          role)

private theorem foldl_setPosition (count : Int) (entries : List (Uuid × ℕ))
    (roles : List RoleRow) :
    entries.foldl
        (fun roles entry => setPosition (count - entry.2) entry.1 roles)
        roles =
      roles.map fun role =>
        { role with position := placed count entries role } := by
  induction entries generalizing roles with
  | nil => simp [placed]
  | cons entry rest induction =>
      rw [List.foldl_cons, induction, setPosition, List.map_map]
      apply List.map_congr_left
      intro role _
      simp only [Function.comp_apply, placed]
      split <;> rfl

theorem placed_eq_or (count : Int) (entries : List (Uuid × ℕ))
    (role : RoleRow) :
    placed count entries role = role.position ∨
      role.isDefault = false ∧ ∃ entry ∈ entries, entry.1 = role.id ∧
        placed count entries role = count - entry.2 := by
  induction entries generalizing role with
  | nil => exact Or.inl rfl
  | cons entry rest induction =>
      simp only [placed]
      by_cases listed : (role.id == entry.1 && !role.isDefault) = true
      · rw [if_pos listed]
        simp only [Bool.and_eq_true, beq_iff_eq, Bool.not_eq_true'] at listed
        rcases induction { role with position := count - entry.2 } with
          kept | ⟨ordinary, later, laterMember, sameId, equality⟩
        · exact Or.inr ⟨listed.2, entry, by simp, listed.1.symm, kept⟩
        · exact Or.inr ⟨ordinary, later, by simp [laterMember], sameId,
            equality⟩
      · rw [if_neg listed]
        rcases induction role with
          kept | ⟨ordinary, later, laterMember, sameId, equality⟩
        · exact Or.inl kept
        · exact Or.inr ⟨ordinary, later, by simp [laterMember], sameId,
            equality⟩

theorem reorderRoles_roles (store : Store) (ids : List Uuid) :
    (store.reorderRoles ids).roles =
      store.roles.map fun role =>
        { role with position := placed ids.length ids.zipIdx role } :=
  foldl_setPosition _ _ _

/-! The stored ids after each statement. -/

section Ids

variable (store : Store) (id : Uuid) (write : RoleWrite)

theorem roleIds_createRole :
    (store.createRole id write).roleIds = store.roleIds ++ [id] := by
  simp [roleIds, createRole]

theorem roleIds_updateRole :
    (store.updateRole id write).roleIds = store.roleIds := by
  unfold roleIds updateRole
  rw [List.map_map]
  apply List.map_congr_left
  intro role _
  simp only [Function.comp_apply]
  split <;> rfl

theorem roleIds_deleteRole :
    (store.deleteRole id).roleIds.Sublist store.roleIds :=
  List.filter_sublist.map _

theorem roleIds_reorderRoles (ids : List Uuid) :
    (store.reorderRoles ids).roleIds = store.roleIds := by
  simp [roleIds, reorderRoles_roles]

theorem roleIds_assignRole (userId : Uuid) :
    (store.assignRole userId id).roleIds = store.roleIds := by
  simp [roleIds]

end Ids

/-! What the schema and the code keep true of the role tables: ids are a
primary key, and positions are the `i32` numbers from zero on. -/

structure RolesWellFormed (store : Store) : Prop where
  ids_nodup : store.roleIds.Nodup
  position_nonneg : ∀ role ∈ store.roles, 0 ≤ role.position
  position_le : ∀ role ∈ store.roles, role.position ≤ i32Max

end Store

end Accord
