import Accord.Server.Groups.Reads
import Accord.Server.KeyPackages

/-! The roles in the member list.  The query for them selects five columns and
the conversion of a row reads nine; the two backends end differently at the
first column that is not there. -/

namespace Accord

inductive RoleColumn where
  | id
  | name
  | permissions
  | position
  | isDefault
  | color
  | icon
  | hoist
  | mentionable
  deriving DecidableEq

/-- A row of a result: the stored role and the columns that were selected. -/
structure SelectedRole where
  columns : List RoleColumn
  stored : RoleRow

namespace SelectedRole

variable {Value : Type}

/-- A column by its name, or the name if the row has no such column. -/
def get (row : SelectedRole) (column : RoleColumn)
    (field : RoleRow → Value) : Except RoleColumn Value :=
  if column ∈ row.columns then .ok (field row.stored) else .error column

def roleFromRow (row : SelectedRole) : Except RoleColumn RoleRow := do
  let id ← row.get .id (·.id)
  let name ← row.get .name (·.name)
  let permissions ← row.get .permissions (·.permissions)
  let position ← row.get .position (·.position)
  let isDefault ← row.get .isDefault (·.isDefault)
  let color ← row.get .color (·.color)
  let icon ← row.get .icon (·.icon)
  let hoist ← row.get .hoist (·.hoist)
  let mentionable ← row.get .mentionable (·.mentionable)
  return {
    id, name, permissions, position := asI32 position, isDefault
    color, icon, hoist, mentionable }

private theorem get_of_mem {row : SelectedRole} {column : RoleColumn}
    (selected : column ∈ row.columns) (field : RoleRow → Value) :
    row.get column field = .ok (field row.stored) :=
  if_pos selected

private theorem roleFromRow_of_all {row : SelectedRole}
    (all : ∀ column, column ∈ row.columns) :
    row.roleFromRow = .ok (Store.roleFromRow row.stored) := by
  unfold roleFromRow
  simp only [get_of_mem (all _)]
  rfl

end SelectedRole

namespace Store

/-- The columns that `list_roles` and `get_role` select. -/
def roleColumns : List RoleColumn :=
  [.id, .name, .permissions, .position, .isDefault, .color, .icon, .hoist,
    .mentionable]

/-- The columns that `roles_for_user` selects. -/
def userRoleColumns : List RoleColumn :=
  [.id, .name, .permissions, .position, .isDefault]

def userRoleBefore (first second : RoleRow) : Bool :=
  first.position < second.position ||
    (first.position == second.position && first.name ≤ second.name)

def userRoleRows (store : Store) (userId : Uuid) : List SelectedRole :=
  ((store.rolesOf userId).mergeSort userRoleBefore).map fun role =>
    ⟨userRoleColumns, role⟩

private theorem mem_roleColumns (column : RoleColumn) :
    column ∈ roleColumns := by
  cases column <;> decide

theorem listRoles_converted (store : Store) :
    ((store.roles.mergeSort roleBefore).map fun role =>
        (⟨roleColumns, role⟩ : SelectedRole)).mapM
      SelectedRole.roleFromRow = .ok store.listRoles := by
  have converted :
      (SelectedRole.roleFromRow ∘ fun role => ⟨roleColumns, role⟩) =
        fun role => .ok (roleFromRow role) := by
    funext role
    exact SelectedRole.roleFromRow_of_all mem_roleColumns
  rw [List.mapM_map, converted, listRoles]
  exact List.mapM_pure

private theorem userRoleRows_eq_nil {store : Store} {userId : Uuid} :
    store.userRoleRows userId = [] ↔ store.rolesOf userId = [] := by
  rw [userRoleRows, List.map_eq_nil_iff, ← List.length_eq_zero_iff,
    List.length_mergeSort, List.length_eq_zero_iff]

end Store

/-- How a read of roles ends at a missing column: `get` panics, the derived
conversion returns an error. -/
inductive RoleFault where
  | panicked (column : RoleColumn)
  | columnNotFound (column : RoleColumn)
  deriving DecidableEq

/-- `unwrap_or_default`.  A panic ends the request, and its caller sees a
`reset`. -/
def RoleFault.unwrapOrDefault (reset : Status) :
    Except RoleFault (List RoleRow) → Except Status (List RoleRow)
  | .ok roles => .ok roles
  | .error (.columnNotFound _) => .ok []
  | .error (.panicked _) => .error reset

namespace Backend

def fault : Backend → RoleColumn → RoleFault
  | .sqlite => .panicked
  | .postgres => .columnNotFound

def rolesForUser (backend : Backend) (store : Store) (userId : Uuid) :
    Except RoleFault (List RoleRow) :=
  ((store.userRoleRows userId).mapM SelectedRole.roleFromRow).mapError
    backend.fault

def memberInfo (backend : Backend) (reset : Status)
    (server : Server) (user : UserRow) : Except Status MemberInfo := do
  let roles ← RoleFault.unwrapOrDefault reset
    (backend.rolesForUser server.store user.id)
  return {
    userId := user.id.text
    username := user.username
    displayName := user.displayName
    isOwner := user.isOwner
    online := (server.store.deviceIdsForUser user.id).any
      server.registry.isConnected
    roleIds := roles.map (·.id.text)
    avatarUrl := user.avatarUrl }

def listMembers (backend : Backend) (reset : Status)
    (token : Option Claims)
    (groupId : Option IdText) : Effect Server Status (List MemberInfo) := do
  let claims ← authenticate token
  let groupId ← Server.onStore (GroupSvc.requireGroupId groupId)
  Server.onStore (Effect.check (·.isMember groupId claims.sub)
    (ServerError.permissionDenied : Status))
  let members ← Effect.read fun server =>
    (server.store.listMembers groupId).mapM
      (backend.memberInfo reset server)
  Effect.ofExcept members

/-! A read of roles succeeds only where there is none. -/

variable {backend : Backend} {reset : Status} {store : Store} {userId : Uuid}

private theorem rolesForUser_of_unassigned
    (unassigned : store.rolesOf userId = []) :
    backend.rolesForUser store userId = .ok [] := by
  rw [rolesForUser, Store.userRoleRows_eq_nil.mpr unassigned]
  rfl

private theorem rolesForUser_of_assigned
    (assigned : store.rolesOf userId ≠ []) :
    backend.rolesForUser store userId = .error (backend.fault .color) := by
  cases rows : store.userRoleRows userId with
  | nil => exact absurd (Store.userRoleRows_eq_nil.mp rows) assigned
  | cons row rest =>
      have stored : row ∈ store.userRoleRows userId := by simp [rows]
      obtain ⟨role, -, rfl⟩ := List.mem_map.mp stored
      rw [rolesForUser, rows, List.mapM_cons]
      rfl

/-- What the handler gets for a member that has a role. -/
def unreadable (backend : Backend) (reset : Status) :
    Except Status (List RoleRow) :=
  RoleFault.unwrapOrDefault reset (.error (backend.fault .color))

private theorem unwrapOrDefault_rolesForUser (backend : Backend)
    (reset : Status)
    (store : Store) (userId : Uuid) :
    RoleFault.unwrapOrDefault reset (backend.rolesForUser store userId) =
      store.rolesForUser (backend.unreadable reset) userId := by
  unfold Store.rolesForUser
  split
  · rename_i unassigned
    rw [rolesForUser_of_unassigned (List.isEmpty_iff.mp unassigned)]
    rfl
  · rename_i assigned
    rw [rolesForUser_of_assigned (mt List.isEmpty_iff.mpr assigned)]
    rfl

private theorem memberInfo_eq (backend : Backend) (reset : Status)
    (server : Server) :
    backend.memberInfo reset server =
      GroupSvc.memberInfo (backend.unreadable reset) server := by
  funext user
  rw [memberInfo, unwrapOrDefault_rolesForUser, GroupSvc.memberInfo]

/-- Each backend is an instance of the handler with its outcome as an
argument. -/
theorem listMembers_eq (backend : Backend) (reset : Status)
    (token : Option Claims)
    (groupId : Option IdText) :
    backend.listMembers reset token groupId =
      GroupSvc.listMembers (backend.unreadable reset) token
        groupId := by
  simp only [listMembers, memberInfo_eq, GroupSvc.listMembers]

/-! What the list tells of one member, and then of all of them. -/

/-- The entry of a member carries the ids of the roles assigned to it. -/
def Reports (store : Store) (user : UserRow) (info : MemberInfo) : Prop :=
  info.userId = user.id.text ∧
    info.roleIds.Perm ((store.rolesOf user.id).map (·.id.text))

private theorem memberInfo_reports_iff (backend : Backend) (reset : Status)
    (server : Server) (user : UserRow) :
    (∃ info, backend.memberInfo reset server user = .ok info ∧
        Reports server.store user info) ↔
      server.store.rolesOf user.id = [] := by
  constructor
  · rintro ⟨info, told, -, same⟩
    apply Classical.byContradiction
    intro assigned
    rw [memberInfo, rolesForUser_of_assigned assigned] at told
    cases backend with
    | sqlite => cases told
    | postgres =>
        cases told
        exact assigned (List.map_eq_nil_iff.mp (List.nil_perm.mp same))
  · intro unassigned
    rw [memberInfo, rolesForUser_of_unassigned unassigned]
    refine ⟨_, rfl, rfl, ?_⟩
    rw [unassigned]

private theorem listMembers_of_admitted {server : Server} {claims : Claims}
    {text : Option IdText} {groupId : Uuid}
    (parsed : text.bind IdText.parse = some groupId)
    (member : server.store.isMember groupId claims.sub = true)
    (backend : Backend) (reset : Status) :
    (backend.listMembers reset (some claims) text server).1 =
      (server.store.listMembers groupId).mapM
        (backend.memberInfo reset server) := by
  rw [listMembers, authenticate_bind,
    Effect.bind_of_ok (Server.onStore_of_ok
      (GroupSvc.requireGroupId_of_parsed parsed)),
    Effect.bind_of_ok (Server.onStore_of_ok
      (Effect.check_of_true
        (fun store : Store => store.isMember groupId claims.sub) member _))]
  rfl

/-- The list gives every member the roles assigned to it exactly where nobody
in the group has one: one backend ends the call, the other leaves the ids
out. -/
theorem listMembers_reports_iff (backend : Backend) (reset : Status)
    (server : Server) (claims : Claims)
    (text : Option IdText) (groupId : Uuid)
    (parsed : text.bind IdText.parse = some groupId)
    (member : server.store.isMember groupId claims.sub = true) :
    (∃ infos,
        (backend.listMembers reset (some claims) text server).1 =
          .ok infos ∧
        List.Forall₂ (Reports server.store)
          (server.store.listMembers groupId) infos) ↔
      ∀ user ∈ server.store.listMembers groupId,
        server.store.rolesOf user.id = [] := by
  rw [listMembers_of_admitted parsed member, Effect.exists_mapM_ok_iff]
  simp only [memberInfo_reports_iff]

def crew (memberRoles : List MemberRoleRow) : Server where
  store := {
    users := [⟨1, "root", "Root", "", true, false, none, ""⟩]
    groups := [⟨7, "general", "", .pub, .text, "", 0⟩]
    groupMembers := [⟨7, 1, "owner"⟩]
    roles := [⟨10, "Crew", 0, 1, false, "", "", false, false⟩]
    memberRoles }

theorem crew_reports :
    ∃ infos,
      (Backend.sqlite.listMembers ⟨.internal, ""⟩ (some ⟨1, 0⟩)
        (some (.uuid 7)) (crew [])).1 = .ok infos ∧
      List.Forall₂ (Reports (crew []).store) ((crew []).store.listMembers 7)
        infos :=
  (listMembers_reports_iff .sqlite ⟨.internal, ""⟩ (crew [])
    ⟨1, 0⟩ (some (.uuid 7)) 7 rfl (by decide)).mpr fun _ _ => rfl

private theorem not_reports_crew (backend : Backend) :
    ¬ ∃ infos,
      (backend.listMembers ⟨.internal, ""⟩ (some ⟨1, 0⟩)
        (some (.uuid 7)) (crew [⟨1, 10⟩])).1 = .ok infos ∧
      List.Forall₂ (Reports (crew [⟨1, 10⟩]).store)
        ((crew [⟨1, 10⟩]).store.listMembers 7) infos := by
  have parsed : (some (IdText.uuid 7)).bind IdText.parse = some 7 := rfl
  rw [listMembers_of_admitted parsed (by decide), Effect.exists_mapM_ok_iff]
  intro told
  have root : (⟨1, "root", "Root", "", true, false, none, ""⟩ : UserRow) ∈
      (crew [⟨1, 10⟩]).store.listMembers 7 := by
    rw [Store.listMembers, List.mem_mergeSort]
    decide
  have unassigned := (memberInfo_reports_iff backend _ _ _).mp
    (told _ root)
  exact absurd unassigned (by decide)

theorem crew_unreported :
    (¬ ∃ infos,
      (Backend.sqlite.listMembers ⟨.internal, ""⟩ (some ⟨1, 0⟩)
        (some (.uuid 7)) (crew [⟨1, 10⟩])).1 = .ok infos ∧
      List.Forall₂ (Reports (crew [⟨1, 10⟩]).store)
        ((crew [⟨1, 10⟩]).store.listMembers 7) infos) ∧
    ¬ ∃ infos,
      (Backend.postgres.listMembers ⟨.internal, ""⟩
        (some ⟨1, 0⟩) (some (.uuid 7)) (crew [⟨1, 10⟩])).1 = .ok infos ∧
      List.Forall₂ (Reports (crew [⟨1, 10⟩]).store)
        ((crew [⟨1, 10⟩]).store.listMembers 7) infos :=
  ⟨not_reports_crew .sqlite, not_reports_crew .postgres⟩

end Backend

end Accord
