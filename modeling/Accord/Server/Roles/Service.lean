import Accord.Server.Authz

/-! `RoleService`, one computation over the store for each RPC. -/

namespace Accord

namespace RoleSvc

structure CreateRoleRequest where
  name : String
  permissions : String
  color : String := ""
  icon : String := ""
  hoist : Bool := false
  mentionable : Bool := false

structure UpdateRoleRequest where
  id : IdText
  name : String
  permissions : String
  color : String := ""
  icon : String := ""
  hoist : Bool := false
  mentionable : Bool := false

/-- A request is decoded only up to four MiB, and every listed id takes at
least two bytes of it. -/
structure ReorderRolesRequest where
  roleIds : List IdText
  decoded : 2 * roleIds.length ≤ 4 * 1024 * 1024

structure AssignRoleRequest where
  userId : Option IdText
  roleId : IdText

structure Role where
  id : String
  name : String
  permissions : String
  position : Int
  isDefault : Bool
  color : String
  icon : String
  hoist : Bool
  mentionable : Bool

def roleToProto (role : RoleRow) : Role where
  id := role.id.text
  name := role.name
  permissions := toString role.permissions.toNat
  position := role.position
  isDefault := role.isDefault
  color := role.color
  icon := role.icon
  hoist := role.hoist
  mentionable := role.mentionable

def parsePerms (text : String) : Effect Store Status Permissions :=
  if trim text == "" then
    pure Permissions.empty
  else
    Effect.ofOption (Permissions.parse (trim text))
      (ServerError.invalidArgument "bad permissions")

def caller (token : Option Claims) : Effect Store Status Uuid := do
  let claims ← authenticate token
  pure claims.sub

def requireUserId (userId : Option IdText) : Effect Store Status Uuid := do
  let text ← Effect.ofOption userId
    (ServerError.invalidArgument "user_id is required")
  parseUuid text "user id"

def requireRole (id : Uuid) : Effect Store Status RoleRow :=
  Effect.require (·.getRole id) (ServerError.notFound "role")

def guardAdminEscalation (caller : Uuid) (target : Permissions) :
    Effect Store Status Unit :=
  Effect.check
    (fun store =>
      !target.isAdmin || (Authz.effective store caller).isAdmin)
    ServerError.permissionDenied

def listRoles (token : Option Claims) : Effect Store Status (List Role) := do
  let _ ← caller token
  let roles ← Effect.read (·.listRoles)
  pure (roles.map roleToProto)

/-- `fresh` is the id `Uuid::now_v7` hands out. -/
def createRole (fresh : Uuid) (token : Option Claims)
    (req : CreateRoleRequest) : Effect Store Status Role := do
  let caller ← caller token
  Authz.require caller Permissions.manageRoles
  let perms ← parsePerms req.permissions
  guardAdminEscalation caller perms
  Effect.check (fun _ => trim req.name != "")
    (ServerError.invalidArgument "role name is required" : Status)
  Effect.update (·.createRole fresh {
    name := trim req.name, permissions := perms.bits, color := req.color
    icon := req.icon, hoist := req.hoist, mentionable := req.mentionable })
  let role ← requireRole fresh
  pure (roleToProto role)

def updateRole (token : Option Claims) (req : UpdateRoleRequest) :
    Effect Store Status Role := do
  let caller ← caller token
  Authz.require caller Permissions.manageRoles
  let id ← parseUuid req.id "role id"
  let perms ← parsePerms req.permissions
  guardAdminEscalation caller perms
  let existing ← requireRole id
  Authz.requireRoleBelow caller existing.position
  Effect.update (·.updateRole id {
    name := trim req.name, permissions := perms.bits, color := req.color
    icon := req.icon, hoist := req.hoist, mentionable := req.mentionable })
  let role ← requireRole id
  pure (roleToProto role)

def deleteRole (token : Option Claims) (id : IdText) :
    Effect Store Status Unit := do
  let caller ← caller token
  Authz.require caller Permissions.manageRoles
  let id ← parseUuid id "role id"
  let role ← requireRole id
  Effect.check (fun _ => !role.isDefault)
    (ServerError.invalidArgument "cannot delete the @everyone role" : Status)
  Authz.requireRoleBelow caller role.position
  Effect.update (·.deleteRole id)

/-- The position the handler computes for the `index`-th id, in `i32`. -/
def newPosition (count index : ℕ) : Int :=
  asI32 (asI32 count - asI32 index)

def validateReorder (rank : Int) (count : ℕ) (entry : Uuid × ℕ) :
    Effect Store Status Unit := do
  let role ← requireRole entry.1
  Effect.check (fun _ => !role.isDefault)
    (ServerError.invalidArgument
      "the @everyone role cannot be reordered" : Status)
  Effect.check
    (fun _ => role.position < rank && newPosition count entry.2 < rank)
    (ServerError.permissionDenied : Status)

def reorderRoles (token : Option Claims) (req : ReorderRolesRequest) :
    Effect Store Status Unit := do
  let caller ← caller token
  Authz.require caller Permissions.manageRoles
  let ids ← Effect.ofOption (IdText.parseAll req.roleIds)
    (ServerError.invalidArgument "invalid role id")
  let rank ← Effect.read (Authz.rank · caller)
  Effect.forEach (validateReorder rank ids.length) ids.zipIdx
  Effect.update (·.reorderRoles ids)

def assignRole (token : Option Claims) (req : AssignRoleRequest) :
    Effect Store Status Unit := do
  let caller ← caller token
  Authz.require caller Permissions.manageRoles
  let userId ← requireUserId req.userId
  let roleId ← parseUuid req.roleId "role id"
  let role ← requireRole roleId
  guardAdminEscalation caller (Permissions.fromBits role.permissions)
  Authz.requireRoleBelow caller role.position
  Authz.requireOutranks caller userId
  Effect.update (·.assignRole userId roleId)

def unassignRole (token : Option Claims) (req : AssignRoleRequest) :
    Effect Store Status Unit := do
  let caller ← caller token
  Authz.require caller Permissions.manageRoles
  let userId ← requireUserId req.userId
  let roleId ← parseUuid req.roleId "role id"
  let role ← requireRole roleId
  Authz.requireRoleBelow caller role.position
  Authz.requireOutranks caller userId
  Effect.update (·.unassignRole userId roleId)

def getMyPermissions (token : Option Claims) :
    Effect Store Status (String × Bool) := do
  let caller ← caller token
  let perms ← Effect.read (Authz.effective · caller)
  let isOwner ← Effect.read (·.isOwner caller)
  pure (toString perms.bits.toNat, isOwner)

end RoleSvc

inductive RoleCall where
  | listRoles
  | createRole (fresh : Uuid) (req : RoleSvc.CreateRoleRequest)
  | updateRole (req : RoleSvc.UpdateRoleRequest)
  | deleteRole (id : IdText)
  | reorderRoles (req : RoleSvc.ReorderRolesRequest)
  | assignRole (req : RoleSvc.AssignRoleRequest)
  | unassignRole (req : RoleSvc.AssignRoleRequest)
  | getMyPermissions

namespace RoleCall

/-- The store after the call, whether it succeeded or not. -/
def after (call : RoleCall) (token : Option Claims) (store : Store) : Store :=
  match call with
  | .listRoles => (RoleSvc.listRoles token store).2
  | .createRole fresh req => (RoleSvc.createRole fresh token req store).2
  | .updateRole req => (RoleSvc.updateRole token req store).2
  | .deleteRole id => (RoleSvc.deleteRole token id store).2
  | .reorderRoles req => (RoleSvc.reorderRoles token req store).2
  | .assignRole req => (RoleSvc.assignRole token req store).2
  | .unassignRole req => (RoleSvc.unassignRole token req store).2
  | .getMyPermissions => (RoleSvc.getMyPermissions token store).2

/-- A created id is one that no role has and no assignment mentions. -/
def Fresh (store : Store) : RoleCall → Prop
  | .createRole fresh _ =>
      fresh ∉ store.roleIds ∧ ∀ row ∈ store.memberRoles, row.roleId ≠ fresh
  | _ => True

end RoleCall

end Accord
