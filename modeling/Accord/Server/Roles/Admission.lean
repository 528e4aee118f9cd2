import Accord.Server.Groups.Moderation
import Accord.Server.Roles.Ceiling

/-! When a role mutation goes through: the checks of each handler, in one
statement for each. -/

namespace Accord

namespace RoleSvc

/-- Nobody but an administrator hands out the administrator bit. -/
def escalates (store : Store) (caller : Uuid) (perms : Permissions) : Bool :=
  perms.isAdmin && !(Authz.effective store caller).isAdmin

def mayManage (store : Store) (caller : Uuid) : Bool :=
  (Authz.effective store caller).allows Permissions.manageRoles

end RoleSvc

namespace RoleCall

open RoleSvc Effect

def action : RoleCall → Option ActionClass
  | .createRole _ _ => some .createRole
  | .updateRole _ => some .updateRole
  | .deleteRole _ => some .deleteRole
  | .assignRole _ => some .assignRole
  | _ => none

def run (token : Option Claims) : RoleCall → Effect Store Status Unit
  | .listRoles => do
      let _ ← RoleSvc.listRoles token
  | .createRole fresh req => do
      let _ ← RoleSvc.createRole fresh token req
  | .updateRole req => do
      let _ ← RoleSvc.updateRole token req
  | .deleteRole id => RoleSvc.deleteRole token id
  | .reorderRoles req => RoleSvc.reorderRoles token req
  | .assignRole req => RoleSvc.assignRole token req
  | .unassignRole req => RoleSvc.unassignRole token req
  | .getMyPermissions => do
      let _ ← RoleSvc.getMyPermissions token

/-- The mutation passes every check of its handler. -/
def Admitted (store : Store) (caller : Uuid) : RoleCall → Prop
  | .createRole _ req =>
      mayManage store caller = true ∧ ∃ perms,
        permsOf req.permissions = some perms ∧
          escalates store caller perms = false ∧ trim req.name ≠ ""
  | .updateRole req =>
      mayManage store caller = true ∧ ∃ id, req.id.parse = some id ∧
        ∃ perms, permsOf req.permissions = some perms ∧
          escalates store caller perms = false ∧
            ∃ role, store.getRole id = some role ∧
              role.position < Authz.rank store caller
  | .deleteRole text =>
      mayManage store caller = true ∧ ∃ id, text.parse = some id ∧
        ∃ role, store.getRole id = some role ∧ role.isDefault = false ∧
          role.position < Authz.rank store caller
  | .assignRole req =>
      mayManage store caller = true ∧
        ∃ userId, req.userId.bind IdText.parse = some userId ∧
          ∃ id, req.roleId.parse = some id ∧
            ∃ role, store.getRole id = some role ∧
              escalates store caller
                (Permissions.fromBits role.permissions) = false ∧
              role.position < Authz.rank store caller ∧
                Authz.canActOn store caller userId = true
  | _ => False

section Checks

variable {store : Store} {Value : Type}

private theorem caller_bind (claims : Claims)
    (rest : Uuid → Effect Store Status Value) :
    (caller (some claims) >>= rest) = rest claims.sub := rfl

private theorem discard_succeeds {effect : Effect Store Status Value} :
    Succeeds (effect >>= fun _ => pure ()) store ↔
      effect.Succeeds store := by
  rw [succeeds_bind]
  exact ⟨fun ⟨value, passed, _⟩ => ⟨value, passed⟩,
    fun ⟨value, passed⟩ => ⟨value, passed, succeeds_pure () _⟩⟩

private theorem succeeds_guardAdminEscalation_bind {user : Uuid}
    {perms : Permissions} {rest : Unit → Effect Store Status Value} :
    Succeeds (guardAdminEscalation user perms >>= rest) store ↔
      escalates store user perms = false ∧ (rest ()).Succeeds store := by
  rw [guardAdminEscalation, succeeds_check_bind]
  refine and_congr_left fun _ => ?_
  unfold escalates
  cases perms.isAdmin <;> cases (Authz.effective store user).isAdmin <;> simp

private theorem succeeds_requireUserId_bind {text : Option IdText}
    {rest : Uuid → Effect Store Status Value} :
    Succeeds (requireUserId text >>= rest) store ↔
      ∃ userId, text.bind IdText.parse = some userId ∧
        (rest userId).Succeeds store := by
  rw [requireUserId, bind_assoc, succeeds_ofOption_bind]
  simp only [parseUuid, succeeds_ofOption_bind]
  cases text with
  | none => simp
  | some value => simp

end Checks

theorem getRole_createRole (store : Store) (fresh : Uuid)
    (write : RoleWrite) :
    ((store.createRole fresh write).getRole fresh).isSome = true := by
  simp [Store.getRole, Store.createRole, List.find?_append]

private theorem getRole_updateRole {store : Store} {id : Uuid} {role : RoleRow}
    (found : store.getRole id = some role) (write : RoleWrite) :
    ((store.updateRole id write).getRole id).isSome = true := by
  rw [Store.getRole, Option.map_eq_some_iff] at found
  obtain ⟨row, stored, -⟩ := found
  have sameId : row.id = id := by simpa using List.find?_some stored
  rw [Store.getRole, Option.isSome_map, List.find?_isSome]
  refine ⟨Store.overwrite row write, ?_, beq_iff_eq.mpr sameId⟩
  refine List.mem_map.mpr ⟨row, List.mem_of_find?_eq_some stored, ?_⟩
  rw [if_pos (by simpa using sameId)]

private theorem createRole_succeeds {store : Store} (claims : Claims)
    (fresh : Uuid)
    (req : CreateRoleRequest) :
    (RoleSvc.createRole fresh (some claims) req).Succeeds store ↔
      (createRole fresh req).Admitted store claims.sub := by
  simp only [RoleSvc.createRole, caller_bind, Authz.require, requireRole,
    parsePerms_eq, succeeds_check_bind, succeeds_ofOption_bind,
    succeeds_guardAdminEscalation_bind, succeeds_update_bind,
    succeeds_require_bind, Admitted, mayManage, bne_iff_ne]
  refine and_congr_right fun _ => exists_congr fun perms => ?_
  refine and_congr_right fun _ => and_congr_right fun _ => ?_
  refine and_iff_left ?_
  obtain ⟨role, found⟩ := Option.isSome_iff_exists.mp
    (getRole_createRole store fresh _)
  exact ⟨role, found, succeeds_pure _ _⟩

private theorem updateRole_succeeds {store : Store} (claims : Claims)
    (req : UpdateRoleRequest) :
    (RoleSvc.updateRole (some claims) req).Succeeds store ↔
      (updateRole req).Admitted store claims.sub := by
  simp only [RoleSvc.updateRole, caller_bind, Authz.require, requireRole,
    parsePerms_eq, parseUuid, Authz.requireRoleBelow, succeeds_check_bind,
    succeeds_ofOption_bind, succeeds_guardAdminEscalation_bind,
    succeeds_update_bind, succeeds_require_bind, Admitted, mayManage,
    decide_eq_true_eq]
  refine and_congr_right fun _ => exists_congr fun id => ?_
  refine and_congr_right fun _ => exists_congr fun perms => ?_
  refine and_congr_right fun _ => and_congr_right fun _ => ?_
  refine exists_congr fun role => and_congr_right fun found => ?_
  refine and_iff_left ?_
  obtain ⟨updated, again⟩ := Option.isSome_iff_exists.mp
    (getRole_updateRole found _)
  exact ⟨updated, again, succeeds_pure _ _⟩

private theorem deleteRole_succeeds {store : Store} (claims : Claims)
    (text : IdText) :
    (RoleSvc.deleteRole (some claims) text).Succeeds store ↔
      (deleteRole text).Admitted store claims.sub := by
  simp only [RoleSvc.deleteRole, caller_bind, Authz.require, requireRole,
    parseUuid, Authz.requireRoleBelow, succeeds_check_bind,
    succeeds_ofOption_bind, succeeds_update, succeeds_require_bind, Admitted,
    mayManage, decide_eq_true_eq, Bool.not_eq_true', and_true]

private theorem assignRole_succeeds {store : Store} (claims : Claims)
    (req : AssignRoleRequest) :
    (RoleSvc.assignRole (some claims) req).Succeeds store ↔
      (assignRole req).Admitted store claims.sub := by
  simp only [RoleSvc.assignRole, caller_bind, Authz.require, requireRole,
    parseUuid, Authz.requireRoleBelow, Authz.requireOutranks,
    succeeds_check_bind, succeeds_ofOption_bind, succeeds_update,
    succeeds_require_bind, succeeds_guardAdminEscalation_bind,
    succeeds_requireUserId_bind, Admitted, mayManage, decide_eq_true_eq,
    and_true]

theorem run_succeeds_iff {store : Store} (claims : Claims) {call : RoleCall}
    {classed : ActionClass} (known : call.action = some classed) :
    (call.run (some claims)).Succeeds store ↔
      call.Admitted store claims.sub := by
  cases call with
  | createRole fresh req =>
      exact discard_succeeds.trans (createRole_succeeds claims fresh req)
  | updateRole req =>
      exact discard_succeeds.trans (updateRole_succeeds claims req)
  | deleteRole text => exact deleteRole_succeeds claims text
  | assignRole req => exact assignRole_succeeds claims req
  | _ => cases known

theorem run_store (call : RoleCall) (token : Option Claims) (store : Store) :
    (call.run token store).2 = call.after token store := by
  have discard : ∀ {Value : Type} (effect : Effect Store Status Value),
      ((effect >>= fun _ => pure () : Effect Store Status Unit)
        store).2 = (effect store).2 := by
    intro Value effect
    rcases ran : effect store with ⟨result, after⟩
    cases result with
    | ok value => rw [bind_of_ok ran]; rfl
    | error status => rw [bind_of_error ran]
  cases call with
  | listRoles => exact discard _
  | createRole fresh req => exact discard _
  | updateRole req => exact discard _
  | getMyPermissions => exact discard _
  | _ => rfl

end RoleCall

end Accord
