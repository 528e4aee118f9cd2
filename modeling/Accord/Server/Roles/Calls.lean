import Accord.Server.Roles.Service
import Mathlib.Data.List.Nodup

/-! Everything a role call can do to the store, with the checks that let it
happen.  Later results split on these cases and never reopen the handlers. -/

namespace Accord

/-- The store a role call of `caller` may leave behind. -/
inductive RoleWritten (store : Store) (caller : Uuid) :
    RoleCall → Store → Prop
  | unchanged {call : RoleCall} : RoleWritten store caller call store
  | created {fresh : Uuid} {req : RoleSvc.CreateRoleRequest}
      (write : RoleWrite)
      (allowed : (Authz.effective store caller).allows
        Permissions.manageRoles = true)
      (escalation : (Permissions.fromBits write.permissions).isAdmin = true →
        (Authz.effective store caller).isAdmin = true) :
      RoleWritten store caller (.createRole fresh req)
        (store.createRole fresh write)
  | updated {req : RoleSvc.UpdateRoleRequest}
      (id : Uuid) (write : RoleWrite) (role : RoleRow)
      (allowed : (Authz.effective store caller).allows
        Permissions.manageRoles = true)
      (escalation : (Permissions.fromBits write.permissions).isAdmin = true →
        (Authz.effective store caller).isAdmin = true)
      (found : store.getRole id = some role)
      (below : role.position < Authz.rank store caller) :
      RoleWritten store caller (.updateRole req) (store.updateRole id write)
  | deleted {text : IdText} (id : Uuid) (role : RoleRow)
      (allowed : (Authz.effective store caller).allows
        Permissions.manageRoles = true)
      (found : store.getRole id = some role)
      (ordinary : role.isDefault = false)
      (below : role.position < Authz.rank store caller) :
      RoleWritten store caller (.deleteRole text) (store.deleteRole id)
  | reordered {req : RoleSvc.ReorderRolesRequest} (ids : List Uuid)
      (allowed : (Authz.effective store caller).allows
        Permissions.manageRoles = true)
      (short : ids.length = req.roleIds.length)
      (validated : ∀ entry ∈ ids.zipIdx, ∃ role,
        store.getRole entry.1 = some role ∧ role.isDefault = false ∧
          role.position < Authz.rank store caller ∧
          RoleSvc.newPosition ids.length entry.2 <
            Authz.rank store caller) :
      RoleWritten store caller (.reorderRoles req) (store.reorderRoles ids)
  | assigned {req : RoleSvc.AssignRoleRequest}
      (userId roleId : Uuid) (role : RoleRow)
      (allowed : (Authz.effective store caller).allows
        Permissions.manageRoles = true)
      (found : store.getRole roleId = some role)
      (escalation : (Permissions.fromBits role.permissions).isAdmin = true →
        (Authz.effective store caller).isAdmin = true)
      (below : role.position < Authz.rank store caller)
      (outranked : Authz.canActOn store caller userId = true) :
      RoleWritten store caller (.assignRole req)
        (store.assignRole userId roleId)
  | unassigned {req : RoleSvc.AssignRoleRequest}
      (userId roleId : Uuid) (role : RoleRow)
      (allowed : (Authz.effective store caller).allows
        Permissions.manageRoles = true)
      (found : store.getRole roleId = some role)
      (below : role.position < Authz.rank store caller)
      (outranked : Authz.canActOn store caller userId = true) :
      RoleWritten store caller (.unassignRole req)
        (store.unassignRole userId roleId)

namespace RoleWritten

variable {store after : Store} {caller : Uuid} {call : RoleCall}
  (written : RoleWritten store caller call after)

include written in
theorem users_eq : after.users = store.users := by
  cases written with
  | assigned =>
      unfold Store.assignRole
      split <;> rfl
  | _ => rfl

include written in
theorem roleIds_nodup (fresh : call.Fresh store)
    (unique : store.roleIds.Nodup) : after.roleIds.Nodup := by
  cases written with
  | unchanged => exact unique
  | created write =>
      rw [Store.roleIds_createRole, List.nodup_append_comm]
      exact List.nodup_cons.mpr ⟨fresh.1, unique⟩
  | updated id write =>
      rw [Store.roleIds_updateRole]
      exact unique
  | deleted id => exact unique.sublist (store.roleIds_deleteRole id)
  | reordered ids =>
      rw [Store.roleIds_reorderRoles]
      exact unique
  | assigned userId roleId =>
      rw [Store.roleIds_assignRole]
      exact unique
  | unassigned => exact unique

end RoleWritten

namespace RoleSvc

open Effect

theorem readOnly_caller (token : Option Claims) : (caller token).ReadOnly :=
  (readOnly_authenticate token).bind fun _ => readOnly_pure _

theorem readOnly_parsePerms (text : String) : (parsePerms text).ReadOnly := by
  unfold parsePerms
  split
  · exact readOnly_pure _
  · exact readOnly_ofOption _ _

theorem readOnly_requireUserId (userId : Option IdText) :
    (requireUserId userId).ReadOnly :=
  (readOnly_ofOption _ _).bind fun _ => readOnly_parseUuid _ _

theorem readOnly_requireRole (id : Uuid) : (requireRole id).ReadOnly :=
  readOnly_require _ _

theorem readOnly_guardAdminEscalation (caller : Uuid) (target : Permissions) :
    (guardAdminEscalation caller target).ReadOnly :=
  readOnly_check _ _

variable {store : Store}

theorem requireRole_ok {id : Uuid} {role : RoleRow}
    (found : (requireRole id store).1 = .ok role) :
    store.getRole id = some role := by
  have viewed := Effect.require_ok found
  exact viewed

theorem guardAdminEscalation_ok {caller : Uuid} {target : Permissions}
    {result : Unit}
    (passed : (guardAdminEscalation caller target store).1 = .ok result) :
    target.isAdmin = true →
      (Authz.effective store caller).isAdmin = true := by
  have test := Effect.check_ok passed
  intro admin
  simpa [admin] using test

/-- The common opening of every role mutation: an authenticated caller who
may manage roles. -/
theorem post_manage {Value : Type} {claims : Claims}
    {rest : Uuid → Effect Store Status Value}
    {post : Except Status Value → Store → Prop}
    (refused : ∀ error, post (.error error) store)
    (continued : (Authz.effective store claims.sub).allows
        Permissions.manageRoles = true →
      (rest claims.sub).Post store post) :
    Effect.Post (do
      let caller ← caller (some claims)
      Authz.require caller Permissions.manageRoles
      rest caller) store post := by
  have called : ∀ value, (caller (some claims) store).1 = .ok value →
      value = claims.sub := by
    intro value equality
    exact (Except.ok.inj equality).symm
  refine (readOnly_caller _).post_bind (fun error _ => refused error) ?_
  intro value equality
  rw [called value equality]
  refine (Authz.readOnly_require _ _).post_bind
    (fun error _ => refused error) ?_
  intro _ passed
  exact continued (Authz.require_ok passed)

variable (claims : Claims) (store : Store)

private theorem createRole_written (fresh : Uuid)
    (req : CreateRoleRequest) :
    (createRole fresh (some claims) req).Post store fun _ after =>
      RoleWritten store claims.sub (.createRole fresh req) after := by
  refine post_manage (fun _ => .unchanged) fun allowed => ?_
  refine (readOnly_parsePerms _).post_bind (fun _ _ => .unchanged) ?_
  intro perms _
  refine (readOnly_guardAdminEscalation _ _).post_bind
    (fun _ _ => .unchanged) ?_
  intro _ guarded
  refine (readOnly_check _ _).post_bind (fun _ _ => .unchanged) ?_
  intro _ _
  refine post_update_bind ?_
  refine ((readOnly_requireRole _).bind fun _ => readOnly_pure _).post_self ?_
  intro _
  exact .created _ allowed (guardAdminEscalation_ok guarded)

private theorem updateRole_written (req : UpdateRoleRequest) :
    (updateRole (some claims) req).Post store fun _ after =>
      RoleWritten store claims.sub (.updateRole req) after := by
  refine post_manage (fun _ => .unchanged) fun allowed => ?_
  refine (readOnly_parseUuid _ _).post_bind (fun _ _ => .unchanged) ?_
  intro id _
  refine (readOnly_parsePerms _).post_bind (fun _ _ => .unchanged) ?_
  intro perms _
  refine (readOnly_guardAdminEscalation _ _).post_bind
    (fun _ _ => .unchanged) ?_
  intro _ guarded
  refine (readOnly_requireRole _).post_bind (fun _ _ => .unchanged) ?_
  intro role found
  refine (Authz.readOnly_requireRoleBelow _ _).post_bind
    (fun _ _ => .unchanged) ?_
  intro _ below
  refine post_update_bind ?_
  refine ((readOnly_requireRole _).bind fun _ => readOnly_pure _).post_self ?_
  intro _
  exact .updated _ _ role allowed (guardAdminEscalation_ok guarded)
    (requireRole_ok found) (Authz.requireRoleBelow_ok below)

private theorem deleteRole_written (text : IdText) :
    (deleteRole (some claims) text).Post store fun _ after =>
      RoleWritten store claims.sub (.deleteRole text) after := by
  refine post_manage (fun _ => .unchanged) fun allowed => ?_
  refine (readOnly_parseUuid _ _).post_bind (fun _ _ => .unchanged) ?_
  intro id _
  refine (readOnly_requireRole _).post_bind (fun _ _ => .unchanged) ?_
  intro role found
  refine (readOnly_check _ _).post_bind (fun _ _ => .unchanged) ?_
  intro _ ordinary
  refine (Authz.readOnly_requireRoleBelow _ _).post_bind
    (fun _ _ => .unchanged) ?_
  intro _ below
  refine post_update ?_
  exact .deleted _ role allowed (requireRole_ok found)
    (by simpa using check_ok ordinary) (Authz.requireRoleBelow_ok below)

private theorem readOnly_validateReorder (rank : Int) (count : ℕ)
    (entry : Uuid × ℕ) : (validateReorder rank count entry).ReadOnly := by
  refine (readOnly_requireRole _).bind fun _ => ?_
  exact (readOnly_check _ _).bind fun _ => readOnly_check _ _

private theorem validateReorder_ok_iff (rank : Int) (count : ℕ)
    (entry : Uuid × ℕ) :
    (validateReorder rank count entry store).1 = .ok () ↔
      ∃ role, store.getRole entry.1 = some role ∧ role.isDefault = false ∧
        role.position < rank ∧ newPosition count entry.2 < rank := by
  cases found : store.getRole entry.1 with
  | none =>
      have ran : requireRole entry.1 store =
          (.error (ServerError.notFound "role" : Status), store) := by
        simp only [requireRole, require, found]
      simp only [validateReorder, bind_of_error ran, reduceCtorEq, false_and,
        exists_false]
  | some role =>
      have ran : requireRole entry.1 store = (.ok role, store) := by
        simp only [requireRole, require, found]
      simp only [validateReorder, bind_of_ok ran, check_bind,
        Option.some.injEq, exists_eq_left']
      cases role.isDefault with
      | true => simp
      | false => simp [check]

structure ReorderAdmitted (store : Store) (caller : Uuid) (ids : List Uuid) :
    Prop where
  allowed : (Authz.effective store caller).allows Permissions.manageRoles =
    true
  validated : ∀ entry ∈ ids.zipIdx, ∃ role,
    store.getRole entry.1 = some role ∧ role.isDefault = false ∧
      role.position < Authz.rank store caller ∧
        newPosition ids.length entry.2 < Authz.rank store caller

theorem reorderRoles_post (req : ReorderRolesRequest) :
    (reorderRoles (some claims) req).Post store fun _ after =>
      (∃ ids, IdText.parseAll req.roleIds = some ids ∧
        ReorderAdmitted store claims.sub ids ∧
          after = store.reorderRoles ids) ∨
      (∀ ids, IdText.parseAll req.roleIds = some ids →
        ¬ReorderAdmitted store claims.sub ids) ∧ after = store := by
  have called : caller (some claims) store = (.ok claims.sub, store) := rfl
  refine post_bind_of_ok called ?_
  refine (Authz.readOnly_require _ _).post_bind ?_ ?_
  · intro error failed
    refine Or.inr ⟨fun ids _ admitted => ?_, rfl⟩
    rw [Authz.require_of_allows admitted.allowed] at failed
    cases failed
  intro _ permitted
  refine (readOnly_ofOption _ _).post_bind ?_ ?_
  · intro error failed
    refine Or.inr ⟨fun ids parsed => ?_, rfl⟩
    rw [parsed] at failed
    cases failed
  intro ids found
  have parsed : IdText.parseAll req.roleIds = some ids := ofOption_ok found
  refine (readOnly_read _).post_bind (by rintro _ ⟨⟩) ?_
  intro rank readRank
  obtain rfl : Authz.rank store claims.sub = rank := Except.ok.inj readRank
  have passes := forEach_ok_iff
    (readOnly_validateReorder (Authz.rank store claims.sub) ids.length)
    ids.zipIdx store
  simp only [validateReorder_ok_iff] at passes
  refine (readOnly_forEach (readOnly_validateReorder _ _) _).post_bind ?_ ?_
  · intro error failed
    refine Or.inr ⟨fun other again admitted => ?_, rfl⟩
    obtain rfl : ids = other := Option.some.inj (parsed.symm.trans again)
    rw [passes.mpr admitted.validated] at failed
    cases failed
  intro _ passed
  exact Or.inl ⟨ids, parsed,
    ⟨Authz.require_ok permitted, passes.mp passed⟩, rfl⟩

private theorem reorderRoles_written (req : ReorderRolesRequest) :
    (reorderRoles (some claims) req).Post store fun _ after =>
      RoleWritten store claims.sub (.reorderRoles req) after := by
  refine (reorderRoles_post claims store req).imp ?_
  rintro _ _ (⟨ids, parsed, admitted, rfl⟩ | ⟨_, rfl⟩)
  · exact .reordered ids admitted.allowed (IdText.parseAll_length parsed)
      admitted.validated
  · exact .unchanged

private theorem assignRole_written (req : AssignRoleRequest) :
    (assignRole (some claims) req).Post store fun _ after =>
      RoleWritten store claims.sub (.assignRole req) after := by
  refine post_manage (fun _ => .unchanged) fun allowed => ?_
  refine (readOnly_requireUserId _).post_bind (fun _ _ => .unchanged) ?_
  intro userId _
  refine (readOnly_parseUuid _ _).post_bind (fun _ _ => .unchanged) ?_
  intro roleId _
  refine (readOnly_requireRole _).post_bind (fun _ _ => .unchanged) ?_
  intro role found
  refine (readOnly_guardAdminEscalation _ _).post_bind
    (fun _ _ => .unchanged) ?_
  intro _ guarded
  refine (Authz.readOnly_requireRoleBelow _ _).post_bind
    (fun _ _ => .unchanged) ?_
  intro _ below
  refine (Authz.readOnly_requireOutranks _ _).post_bind
    (fun _ _ => .unchanged) ?_
  intro _ outranked
  refine post_update ?_
  exact .assigned _ _ role allowed (requireRole_ok found)
    (guardAdminEscalation_ok guarded) (Authz.requireRoleBelow_ok below)
    (Authz.requireOutranks_ok outranked)

private theorem unassignRole_written (req : AssignRoleRequest) :
    (unassignRole (some claims) req).Post store fun _ after =>
      RoleWritten store claims.sub (.unassignRole req) after := by
  refine post_manage (fun _ => .unchanged) fun allowed => ?_
  refine (readOnly_requireUserId _).post_bind (fun _ _ => .unchanged) ?_
  intro userId _
  refine (readOnly_parseUuid _ _).post_bind (fun _ _ => .unchanged) ?_
  intro roleId _
  refine (readOnly_requireRole _).post_bind (fun _ _ => .unchanged) ?_
  intro role found
  refine (Authz.readOnly_requireRoleBelow _ _).post_bind
    (fun _ _ => .unchanged) ?_
  intro _ below
  refine (Authz.readOnly_requireOutranks _ _).post_bind
    (fun _ _ => .unchanged) ?_
  intro _ outranked
  refine post_update ?_
  exact .unassigned _ _ role allowed (requireRole_ok found)
    (Authz.requireRoleBelow_ok below) (Authz.requireOutranks_ok outranked)

end RoleSvc

namespace RoleCall

open RoleSvc

variable (claims : Claims) (store : Store)

theorem after_written (call : RoleCall) :
    RoleWritten store claims.sub call (call.after (some claims) store) := by
  cases call with
  | listRoles => exact .unchanged
  | createRole fresh req => exact createRole_written claims store fresh req
  | updateRole req => exact updateRole_written claims store req
  | deleteRole text => exact deleteRole_written claims store text
  | reorderRoles req => exact reorderRoles_written claims store req
  | assignRole req => exact assignRole_written claims store req
  | unassignRole req => exact unassignRole_written claims store req
  | getMyPermissions => exact .unchanged

theorem after_unauthenticated (call : RoleCall) :
    call.after none store = store := by
  cases call <;> rfl

end RoleCall

end Accord
