import Accord.Library.EventRun
import Accord.Server.Roles.Calls

/-! Runs of role calls by callers without administrator rights.  No such call
puts the administrator bit where it was not: neither in a role, nor in the
hands of another member. -/

namespace Accord

namespace Store

private theorem foldl_or_getLsbD (roles : List RoleRow) (start : BitVec 64) :
    (roles.foldl (fun bits role => bits ||| role.permissions) start).getLsbD 0
        = true ↔
      start.getLsbD 0 = true ∨
        ∃ role ∈ roles, role.permissions.getLsbD 0 = true := by
  induction roles generalizing start with
  | nil => simp
  | cons role rest induction =>
      rw [List.foldl_cons, induction]
      simp [or_assoc]

variable {store : Store} {userId : Uuid}

/-- A role applies to a user when it is the default one or assigned. -/
def applies (store : Store) (userId : Uuid) (role : RoleRow) : Bool :=
  role.isDefault || store.hasRole userId role.id

private theorem applies_iff {role : RoleRow} :
    store.applies userId role = true ↔
      role.isDefault = true ∨ store.hasRole userId role.id = true := by
  simp [applies]

private theorem memberPermissions_isAdmin :
    (Permissions.fromBits (store.memberPermissions userId)).isAdmin = true ↔
      ∃ role ∈ store.roles, store.applies userId role = true ∧
        (Permissions.fromBits role.permissions).isAdmin = true := by
  simp only [Permissions.isAdmin_iff, Permissions.fromBits]
  unfold memberPermissions
  rw [foldl_or_getLsbD]
  simp [applies, and_assoc]

/-- Every administrator role of the later store that applies to the user was
one of the earlier store. -/
def AdminRolesWithin (before after : Store) (userId : Uuid) : Prop :=
  ∀ role ∈ after.roles, after.applies userId role = true →
    (Permissions.fromBits role.permissions).isAdmin = true →
    ∃ old ∈ before.roles, before.applies userId old = true ∧
      (Permissions.fromBits old.permissions).isAdmin = true

private theorem effective_isAdmin_of_within {before after : Store}
    (sameUsers : after.users = before.users)
    (within : AdminRolesWithin before after userId)
    (admin : (Authz.effective after userId).isAdmin = true) :
    (Authz.effective before userId).isAdmin = true := by
  have sameOwner : after.isOwner userId = before.isOwner userId := by
    unfold isOwner
    rw [sameUsers]
  have sameGuest : after.isUserGuest userId = before.isUserGuest userId := by
    unfold isUserGuest
    rw [sameUsers]
  unfold Authz.effective at admin ⊢
  rw [sameOwner, sameGuest] at admin
  cases owner : before.isOwner userId with
  | true =>
      rw [if_pos rfl]
      decide
  | false =>
      cases guest : before.isUserGuest userId with
      | true => simpa [owner, guest] using admin
      | false =>
          simp only [owner, guest, Bool.false_eq_true, if_false] at admin ⊢
          obtain ⟨role, member, applied, roleAdmin⟩ :=
            memberPermissions_isAdmin.mp admin
          exact memberPermissions_isAdmin.mpr
            (within role member applied roleAdmin)

end Store

open Store

namespace RoleWritten

variable {store after : Store} {caller : Uuid} {call : RoleCall}

private theorem getRole_permissions (unique : store.roleIds.Nodup)
    {id : Uuid} {found role : RoleRow}
    (foundRole : store.getRole id = some found) (member : role ∈ store.roles)
    (sameId : role.id = id) : role.permissions = found.permissions := by
  unfold getRole at foundRole
  rw [Option.map_eq_some_iff] at foundRole
  obtain ⟨row, rowFound, rfl⟩ := foundRole
  have rowMember := List.mem_of_find?_eq_some rowFound
  have rowId : row.id = id := by
    simpa using List.find?_some rowFound
  have equality : role = row :=
    List.inj_on_of_nodup_map unique member rowMember
      (sameId.trans rowId.symm)
  rw [equality]
  rfl

private theorem adminRolesWithin (unique : store.roleIds.Nodup)
    (ordinary : (Authz.effective store caller).isAdmin = false)
    (written : RoleWritten store caller call after) (userId : Uuid) :
    AdminRolesWithin store after userId := by
  intro role member applied admin
  have refuse : ∀ {target : Permissions},
      (target.isAdmin = true →
        (Authz.effective store caller).isAdmin = true) →
      target.isAdmin = true → False := by
    intro target guard targetAdmin
    rw [ordinary] at guard
    exact absurd (guard targetAdmin) Bool.false_ne_true
  cases written with
  | unchanged => exact ⟨role, member, applied, admin⟩
  | created write _ escalation =>
      cases List.mem_append.mp member with
      | inl kept => exact ⟨role, kept, applied, admin⟩
      | inr created =>
          rw [List.mem_singleton] at created
          subst created
          exact (refuse escalation admin).elim
  | updated id write _ _ escalation =>
      obtain ⟨old, oldMember, rfl⟩ := List.mem_map.mp member
      by_cases target : (old.id == id) = true
      · rw [if_pos target] at admin
        exact (refuse escalation admin).elim
      · rw [if_neg target] at applied admin
        exact ⟨old, oldMember, applied, admin⟩
  | deleted id =>
      have kept := (List.mem_filter.mp member).1
      refine ⟨role, kept, ?_, admin⟩
      rw [applies_iff, hasRole_deleteRole] at applied
      exact applies_iff.mpr (applied.imp_right And.left)
  | reordered ids =>
      rw [reorderRoles_roles] at member
      obtain ⟨old, oldMember, rfl⟩ := List.mem_map.mp member
      exact ⟨old, oldMember, applied, admin⟩
  | assigned target roleId granted _ found escalation =>
      rw [roles_assignRole] at member
      rw [applies_iff, hasRole_assignRole, ← or_assoc] at applied
      cases applied with
      | inl before => exact ⟨role, member, applies_iff.mpr before, admin⟩
      | inr given =>
          rw [getRole_permissions unique found member given.2] at admin
          exact (refuse escalation admin).elim
  | unassigned target roleId =>
      refine ⟨role, member, ?_, admin⟩
      rw [applies_iff, hasRole_unassignRole] at applied
      exact applies_iff.mpr (applied.imp_right And.left)

end RoleWritten

/-- One request to `RoleService`: its token and the call. -/
structure RoleRequest where
  token : Option Claims
  call : RoleCall

namespace RoleRequest

def step (store : Store) (request : RoleRequest) : Store :=
  request.call.after request.token store

/-- The caller is neither an administrator nor the owner, and an id handed
out for a new role is a new one. -/
def ByOrdinary (store : Store) (request : RoleRequest) : Prop :=
  request.call.Fresh store ∧ ∀ claims, request.token = some claims →
    (Authz.effective store claims.sub).isAdmin = false ∧
      store.isOwner claims.sub = false

/-- Administrators of the later store were administrators of the first one,
and ids are still unique. -/
def NoNewAdmin (start store : Store) : Prop :=
  store.roleIds.Nodup ∧ ∀ userId,
    (Authz.effective store userId).isAdmin = true →
      (Authz.effective start userId).isAdmin = true

private theorem step_noNewAdmin (start store : Store) (request : RoleRequest)
    (before : NoNewAdmin start store)
    (ordinary : request.ByOrdinary store) :
    NoNewAdmin start (request.step store) := by
  unfold step
  cases sent : request.token with
  | none =>
      rw [RoleCall.after_unauthenticated]
      exact before
  | some claims =>
      have written := RoleCall.after_written claims store request.call
      have plain := (ordinary.2 claims sent).1
      constructor
      · exact written.roleIds_nodup ordinary.1 before.1
      · intro userId admin
        apply before.2 userId
        exact effective_isAdmin_of_within written.users_eq
          (written.adminRolesWithin before.1 plain userId) admin

end RoleRequest

open RoleRequest in
/-- Role calls of ordinary members make no new administrators, in any number
and any order. -/
theorem roleRun_no_new_admins (store : Store) (unique : store.roleIds.Nodup)
    (requests : List RoleRequest)
    (ordinary : EventRun.Each step ByOrdinary store requests) :
    ∀ userId,
      (Authz.effective (EventRun.run step store requests) userId).isAdmin
        = true →
      (Authz.effective store userId).isAdmin = true := by
  have initially : NoNewAdmin store store := ⟨unique, fun _ admin => admin⟩
  have always := EventRun.always_of_step (step_noNewAdmin store)
    initially ordinary
  exact always.last.2

/-- A member who manages roles from above an administrator role. -/
def guardedStore : Store where
  users := [
    ⟨1, "mod", "Mod", "", false, false, none, ""⟩,
    ⟨2, "new", "New", "", false, false, none, ""⟩]
  roles := [
    ⟨10, "Mods", Permissions.manageRoles.bits, 5, false, "", "", false, false⟩,
    ⟨11, "Root", Permissions.administrator.bits, 1, false, "", "", false,
      false⟩]
  memberRoles := [⟨1, 10⟩]

/-- The member tries the administrator role itself, then a new role. -/
def escalationAttempt : List RoleRequest := [
  ⟨some ⟨1, 0⟩, .assignRole ⟨some (.uuid 2), .uuid 11⟩⟩,
  ⟨some ⟨1, 0⟩, .createRole 12 { name := "Helpers", permissions := "32" }⟩,
  ⟨some ⟨1, 0⟩, .assignRole ⟨some (.uuid 2), .uuid 12⟩⟩]

open RoleRequest in
theorem escalationAttempt_fails :
    (Authz.effective (EventRun.run step guardedStore escalationAttempt)
      2).isAdmin = false := by
  have unique : guardedStore.roleIds.Nodup := by decide
  have ordinary :
      EventRun.Each step ByOrdinary guardedStore escalationAttempt := by
    refine ⟨⟨trivial, ?_⟩, ⟨⟨by decide, by decide⟩, ?_⟩, ⟨trivial, ?_⟩,
      trivial⟩
    all_goals
      intro claims sent
      cases sent
      decide
  have within := roleRun_no_new_admins guardedStore unique escalationAttempt
    ordinary 2
  rw [Bool.eq_false_iff]
  intro admin
  exact absurd (within admin) (by decide)

end Accord
