import Accord.Server.Roles.Hierarchy
import Accord.Server.Store.Postgres

/-! Which roles a call touches, held against the caller's rank.  Updates,
deletions and reorders stay below it; a new role is put above every role there
is, the caller's own included. -/

namespace Accord

namespace Store

def storedRole (store : Store) (id : Uuid) : Option RoleRow :=
  store.roles.find? (·.id == id)

/-- The role was created, changed, moved or deleted in between. -/
def Touched (before after : Store) (id : Uuid) : Prop :=
  before.storedRole id ≠ after.storedRole id

def RoleBelow (store : Store) (bound : Int) (id : Uuid) : Prop :=
  ∀ role, store.storedRole id = some role → role.position < bound

variable {store : Store}

private theorem storedRole_eq {id : Uuid} {role : RoleRow}
    (found : store.storedRole id = some role) :
    role ∈ store.roles ∧ role.id = id :=
  ⟨List.mem_of_find?_eq_some found, by simpa using List.find?_some found⟩

private theorem storedRole_of_getRole (wellFormed : store.RolesWellFormed)
    {id : Uuid}
    {role : RoleRow} (found : store.getRole id = some role) :
    store.storedRole id = some role := by
  obtain ⟨member, sameId⟩ := getRole_eq wellFormed found
  simp only [getRole, Option.map_eq_some_iff] at found
  obtain ⟨row, rowFound, _⟩ := found
  obtain ⟨rowMember, rowId⟩ := storedRole_eq rowFound
  rw [role_unique wellFormed member rowMember (sameId.trans rowId.symm)]
  exact rowFound

private theorem storedRole_map (before after : Store)
    (rewrite : RoleRow → RoleRow)
    (sameId : ∀ role, (rewrite role).id = role.id)
    (mapped : after.roles = before.roles.map rewrite) (id : Uuid) :
    after.storedRole id = (before.storedRole id).map rewrite := by
  simp only [storedRole, mapped, List.find?_map, Function.comp_def, sameId]

private theorem storedRole_updateRole (store : Store) (id : Uuid)
    (write : RoleWrite)
    (other : Uuid) :
    (store.updateRole id write).storedRole other =
      (store.storedRole other).map fun role =>
        if role.id == id then overwrite role write else role := by
  apply storedRole_map
  · intro role
    split <;> rfl
  · rfl

private theorem storedRole_reorderRoles (store : Store) (ids : List Uuid)
    (id : Uuid) :
    (store.reorderRoles ids).storedRole id =
      (store.storedRole id).map fun role =>
        { role with position := placed ids.length ids.zipIdx role } := by
  apply storedRole_map
  · intro role
    rfl
  · exact reorderRoles_roles store ids

private theorem storedRole_deleteRole_of_ne {id other : Uuid}
    (different : other ≠ id) :
    (store.deleteRole id).storedRole other = store.storedRole other := by
  simp only [storedRole, deleteRole, List.find?_filter]
  congr 1
  funext role
  by_cases sameId : role.id = other
  · subst sameId
    simp [different]
  · simp [sameId]

private theorem storedRole_createRole_fresh {fresh : Uuid}
    (unused : fresh ∉ store.roleIds) (write : RoleWrite) :
    store.storedRole fresh = none ∧
      ∃ role, (store.createRole fresh write).storedRole fresh = some role ∧
        role.position = maxPosition store.roles + 1 := by
  have absent : store.roles.find? (·.id == fresh) = none := by
    rw [List.find?_eq_none]
    intro role member sameId
    apply unused
    rw [← beq_iff_eq.mp sameId]
    exact List.mem_map_of_mem member
  constructor
  · exact absent
  · simp only [storedRole, createRole, List.find?_append, absent,
      Option.none_or, List.find?_cons, beq_self_eq_true]
    exact ⟨_, rfl, rfl⟩

private theorem Touched.irrefl (id : Uuid) : ¬ Touched store store id :=
  fun touched => touched rfl

/-- What a caller who is not the owner holds is among the stored roles. -/
private theorem rank_le_maxPosition (wellFormed : store.RolesWellFormed)
    {userId : Uuid} (ordinary : store.isOwner userId = false) :
    Authz.rank store userId ≤ maxPosition store.roles := by
  have bounded := wellFormed.positionsBounded userId
  simp only [Authz.rank, ordinary, Bool.false_eq_true, if_false]
  rw [highestRolePosition_eq bounded]
  rcases Peak.peak_eq_least_or_mem 0 (store.positionsOf userId) with
    ⟨_, equality⟩ | member
  · rw [equality]
    apply Peak.least_le_peak
    intro position listed
    obtain ⟨role, roleMember, rfl⟩ := List.mem_map.mp listed
    exact wellFormed.position_nonneg role roleMember
  · obtain ⟨role, roleMember, _, equality⟩ := mem_positionsOf.mp member
    rw [← equality]
    exact Peak.le_peak (List.mem_map_of_mem roleMember)

end Store

open Store

/-- Whatever the call touches lies below the bound, before and after. -/
def TouchesBelow (bound : Int) (before after : Store) : Prop :=
  ∀ id, Touched before after id →
    RoleBelow before bound id ∧ RoleBelow after bound id

section Touches

variable {store : Store} (wellFormed : store.RolesWellFormed) {bound : Int}

include wellFormed

private theorem roleBelow_of_getRole {id : Uuid} {role : RoleRow}
    (found : store.getRole id = some role) (below : role.position < bound) :
    RoleBelow store bound id := by
  intro other stored
  rw [storedRole_of_getRole wellFormed found] at stored
  cases stored
  exact below

private theorem touchesBelow_updateRole {id : Uuid} {role : RoleRow}
    (found : store.getRole id = some role) (below : role.position < bound)
    (write : RoleWrite) :
    TouchesBelow bound store (store.updateRole id write) := by
  intro other touched
  have stored := storedRole_of_getRole wellFormed found
  have rewritten := storedRole_updateRole store id write other
  by_cases same : other = id
  · subst same
    refine ⟨roleBelow_of_getRole wellFormed found below, ?_⟩
    intro updated updatedStored
    rw [rewritten, stored] at updatedStored
    simp only [Option.map_some, Option.some.injEq] at updatedStored
    subst updatedStored
    split
    · exact below
    · exact below
  · exfalso
    apply touched
    rw [rewritten]
    cases present : store.storedRole other with
    | none => rfl
    | some row =>
        have rowId := (storedRole_eq present).2
        simp [rowId, same]

private theorem touchesBelow_deleteRole {id : Uuid} {role : RoleRow}
    (found : store.getRole id = some role) (below : role.position < bound) :
    TouchesBelow bound store (store.deleteRole id) := by
  intro other touched
  have same : other = id := by
    by_contra different
    exact touched (storedRole_deleteRole_of_ne different).symm
  subst same
  refine ⟨roleBelow_of_getRole wellFormed found below, ?_⟩
  intro kept keptStored
  obtain ⟨keptMember, keptId⟩ := storedRole_eq keptStored
  obtain ⟨member, sameId⟩ := getRole_eq wellFormed found
  have equality := role_unique wellFormed (List.mem_filter.mp keptMember).1
    member (keptId.trans sameId.symm)
  rw [equality]
  exact below

private theorem touchesBelow_reorderRoles {ids : List Uuid}
    (short : ids.length ≤ 2 ^ 21)
    (validated : ∀ entry ∈ ids.zipIdx, ∃ role,
      store.getRole entry.1 = some role ∧ role.isDefault = false ∧
        role.position < bound ∧
        RoleSvc.newPosition ids.length entry.2 < bound) :
    TouchesBelow bound store (store.reorderRoles ids) := by
  intro id touched
  have moved := storedRole_reorderRoles store ids id
  cases stored : store.storedRole id with
  | none =>
      rw [stored] at moved
      exact absurd (stored.trans moved.symm) touched
  | some role =>
      rw [stored, Option.map_some] at moved
      rcases placed_eq_or ids.length ids.zipIdx role with
        kept | ⟨_, entry, listed, sameId, written⟩
      · rw [kept] at moved
        exact absurd (stored.trans moved.symm) touched
      · obtain ⟨found, foundRole, _, below, target⟩ := validated entry listed
        have roleId := (storedRole_eq stored).2
        rw [sameId, roleId] at foundRole
        refine ⟨roleBelow_of_getRole wellFormed foundRole below, ?_⟩
        intro after afterStored
        rw [moved] at afterStored
        cases afterStored
        rw [(written_bounds short listed).1] at target
        simpa [written] using target

end Touches

namespace RoleSvc

def permsOf (text : String) : Option Permissions :=
  if trim text == "" then
    some Permissions.empty
  else
    Permissions.parse (trim text)

def createWrite (req : CreateRoleRequest) (perms : Permissions) :
    RoleWrite where
  name := trim req.name
  permissions := perms.bits
  color := req.color
  icon := req.icon
  hoist := req.hoist
  mentionable := req.mentionable

def CreatePasses (store : Store) (caller : Uuid) (req : CreateRoleRequest) :
    Prop :=
  (Authz.effective store caller).allows Permissions.manageRoles = true ∧
    trim req.name ≠ "" ∧
    ∃ perms, permsOf req.permissions = some perms ∧
      (perms.isAdmin = true →
        (Authz.effective store caller).isAdmin = true)

theorem parsePerms_eq (text : String) :
    parsePerms text = Effect.ofOption (permsOf text)
      (ServerError.invalidArgument "bad permissions" : Status) := by
  unfold parsePerms permsOf
  split <;> rfl

private theorem parsePerms_of_some {text : String} {perms : Permissions}
    (parsed : permsOf text = some perms) (store : Store) :
    parsePerms text store = (.ok perms, store) := by
  rw [parsePerms_eq, parsed]
  rfl

private theorem parsePerms_ok {text : String} {perms : Permissions}
    {store : Store}
    (parsed : (parsePerms text store).1 = .ok perms) :
    permsOf text = some perms := by
  rw [parsePerms_eq] at parsed
  exact Effect.ofOption_ok parsed

theorem getRole_createRole (store : Store) (fresh : Uuid)
    (write : RoleWrite) :
    ∃ role, (store.createRole fresh write).getRole fresh = some role := by
  rw [← Option.isSome_iff_exists]
  simp [getRole, Store.createRole]

variable {store : Store} {claims : Claims} {req : CreateRoleRequest}

private theorem createRole_refused (fresh : Uuid)
    (refused : ¬ CreatePasses store claims.sub req) :
    (createRole fresh (some claims) req store).2 = store := by
  have unchanged : (createRole fresh (some claims) req).Post store
      fun _ after => after = store := by
    apply post_manage (fun _ => rfl)
    intro allowed
    apply (readOnly_parsePerms _).post_bind (fun _ _ => rfl)
    intro perms parsed
    apply (readOnly_guardAdminEscalation _ _).post_bind (fun _ _ => rfl)
    intro _ guarded
    apply (Effect.readOnly_check _ _).post_bind (fun _ _ => rfl)
    intro _ named
    exfalso
    apply refused
    exact ⟨allowed, by simpa using Effect.check_ok named, perms,
      parsePerms_ok parsed, guardAdminEscalation_ok guarded⟩
  exact unchanged

private theorem createRole_passed (fresh : Uuid)
    (passes : CreatePasses store claims.sub req) :
    ∃ role write, createRole fresh (some claims) req store =
      (.ok role, store.createRole fresh write) := by
  obtain ⟨allowed, named, perms, parsed, escalation⟩ := passes
  have called : caller (some claims) store = (.ok claims.sub, store) := rfl
  have guarded : (!perms.isAdmin ||
      (Authz.effective store claims.sub).isAdmin) = true := by
    cases admin : perms.isAdmin with
    | false => rfl
    | true => exact escalation admin
  obtain ⟨role, found⟩ := getRole_createRole store fresh (createWrite req perms)
  refine ⟨roleToProto role, createWrite req perms, ?_⟩
  simp only [createRole, Authz.require, guardAdminEscalation]
  rw [Effect.bind_of_ok called, Effect.check_bind, if_pos allowed,
    Effect.bind_of_ok (parsePerms_of_some parsed store), Effect.check_bind,
    if_pos guarded, Effect.check_bind, if_pos (by simpa using named)]
  have written : (Effect.update fun store : Store =>
      store.createRole fresh (createWrite req perms) :
        Effect Store Status Unit) store =
      (.ok (), store.createRole fresh (createWrite req perms)) := rfl
  have read : requireRole fresh (store.createRole fresh
      (createWrite req perms)) =
      (.ok role, store.createRole fresh (createWrite req perms)) := by
    simp only [requireRole, Effect.require, found]
  refine (Effect.bind_of_ok written _).trans ?_
  exact Effect.bind_of_ok read _

end RoleSvc

namespace RoleCall

def succeeds (call : RoleCall) (token : Option Claims) (store : Store) :
    Bool :=
  match call with
  | .listRoles => (RoleSvc.listRoles token store).1.isOk
  | .createRole fresh req => (RoleSvc.createRole fresh token req store).1.isOk
  | .updateRole req => (RoleSvc.updateRole token req store).1.isOk
  | .deleteRole id => (RoleSvc.deleteRole token id store).1.isOk
  | .reorderRoles req => (RoleSvc.reorderRoles token req store).1.isOk
  | .assignRole req => (RoleSvc.assignRole token req store).1.isOk
  | .unassignRole req => (RoleSvc.unassignRole token req store).1.isOk
  | .getMyPermissions => (RoleSvc.getMyPermissions token store).1.isOk

/-- The call is a `CreateRole` that passes the checks of `CreateRole`. -/
def CreatesRole (store : Store) (caller : Uuid) : RoleCall → Prop
  | .createRole _ req => RoleSvc.CreatePasses store caller req
  | _ => False

/-- A successful call leaves every role it touches below the caller's rank,
where it was before and where it is afterwards. -/
def MutatesBelow (store : Store) (claims : Claims) (call : RoleCall) : Prop :=
  call.succeeds (some claims) store = true →
    TouchesBelow (Authz.rank store claims.sub) store
      (call.after (some claims) store)

variable {store : Store} {claims : Claims} {call : RoleCall}

private theorem touchesBelow_of_written (wellFormed : store.RolesWellFormed)
    {caller : Uuid} {after : Store}
    (written : RoleWritten store caller call after)
    (creates : ∀ fresh req, call ≠ .createRole fresh req) :
    TouchesBelow (Authz.rank store caller) store after := by
  cases written with
  | unchanged => exact fun id touched => absurd touched (Touched.irrefl id)
  | @created fresh req => exact absurd rfl (creates fresh req)
  | updated id write role _ _ found below =>
      exact touchesBelow_updateRole wellFormed found below write
  | deleted id role _ found _ below =>
      exact touchesBelow_deleteRole wellFormed found below
  | @reordered req ids _ short validated =>
      apply touchesBelow_reorderRoles wellFormed _ validated
      have := req.decoded
      omega
  | assigned userId roleId =>
      intro id touched
      simp only [Touched, storedRole, roles_assignRole] at touched
      exact absurd rfl touched
  | unassigned => exact fun id touched => absurd rfl touched

/-- Only a new role ends up at or above the rank of its maker. -/
theorem mutatesBelow_iff_not_createsRole (store : Store)
    (wellFormed : store.RolesWellFormed) (claims : Claims)
    (ordinary : store.isOwner claims.sub = false) (call : RoleCall)
    (fresh : call.Fresh store) :
    call.MutatesBelow store claims ↔ ¬ call.CreatesRole store claims.sub := by
  have written := call.after_written claims store
  cases call with
  | createRole id req =>
      constructor
      · intro below passes
        obtain ⟨role, write, ran⟩ :=
          RoleSvc.createRole_passed id passes
        obtain ⟨absent, created, stored, position⟩ :=
          storedRole_createRole_fresh fresh.1 write
        have after : (RoleCall.createRole id req).after (some claims) store =
            store.createRole id write := congrArg Prod.snd ran
        have succeeded :
            (RoleCall.createRole id req).succeeds (some claims) store =
              true := by
          simp only [succeeds, ran]
          rfl
        have touches := below succeeded
        rw [after] at touches
        have lower := (touches id (by rw [Touched, absent, stored]; simp)).2
          created stored
        have top := rank_le_maxPosition wellFormed ordinary
        omega
      · intro refused _
        have unchanged :
            (RoleCall.createRole id req).after (some claims) store = store :=
          RoleSvc.createRole_refused id refused
        rw [unchanged]
        exact fun other touched => absurd touched (Touched.irrefl other)
  | _ =>
      constructor
      · exact fun _ creates => creates
      · intro _ _
        exact touchesBelow_of_written wellFormed written (by simp)

end RoleCall

/-- A manager of rank 5 whose own role is the highest one. -/
theorem updateRole_mutatesBelow :
    RoleCall.MutatesBelow staffedStore ⟨1, 0⟩
      (.updateRole { id := .uuid 11, name := "Hands", permissions := "" }) :=
  (RoleCall.mutatesBelow_iff_not_createsRole staffedStore
    staffedStore_rolesWellFormed ⟨1, 0⟩ (by decide)
    (.updateRole { id := .uuid 11, name := "Hands", permissions := "" })
    trivial).mpr id

theorem createRole_above_rank :
    ¬ RoleCall.MutatesBelow staffedStore ⟨1, 0⟩
      (.createRole 12 { name := "Helpers", permissions := "" }) := by
  intro below
  have touched : Touched staffedStore
      ((RoleCall.createRole 12 { name := "Helpers", permissions := "" }).after
        (some ⟨1, 0⟩) staffedStore) 12 := by
    rw [Touched]
    decide
  have lower := (below (by decide) 12 touched).2
    ⟨12, "Helpers", 0, 6, false, "", "", false, false⟩ (by decide)
  exact absurd lower (by decide)

namespace Postgres

/-! What the handlers let through leaves the same tables on Postgres. -/

variable {store : Store} (wellFormed : store.RolesWellFormed)

private theorem maxPosition_nonneg (wellFormed : store.RolesWellFormed) :
    0 ≤ maxPosition store.roles := by
  apply Peak.least_le_peak
  intro position listed
  obtain ⟨role, member, rfl⟩ := List.mem_map.mp listed
  exact wellFormed.position_nonneg role member

include wellFormed in
theorem createRole_eq (room : maxPosition store.roles < i32Max) (id : Uuid)
    (write : RoleWrite) :
    Postgres.createRole store id write = store.createRole id write := by
  have nonneg := maxPosition_nonneg wellFormed
  have top : asI32 (maxPosition store.roles) = maxPosition store.roles :=
    asI32_of_bounds nonneg (by omega)
  have next : asI32 (maxPosition store.roles + 1) =
      maxPosition store.roles + 1 :=
    asI32_of_bounds (by omega) (by omega)
  simp only [Postgres.createRole, Store.createRole, top, next]

include wellFormed in
theorem deleteRole_eq {id : Uuid} {role : RoleRow}
    (found : store.getRole id = some role)
    (ordinary : role.isDefault = false) :
    Postgres.deleteRole store id = store.deleteRole id := by
  obtain ⟨member, sameId⟩ := getRole_eq wellFormed found
  have rows : store.roles.filter (!deletes id ·) =
      store.roles.filter fun role => role.id != id || role.isDefault := by
    simp [deletes, bne]
  have assignments : (store.memberRoles.filter fun row =>
      !(store.roles.any fun role => deletes id role && role.id == row.roleId)) =
      store.memberRoles.filter (·.roleId != id) := by
    apply List.filter_congr
    intro row _
    by_cases same : row.roleId = id
    · simp only [same, bne_self_eq_false, Bool.not_eq_false']
      rw [List.any_eq_true]
      exact ⟨role, member, by simp [deletes, sameId, ordinary]⟩
    · rw [bne_iff_ne.mpr same, Bool.not_eq_true', List.any_eq_false]
      intro other _ both
      simp only [deletes, Bool.and_eq_true, beq_iff_eq] at both
      exact same (both.2.symm.trans both.1.1)
  simp only [Postgres.deleteRole, Store.deleteRole, rows, assignments]

theorem reorderRoles_eq (store : Store) {ids : List Uuid}
    (short : ids.length ≤ 2 ^ 21) :
    Postgres.reorderRoles store ids = store.reorderRoles ids := by
  have writes : ∀ (entries : List (Uuid × ℕ)) (roles : List RoleRow),
      (∀ entry ∈ entries, entry.2 < ids.length) →
      entries.foldl (fun roles entry => setPosition
          (asI32 (asI32 ids.length - asI32 entry.2)) entry.1 roles) roles =
        entries.foldl (fun roles entry => setPosition
          (ids.length - entry.2) entry.1 roles) roles := by
    intro entries
    induction entries with
    | nil =>
        intro roles _
        rw [List.foldl_nil, List.foldl_nil]
    | cons entry rest induction =>
        intro roles inside
        have position := newPosition_eq short (inside entry (by simp))
        simp only [RoleSvc.newPosition] at position
        rw [List.foldl_cons, List.foldl_cons, position]
        exact induction _ fun other listed => inside other (by simp [listed])
  have listed : ∀ entry ∈ ids.zipIdx, entry.2 < ids.length := by
    intro entry member
    obtain ⟨_, inside, _⟩ := List.mem_zipIdx member
    omega
  simp only [Postgres.reorderRoles, Store.reorderRoles,
    writes ids.zipIdx store.roles listed]

end Postgres

end Accord
