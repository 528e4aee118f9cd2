import Accord.Server.Roles.Calls
import Accord.Server.Store.Postgres

/-! What a user may do in all: the union of the roles, on either backend, and
the way of its bits through the columns and the texts. -/

namespace Accord

/-- The column is an `i64`; a bit pattern with the top bit set is a negative
number there. -/
def RoleRow.column (role : RoleRow) : Int64 := Int64.ofBitVec role.permissions

namespace Store

def grantingRoles (store : Store) (userId : Uuid) : List RoleRow :=
  store.roles.filter fun role =>
    role.isDefault || store.hasRole userId role.id

/-- SQLite has no `BIT_OR`; the rows are folded. -/
def foldPermissions (store : Store) (userId : Uuid) : Int64 :=
  (store.grantingRoles userId).foldl (fun bits role => bits ||| role.column) 0

end Store

/-- `BIT_OR`, which is `NULL` where there is no row. -/
def Postgres.bitOr : List Int64 → Option Int64
  | [] => none
  | first :: rest => some (rest.foldl (· ||| ·) first)

/-- What the permissions of a user are made of, and what happens to them on
the way. -/
structure EffectivePermissions : Prop where
  owner : ∀ store userId, store.isOwner userId = true →
    Authz.effective store userId = Permissions.all
  defined : ∀ position, Permissions.all.bits.getLsbD position = true ↔
    ∃ entry ∈ Permissions.names, entry.2.bits.getLsbD position = true
  guest : ∀ store userId, store.isOwner userId = false →
    store.isUserGuest userId = true →
    Authz.effective store userId = Permissions.empty
  union : ∀ store userId, store.isOwner userId = false →
    store.isUserGuest userId = false → ∀ position,
    ((Authz.effective store userId).bits.getLsbD position = true ↔
      ∃ role ∈ store.roles,
        (role.isDefault = true ∨ store.hasRole userId role.id = true) ∧
          role.permissions.getLsbD position = true)
  unordered : ∀ (first second : Store) userId,
    first.users.Perm second.users → first.roles.Perm second.roles →
    first.memberRoles.Perm second.memberRoles →
    Authz.effective first userId = Authz.effective second userId
  assigned : ∀ store userId other roleId,
    (Authz.effective (store.assignRole other roleId) userId).contains
      (Authz.effective store userId) = true
  raised : ∀ store userId id write,
    (∀ role ∈ store.roles, role.id = id →
      (Permissions.fromBits write.permissions).contains
        (Permissions.fromBits role.permissions) = true) →
    (Authz.effective (store.updateRole id write) userId).contains
      (Authz.effective store userId) = true
  backends : ∀ (store : Store) userId (rows : List RoleRow),
    rows.Perm (store.grantingRoles userId) →
    (Postgres.bitOr (rows.map (·.column))).getD 0 =
        store.foldPermissions userId ∧
      (store.foldPermissions userId).toBitVec =
        store.memberPermissions userId
  sent : ∀ bits store, RoleSvc.parsePerms (toString bits.toNat) store =
    (.ok (Permissions.fromBits bits), store)
  created : ∀ fresh token req store role after, fresh ∉ store.roleIds →
    RoleSvc.createRole fresh token req store = (.ok role, after) →
    RoleSvc.parsePerms role.permissions store =
      RoleSvc.parsePerms req.permissions store
  updated : ∀ token req store role after,
    RoleSvc.updateRole token req store = (.ok role, after) →
    RoleSvc.parsePerms role.permissions store =
      RoleSvc.parsePerms req.permissions store

namespace Permissions

private theorem contains_iff (granted other : Permissions) :
    granted.contains other = true ↔ ∀ position,
      other.bits.getLsbD position = true →
        granted.bits.getLsbD position = true := by
  unfold contains
  rw [beq_iff_eq]
  constructor
  · intro equality position held
    rw [← equality, BitVec.getLsbD_and, Bool.and_eq_true] at held
    exact held.1
  · intro covers
    ext position bound
    rw [BitVec.getElem_and, ← BitVec.getLsbD_eq_getElem,
      ← BitVec.getLsbD_eq_getElem]
    cases held : other.bits.getLsbD position with
    | false => exact Bool.and_false _
    | true => rw [covers position held, Bool.and_true]

private theorem getLsbD_foldl {Row : Type} (bitsOf : Row → BitVec 64)
    (rows : List Row) (start : BitVec 64) (position : ℕ) :
    (rows.foldl (fun bits row => bits ||| bitsOf row) start).getLsbD
        position = true ↔
      start.getLsbD position = true ∨
        ∃ row ∈ rows, (bitsOf row).getLsbD position = true := by
  induction rows generalizing start with
  | nil => simp
  | cons row rest induction =>
      rw [List.foldl_cons, induction, BitVec.getLsbD_or, Bool.or_eq_true,
        or_assoc, List.exists_mem_cons_iff]

end Permissions

namespace Store

variable {store first second : Store} {userId : Uuid}

private theorem mem_grantingRoles {role : RoleRow} :
    role ∈ store.grantingRoles userId ↔ role ∈ store.roles ∧
      (role.isDefault = true ∨ store.hasRole userId role.id = true) := by
  rw [grantingRoles, List.mem_filter, Bool.or_eq_true]

private theorem getLsbD_memberPermissions (store : Store) (userId : Uuid)
    (position : ℕ) :
    (store.memberPermissions userId).getLsbD position = true ↔
      ∃ role ∈ store.roles,
        (role.isDefault = true ∨ store.hasRole userId role.id = true) ∧
          role.permissions.getLsbD position = true := by
  have folded := Permissions.getLsbD_foldl RoleRow.permissions
    (store.grantingRoles userId) 0 position
  have none : (0 : BitVec 64).getLsbD position = false := BitVec.getLsbD_zero
  rw [memberPermissions, ← grantingRoles, folded, none]
  simp only [mem_grantingRoles, Bool.false_eq_true, false_or, and_assoc]

private theorem memberPermissions_perm (roles : first.roles.Perm second.roles)
    (assigned : first.memberRoles.Perm second.memberRoles) (userId : Uuid) :
    first.memberPermissions userId = second.memberPermissions userId := by
  apply BitVec.eq_of_getLsbD_eq
  intro position _
  rw [Bool.eq_iff_iff, getLsbD_memberPermissions, getLsbD_memberPermissions]
  simp only [hasRole_iff, roles.mem_iff, assigned.mem_iff]

private theorem effective_perm (users : first.users.Perm second.users)
    (roles : first.roles.Perm second.roles)
    (assigned : first.memberRoles.Perm second.memberRoles) (userId : Uuid) :
    Authz.effective first userId = Authz.effective second userId := by
  have owner : first.isOwner userId = second.isOwner userId := by
    rw [isOwner, isOwner, Bool.eq_iff_iff, List.any_eq_true,
      List.any_eq_true]
    simp only [users.mem_iff]
  have guest : first.isUserGuest userId = second.isUserGuest userId := by
    rw [isUserGuest, isUserGuest, Bool.eq_iff_iff, List.any_eq_true,
      List.any_eq_true]
    simp only [users.mem_iff]
  rw [Authz.effective, Authz.effective, owner, guest,
    memberPermissions_perm roles assigned]

private theorem effective_contains (users : second.users = first.users)
    (grown : ∀ position,
      (first.memberPermissions userId).getLsbD position = true →
        (second.memberPermissions userId).getLsbD position = true) :
    (Authz.effective second userId).contains
      (Authz.effective first userId) = true := by
  have owner : second.isOwner userId = first.isOwner userId := by
    rw [isOwner, isOwner, users]
  have guest : second.isUserGuest userId = first.isUserGuest userId := by
    rw [isUserGuest, isUserGuest, users]
  rw [Permissions.contains_iff, Authz.effective, Authz.effective, owner, guest]
  intro position held
  split at held
  · rename_i owns
    rw [if_pos owns]
    exact held
  · rename_i ordinary
    rw [if_neg ordinary]
    split at held
    · rename_i visits
      rw [if_pos visits]
      exact held
    · rename_i enrolled
      rw [if_neg enrolled]
      exact grown position held

private theorem effective_assignRole (store : Store)
    (userId other roleId : Uuid) :
    (Authz.effective (store.assignRole other roleId) userId).contains
      (Authz.effective store userId) = true := by
  apply effective_contains
  · unfold assignRole
    split <;> rfl
  · intro position held
    rw [getLsbD_memberPermissions] at held ⊢
    obtain ⟨role, member, granted, bit⟩ := held
    rw [roles_assignRole]
    refine ⟨role, member, granted.imp_right fun has => ?_, bit⟩
    exact (hasRole_assignRole store userId role.id other roleId).mpr (.inl has)

private theorem effective_updateRole (store : Store) (userId id : Uuid)
    (write : RoleWrite)
    (gains : ∀ role ∈ store.roles, role.id = id →
      (Permissions.fromBits write.permissions).contains
        (Permissions.fromBits role.permissions) = true) :
    (Authz.effective (store.updateRole id write) userId).contains
      (Authz.effective store userId) = true := by
  refine effective_contains rfl ?_
  intro position held
  rw [getLsbD_memberPermissions] at held ⊢
  obtain ⟨role, member, granted, bit⟩ := held
  by_cases named : role.id = id
  · refine ⟨overwrite role write, ?_, granted, ?_⟩
    · refine List.mem_map.mpr ⟨role, member, ?_⟩
      rw [if_pos (beq_iff_eq.mpr named)]
    · exact (Permissions.contains_iff _ _).mp (gains role member named)
        position bit
  · refine ⟨role, ?_, granted, bit⟩
    refine List.mem_map.mpr ⟨role, member, ?_⟩
    rw [if_neg (by simpa using named)]

private theorem toBitVec_foldPermissions (store : Store) (userId : Uuid) :
    (store.foldPermissions userId).toBitVec =
      store.memberPermissions userId := by
  have folded : ∀ (roles : List RoleRow) (start : Int64),
      (roles.foldl (fun bits role => bits ||| role.column) start).toBitVec =
        roles.foldl (fun bits role => bits ||| role.permissions)
          start.toBitVec := by
    intro roles
    induction roles with
    | nil => exact fun _ => rfl
    | cons role rest induction =>
        intro start
        rw [List.foldl_cons, induction, Int64.toBitVec_or]
        rfl
  exact folded _ 0

private theorem getLsbD_bitOr (columns : List Int64) (position : ℕ) :
    ((Postgres.bitOr columns).getD 0).toBitVec.getLsbD position = true ↔
      ∃ column ∈ columns, column.toBitVec.getLsbD position = true := by
  cases columns with
  | nil => simp [Postgres.bitOr]
  | cons first rest =>
      have folded : ∀ (columns : List Int64) (start : Int64),
          (columns.foldl (· ||| ·) start).toBitVec =
            columns.foldl (fun bits column => bits ||| column.toBitVec)
              start.toBitVec := by
        intro columns
        induction columns with
        | nil => exact fun _ => rfl
        | cons column rest induction =>
            intro start
            rw [List.foldl_cons, induction, Int64.toBitVec_or]
            rfl
      rw [Postgres.bitOr, Option.getD_some, folded,
        Permissions.getLsbD_foldl, List.exists_mem_cons_iff]

/-- The aggregate and the fold add up the same bits, in whatever order the rows
come. -/
private theorem bitOr_eq_foldPermissions {rows : List RoleRow}
    (perm : rows.Perm (store.grantingRoles userId)) :
    (Postgres.bitOr (rows.map (·.column))).getD 0 =
      store.foldPermissions userId := by
  apply Int64.toBitVec_inj.mp
  apply BitVec.eq_of_getLsbD_eq
  intro position _
  rw [Bool.eq_iff_iff, getLsbD_bitOr, toBitVec_foldPermissions,
    getLsbD_memberPermissions]
  constructor
  · rintro ⟨_, listed, bit⟩
    obtain ⟨role, member, rfl⟩ := List.mem_map.mp listed
    obtain ⟨present, granted⟩ := mem_grantingRoles.mp (perm.mem_iff.mp member)
    exact ⟨role, present, granted, bit⟩
  · rintro ⟨role, present, granted, bit⟩
    have member := perm.mem_iff.mpr (mem_grantingRoles.mpr ⟨present, granted⟩)
    exact ⟨role.column, List.mem_map_of_mem member, bit⟩

end Store

namespace RoleSvc

private theorem parsePerms_toString (bits : BitVec 64) (store : Store) :
    parsePerms (toString bits.toNat) store =
      (.ok (Permissions.fromBits bits), store) := by
  have solid := trim_solid (solid_toString bits.toNat)
  have parsed : Permissions.parse (toString bits.toNat) =
      some (Permissions.fromBits bits) := by
    rw [Permissions.parse, parseU64_toString]
    rfl
  unfold parsePerms
  rw [solid]
  split
  · rename_i blank
    rw [beq_iff_eq.mp blank] at parsed
    cases parsed
  · rw [parsed]
    rfl

private theorem parsePerms_roleToProto {text : String} {store : Store}
    {perms : Permissions} (parsed : (parsePerms text store).1 = .ok perms)
    {role : RoleRow} (holds : role.permissions = perms.bits) :
    parsePerms (roleToProto role).permissions store =
      parsePerms text store := by
  have read : parsePerms text store = (.ok perms, store) :=
    Prod.ext parsed (readOnly_parsePerms text store)
  have same : Permissions.fromBits role.permissions = perms := by
    rw [holds]
    rfl
  rw [read, ← same]
  exact parsePerms_toString role.permissions store

private theorem getRole_created {store : Store} {fresh : Uuid}
    {write : RoleWrite}
    {role : RoleRow} (unused : fresh ∉ store.roleIds)
    (found : (store.createRole fresh write).getRole fresh = some role) :
    role.permissions = write.permissions := by
  have absent : store.roles.find? (·.id == fresh) = none := by
    rw [List.find?_eq_none]
    intro role member sameId
    apply unused
    rw [← beq_iff_eq.mp sameId]
    exact List.mem_map_of_mem member
  simp only [Store.getRole, Store.createRole, List.find?_append, absent,
    Option.none_or, List.find?_cons, beq_self_eq_true,
    Option.map_some] at found
  rw [← Option.some.inj found]
  rfl

private theorem getRole_updated {store : Store} {id : Uuid} {write : RoleWrite}
    {role : RoleRow}
    (found : (store.updateRole id write).getRole id = some role) :
    role.permissions = write.permissions := by
  rw [Store.getRole, Option.map_eq_some_iff] at found
  obtain ⟨row, stored, rfl⟩ := found
  have sameId := List.find?_some stored
  obtain ⟨old, -, replaced⟩ :=
    List.mem_map.mp (List.mem_of_find?_eq_some stored)
  split at replaced
  · rw [← replaced]
    rfl
  · rename_i other
    rw [← replaced] at sameId
    exact absurd sameId other

private theorem createRole_perms (fresh : Uuid) (token : Option Claims)
    (req : CreateRoleRequest) {store : Store}
    (unused : fresh ∉ store.roleIds) :
    (createRole fresh token req).Post store fun result _ =>
      ∀ role, result = .ok role → parsePerms role.permissions store =
        parsePerms req.permissions store := by
  refine (readOnly_caller _).post_bind (by rintro _ _ _ ⟨⟩) fun caller _ => ?_
  refine (Authz.readOnly_require _ _).post_bind (by rintro _ _ _ ⟨⟩)
    fun _ _ => ?_
  refine (readOnly_parsePerms _).post_bind (by rintro _ _ _ ⟨⟩)
    fun perms parsed => ?_
  refine (readOnly_guardAdminEscalation _ _).post_bind (by rintro _ _ _ ⟨⟩)
    fun _ _ => ?_
  refine (Effect.readOnly_check _ _).post_bind (by rintro _ _ _ ⟨⟩)
    fun _ _ => ?_
  refine Effect.post_update_bind ?_
  refine (readOnly_requireRole _).post_bind (by rintro _ _ _ ⟨⟩)
    fun row found => ?_
  rintro role ⟨⟩
  exact parsePerms_roleToProto parsed
    (getRole_created unused (requireRole_ok found))

private theorem updateRole_perms (token : Option Claims)
    (req : UpdateRoleRequest)
    (store : Store) :
    (updateRole token req).Post store fun result _ =>
      ∀ role, result = .ok role → parsePerms role.permissions store =
        parsePerms req.permissions store := by
  refine (readOnly_caller _).post_bind (by rintro _ _ _ ⟨⟩) fun caller _ => ?_
  refine (Authz.readOnly_require _ _).post_bind (by rintro _ _ _ ⟨⟩)
    fun _ _ => ?_
  refine (readOnly_parseUuid _ _).post_bind (by rintro _ _ _ ⟨⟩)
    fun id _ => ?_
  refine (readOnly_parsePerms _).post_bind (by rintro _ _ _ ⟨⟩)
    fun perms parsed => ?_
  refine (readOnly_guardAdminEscalation _ _).post_bind (by rintro _ _ _ ⟨⟩)
    fun _ _ => ?_
  refine (readOnly_requireRole _).post_bind (by rintro _ _ _ ⟨⟩)
    fun existing _ => ?_
  refine (Authz.readOnly_requireRoleBelow _ _).post_bind
    (by rintro _ _ _ ⟨⟩) fun _ _ => ?_
  refine Effect.post_update_bind ?_
  refine (readOnly_requireRole _).post_bind (by rintro _ _ _ ⟨⟩)
    fun row found => ?_
  rintro role ⟨⟩
  exact parsePerms_roleToProto parsed (getRole_updated (requireRole_ok found))

end RoleSvc

theorem effective_permissions : EffectivePermissions where
  owner := by
    intro store userId owns
    rw [Authz.effective, if_pos owns]
  defined := by
    intro position
    have folded := Permissions.getLsbD_foldl
      (fun entry : String × Permissions => entry.2.bits) Permissions.names 0
      position
    have none : (0 : BitVec 64).getLsbD position = false :=
      BitVec.getLsbD_zero
    rw [Permissions.all, folded, none]
    simp only [Bool.false_eq_true, false_or]
  guest := by
    intro store userId ordinary visits
    rw [Authz.effective, ordinary, visits]
    rfl
  union := by
    intro store userId ordinary enrolled position
    rw [Authz.effective, ordinary, enrolled]
    exact store.getLsbD_memberPermissions userId position
  unordered := fun _ _ userId users roles assigned =>
    Store.effective_perm users roles assigned userId
  assigned := Store.effective_assignRole
  raised := Store.effective_updateRole
  backends := fun store userId _ perm =>
    ⟨Store.bitOr_eq_foldPermissions perm,
      store.toBitVec_foldPermissions userId⟩
  sent := RoleSvc.parsePerms_toString
  created := by
    intro fresh token req store role after unused ran
    have posted := RoleSvc.createRole_perms fresh token req unused
    rw [Effect.Post, ran] at posted
    exact posted role rfl
  updated := by
    intro token req store role after ran
    have posted := RoleSvc.updateRole_perms token req store
    rw [Effect.Post, ran] at posted
    exact posted role rfl

end Accord
