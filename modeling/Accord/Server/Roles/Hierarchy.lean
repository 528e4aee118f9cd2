import Accord.Server.Roles.Calls

/-! Role management and ranks.  Whatever a caller changes lies below the
caller's rank, so every user keeps exactly the positions at or above it, and
the ranks at or above it stay as they were. -/

namespace Accord

namespace Store

def positionsOf (store : Store) (userId : Uuid) : List Int :=
  (store.rolesOf userId).map (·.position)

theorem mem_positionsOf {store : Store} {userId : Uuid} {position : Int} :
    position ∈ store.positionsOf userId ↔
      ∃ role ∈ store.roles, store.hasRole userId role.id = true ∧
        role.position = position := by
  simp [positionsOf, rolesOf, and_assoc]

def PositionsBounded (store : Store) (userId : Uuid) : Prop :=
  ∀ position ∈ store.positionsOf userId, 0 ≤ position ∧ position ≤ i32Max

/-- The two stores give a user the same positions at or above `bound`. -/
def AgreeAbove (bound : Int) (before after : Store) (userId : Uuid) : Prop :=
  ∀ position, bound ≤ position →
    (position ∈ before.positionsOf userId ↔
      position ∈ after.positionsOf userId)

theorem RolesWellFormed.positionsBounded {store : Store}
    (wellFormed : store.RolesWellFormed) (userId : Uuid) :
    store.PositionsBounded userId := by
  intro position member
  obtain ⟨role, roleMember, _, rfl⟩ := mem_positionsOf.mp member
  exact ⟨wellFormed.position_nonneg role roleMember,
    wellFormed.position_le role roleMember⟩

theorem highestRolePosition_eq {store : Store} {userId : Uuid}
    (bounded : store.PositionsBounded userId) :
    store.highestRolePosition userId =
      Peak.peak 0 (store.positionsOf userId) := by
  have nonneg : (0 : Int) ≤ Peak.peak 0 (store.positionsOf userId) :=
    Peak.least_le_peak fun position member => (bounded position member).1
  have small : Peak.peak 0 (store.positionsOf userId) ≤ i32Max := by
    rcases Peak.peak_eq_least_or_mem 0 (store.positionsOf userId) with
      ⟨_, equality⟩ | member
    · rw [equality]
      decide
    · exact (bounded _ member).2
  exact asI32_of_bounds nonneg small

variable {store : Store} (wellFormed : store.RolesWellFormed)

include wellFormed in
theorem getRole_eq {id : Uuid} {role : RoleRow}
    (found : store.getRole id = some role) :
    role ∈ store.roles ∧ role.id = id := by
  unfold getRole at found
  rw [Option.map_eq_some_iff] at found
  obtain ⟨row, rowFound, rfl⟩ := found
  have member := List.mem_of_find?_eq_some rowFound
  have sameId : row.id = id := by
    simpa using List.find?_some rowFound
  have samePosition : roleFromRow row = row := by
    unfold roleFromRow
    rw [asI32_of_bounds (wellFormed.position_nonneg row member)
      (wellFormed.position_le row member)]
  rw [samePosition]
  exact ⟨member, sameId⟩

include wellFormed in
theorem role_unique {first second : RoleRow} (firstMember : first ∈ store.roles)
    (secondMember : second ∈ store.roles) (sameId : first.id = second.id) :
    first = second :=
  List.inj_on_of_nodup_map wellFormed.ids_nodup firstMember secondMember sameId

end Store

open Store

variable {store : Store}

private theorem rank_of_agreeAbove {bound : Int} {after : Store} {userId : Uuid}
    (nonneg : 0 ≤ bound) (sameUsers : after.users = store.users)
    (boundedBefore : store.PositionsBounded userId)
    (boundedAfter : after.PositionsBounded userId)
    (agree : AgreeAbove bound store after userId) :
    (bound ≤ Authz.rank store userId →
      Authz.rank after userId = Authz.rank store userId) ∧
    (Authz.rank store userId < bound → Authz.rank after userId < bound) := by
  have sameOwner : after.isOwner userId = store.isOwner userId := by
    unfold isOwner
    rw [sameUsers]
  unfold Authz.rank
  rw [sameOwner]
  cases store.isOwner userId with
  | true => simp
  | false =>
      simp only [Bool.false_eq_true, if_false]
      rw [highestRolePosition_eq boundedBefore,
        highestRolePosition_eq boundedAfter]
      constructor
      · exact Peak.peak_eq_of_agree agree nonneg
          fun position member => (boundedAfter position member).1
      · exact Peak.peak_lt_of_agree agree
          fun position member => (boundedBefore position member).1

private theorem agreeAbove_of_iff {bound : Int} {after : Store} {userId : Uuid}
    (same : ∀ position, position ∈ store.positionsOf userId ↔
      position ∈ after.positionsOf userId) :
    AgreeAbove bound store after userId :=
  fun position _ => same position

private theorem mem_positionsOf_createRole {fresh : Uuid} (write : RoleWrite)
    (unused : ∀ row ∈ store.memberRoles, row.roleId ≠ fresh)
    {userId : Uuid} {position : Int} :
    position ∈ (store.createRole fresh write).positionsOf userId ↔
      position ∈ store.positionsOf userId := by
  simp only [mem_positionsOf, hasRole_createRole]
  constructor
  · rintro ⟨role, member, held, equality⟩
    rcases List.mem_append.mp member with old | created
    · exact ⟨role, old, held, equality⟩
    · rw [List.mem_singleton] at created
      subst created
      exact absurd rfl (unused _ ((hasRole_iff _ _ _).mp held))
  · rintro ⟨role, member, held, equality⟩
    exact ⟨role, List.mem_append_left _ member, held, equality⟩

private theorem mem_positionsOf_updateRole (id : Uuid) (write : RoleWrite)
    {userId : Uuid} {position : Int} :
    position ∈ (store.updateRole id write).positionsOf userId ↔
      position ∈ store.positionsOf userId := by
  have kept : ∀ role : RoleRow,
      (if role.id == id then overwrite role write else role).id = role.id ∧
      (if role.id == id then overwrite role write else role).position =
        role.position := by
    intro role
    split <;> exact ⟨rfl, rfl⟩
  simp only [mem_positionsOf, hasRole_updateRole]
  constructor
  · rintro ⟨role, member, held, equality⟩
    obtain ⟨old, oldMember, rfl⟩ := List.mem_map.mp member
    rw [(kept old).1] at held
    rw [(kept old).2] at equality
    exact ⟨old, oldMember, held, equality⟩
  · rintro ⟨role, member, held, equality⟩
    refine ⟨_, List.mem_map_of_mem member, ?_, ?_⟩
    · rw [(kept role).1]
      exact held
    · rw [(kept role).2]
      exact equality

section Below

variable (wellFormed : store.RolesWellFormed) {bound : Int} {id : Uuid}
  {role : RoleRow} (found : store.getRole id = some role)

include wellFormed found in
private theorem ne_of_bound_le (below : role.position < bound) {other : RoleRow}
    (member : other ∈ store.roles) (high : bound ≤ other.position) :
    other.id ≠ id := by
  intro sameId
  obtain ⟨roleMember, roleId⟩ := getRole_eq wellFormed found
  have equality := role_unique wellFormed member roleMember
    (sameId.trans roleId.symm)
  subst equality
  omega

include wellFormed found in
private theorem agreeAbove_deleteRole (below : role.position < bound)
    (userId : Uuid) :
    AgreeAbove bound store (store.deleteRole id) userId := by
  intro position high
  simp only [mem_positionsOf, hasRole_deleteRole]
  constructor
  · rintro ⟨other, member, held, rfl⟩
    have different := ne_of_bound_le wellFormed found below member high
    refine ⟨other, ?_, ⟨held, different⟩, rfl⟩
    simp [deleteRole, member, different]
  · rintro ⟨other, member, ⟨held, _⟩, equality⟩
    exact ⟨other, (List.mem_filter.mp member).1, held, equality⟩

include wellFormed found in
private theorem agreeAbove_assignRole (below : role.position < bound)
    (target userId : Uuid) :
    AgreeAbove bound store (store.assignRole target id) userId := by
  intro position high
  simp only [mem_positionsOf, hasRole_assignRole, roles_assignRole]
  constructor
  · rintro ⟨other, member, held, equality⟩
    exact ⟨other, member, Or.inl held, equality⟩
  · rintro ⟨other, member, held | ⟨_, granted⟩, rfl⟩
    · exact ⟨other, member, held, rfl⟩
    · exact absurd granted
        (ne_of_bound_le wellFormed found below member high)

include wellFormed found in
private theorem agreeAbove_unassignRole (below : role.position < bound)
    (target userId : Uuid) :
    AgreeAbove bound store (store.unassignRole target id) userId := by
  intro position high
  simp only [mem_positionsOf, hasRole_unassignRole]
  constructor
  · rintro ⟨other, member, held, rfl⟩
    have different := ne_of_bound_le wellFormed found below member high
    exact ⟨other, member, ⟨held, fun taken => different taken.2⟩, rfl⟩
  · rintro ⟨other, member, ⟨held, _⟩, equality⟩
    exact ⟨other, member, held, equality⟩

end Below

theorem newPosition_eq {count index : ℕ} (short : count ≤ 2 ^ 21)
    (inside : index < count) :
    RoleSvc.newPosition count index = count - index := by
  have room : (2 : Int) ^ 21 ≤ i32Max := by decide
  have sameCount : asI32 count = count :=
    asI32_of_bounds (by omega) (by omega)
  have sameIndex : asI32 index = index :=
    asI32_of_bounds (by omega) (by omega)
  unfold RoleSvc.newPosition
  rw [sameCount, sameIndex]
  exact asI32_of_bounds (by omega) (by omega)

section Reorder

variable (wellFormed : store.RolesWellFormed) {bound : Int} {ids : List Uuid}
  (short : ids.length ≤ 2 ^ 21)
  (validated : ∀ entry ∈ ids.zipIdx, ∃ role,
    store.getRole entry.1 = some role ∧ role.isDefault = false ∧
      role.position < bound ∧
      RoleSvc.newPosition ids.length entry.2 < bound)

include short in
theorem written_bounds {entry : Uuid × ℕ} (listed : entry ∈ ids.zipIdx) :
    RoleSvc.newPosition ids.length entry.2 = ids.length - entry.2 ∧
      (0 : Int) ≤ ids.length - entry.2 ∧
      (ids.length : Int) - entry.2 ≤ i32Max := by
  obtain ⟨_, inside, _⟩ := List.mem_zipIdx listed
  have room : (2 : Int) ^ 21 ≤ i32Max := by decide
  refine ⟨newPosition_eq short (by omega), by omega, by omega⟩

include wellFormed short validated in
private theorem agreeAbove_reorderRoles (userId : Uuid) :
    AgreeAbove bound store (store.reorderRoles ids) userId := by
  intro position high
  simp only [mem_positionsOf, hasRole_reorderRoles, reorderRoles_roles]
  constructor
  · rintro ⟨role, member, held, rfl⟩
    refine ⟨_, List.mem_map_of_mem member, held, ?_⟩
    rcases placed_eq_or ids.length ids.zipIdx role with
      kept | ⟨_, entry, listed, sameId, _⟩
    · exact kept
    · obtain ⟨found, foundEq, _, below, _⟩ := validated entry listed
      exact absurd sameId.symm
        (ne_of_bound_le wellFormed foundEq below member high)
  · rintro ⟨role, member, held, equality⟩
    obtain ⟨old, oldMember, rfl⟩ := List.mem_map.mp member
    rcases placed_eq_or ids.length ids.zipIdx old with
      kept | ⟨_, entry, listed, _, written⟩
    · exact ⟨old, oldMember, held, kept.symm.trans equality⟩
    · obtain ⟨_, _, _, _, small⟩ := validated entry listed
      rw [(written_bounds short listed).1] at small
      simp only at equality
      omega

include wellFormed short in
private theorem placed_bounds {role : RoleRow} (member : role ∈ store.roles) :
    0 ≤ placed ids.length ids.zipIdx role ∧
      placed ids.length ids.zipIdx role ≤ i32Max := by
  rcases placed_eq_or ids.length ids.zipIdx role with
    kept | ⟨_, entry, listed, _, written⟩
  · rw [kept]
    exact ⟨wellFormed.position_nonneg role member,
      wellFormed.position_le role member⟩
  · rw [written]
    exact (written_bounds short listed).2

include wellFormed short in
private theorem positionsBounded_reorderRoles (userId : Uuid) :
    (store.reorderRoles ids).PositionsBounded userId := by
  intro position member
  simp only [mem_positionsOf, reorderRoles_roles] at member
  obtain ⟨role, roleMember, _, rfl⟩ := member
  obtain ⟨old, oldMember, rfl⟩ := List.mem_map.mp roleMember
  exact placed_bounds wellFormed short oldMember

end Reorder

private theorem RoleWritten.agreeAbove (wellFormed : store.RolesWellFormed)
    {caller : Uuid} {call : RoleCall} (fresh : call.Fresh store)
    {after : Store} (written : RoleWritten store caller call after)
    (userId : Uuid) :
    AgreeAbove (Authz.rank store caller) store after userId ∧
      after.PositionsBounded userId := by
  have bounded := wellFormed.positionsBounded
  cases written with
  | unchanged => exact ⟨fun _ _ => Iff.rfl, bounded userId⟩
  | created write =>
      have same : ∀ position, position ∈ Store.positionsOf _ userId ↔
          position ∈ store.positionsOf userId :=
        fun _ => mem_positionsOf_createRole write fresh.2
      exact ⟨agreeAbove_of_iff fun position => (same position).symm,
        fun position member =>
          bounded userId position ((same position).mp member)⟩
  | updated id write =>
      have same : ∀ position, position ∈ Store.positionsOf _ userId ↔
          position ∈ store.positionsOf userId :=
        fun _ => mem_positionsOf_updateRole id write
      exact ⟨agreeAbove_of_iff fun position => (same position).symm,
        fun position member =>
          bounded userId position ((same position).mp member)⟩
  | deleted id role _ found _ below =>
      refine ⟨agreeAbove_deleteRole wellFormed found below userId, ?_⟩
      intro position member
      obtain ⟨other, otherMember, _, rfl⟩ := mem_positionsOf.mp member
      have stored := (List.mem_filter.mp otherMember).1
      exact ⟨wellFormed.position_nonneg other stored,
        wellFormed.position_le other stored⟩
  | @reordered req ids _ short validated =>
      have small : ids.length ≤ 2 ^ 21 := by
        have := req.decoded
        omega
      exact ⟨agreeAbove_reorderRoles wellFormed small validated userId,
        positionsBounded_reorderRoles wellFormed small userId⟩
  | assigned target id role _ found _ below =>
      refine ⟨agreeAbove_assignRole wellFormed found below target userId,
        ?_⟩
      intro position member
      obtain ⟨other, otherMember, _, rfl⟩ := mem_positionsOf.mp member
      rw [roles_assignRole] at otherMember
      exact ⟨wellFormed.position_nonneg other otherMember,
        wellFormed.position_le other otherMember⟩
  | unassigned target id role _ found below =>
      refine ⟨agreeAbove_unassignRole wellFormed found below target userId,
        ?_⟩
      intro position member
      obtain ⟨other, otherMember, _, rfl⟩ := mem_positionsOf.mp member
      exact ⟨wellFormed.position_nonneg other otherMember,
        wellFormed.position_le other otherMember⟩

/-- Role calls keep the role tables well formed; a new role goes one above
the highest position, which must have room for it. -/
theorem RoleWritten.rolesWellFormed (wellFormed : store.RolesWellFormed)
    {caller : Uuid} {call : RoleCall} (fresh : call.Fresh store)
    (room : maxPosition store.roles < i32Max) {after : Store}
    (written : RoleWritten store caller call after) :
    after.RolesWellFormed := by
  suffices bounds : ∀ role ∈ after.roles,
      0 ≤ role.position ∧ role.position ≤ i32Max from
    { ids_nodup := written.roleIds_nodup fresh wellFormed.ids_nodup
      position_nonneg := fun role member => (bounds role member).1
      position_le := fun role member => (bounds role member).2 }
  have old : ∀ role ∈ store.roles,
      0 ≤ role.position ∧ role.position ≤ i32Max :=
    fun role member => ⟨wellFormed.position_nonneg role member,
      wellFormed.position_le role member⟩
  intro role member
  cases written with
  | unchanged => exact old role member
  | created write =>
      cases List.mem_append.mp member with
      | inl kept => exact old role kept
      | inr created =>
          rw [List.mem_singleton] at created
          subst created
          have nonneg : 0 ≤ maxPosition store.roles := by
            apply Peak.least_le_peak
            intro position listed
            obtain ⟨other, otherMember, rfl⟩ := List.mem_map.mp listed
            exact (old other otherMember).1
          constructor
          · change 0 ≤ maxPosition store.roles + 1
            omega
          · change maxPosition store.roles + 1 ≤ i32Max
            omega
  | updated id write =>
      obtain ⟨before, beforeMember, rfl⟩ := List.mem_map.mp member
      have bounds := old before beforeMember
      split
      · exact bounds
      · exact bounds
  | deleted id => exact old role (List.mem_filter.mp member).1
  | @reordered req ids _ sameLength =>
      have small : ids.length ≤ 2 ^ 21 := by
        have := req.decoded
        omega
      rw [reorderRoles_roles] at member
      obtain ⟨before, beforeMember, rfl⟩ := List.mem_map.mp member
      exact placed_bounds wellFormed small beforeMember
  | assigned =>
      rw [roles_assignRole] at member
      exact old role member
  | unassigned => exact old role member

private theorem rank_nonneg (wellFormed : store.RolesWellFormed)
    (userId : Uuid) :
    0 ≤ Authz.rank store userId := by
  have bounded := wellFormed.positionsBounded userId
  unfold Authz.rank
  split
  · decide
  · rw [highestRolePosition_eq bounded]
    exact Peak.least_le_peak fun position member =>
      (bounded position member).1

/-- No role call moves its caller's rank, nor any rank at or above it, nor
lifts a lower rank up to it. -/
theorem roleCall_rank_safe (store : Store)
    (wellFormed : store.RolesWellFormed) (claims : Claims) (call : RoleCall)
    (fresh : call.Fresh store) :
    Authz.rank (call.after (some claims) store) claims.sub =
        Authz.rank store claims.sub ∧
      ∀ other, other ≠ claims.sub →
        (Authz.rank store claims.sub ≤ Authz.rank store other →
          Authz.rank (call.after (some claims) store) other =
            Authz.rank store other) ∧
        (Authz.rank store other < Authz.rank store claims.sub →
          Authz.rank (call.after (some claims) store) other <
            Authz.rank store claims.sub) := by
  have written := RoleCall.after_written claims store call
  have safe : ∀ userId, _ := fun userId => by
    obtain ⟨agree, boundedAfter⟩ :=
      written.agreeAbove wellFormed fresh userId
    exact rank_of_agreeAbove (rank_nonneg wellFormed claims.sub)
      written.users_eq (wellFormed.positionsBounded userId)
      boundedAfter agree
  exact ⟨(safe claims.sub).1 le_rfl, fun other _ => safe other⟩

/-- A member of rank 5 who manages roles, a plain member, and a role of
position 1 to hand out. -/
def staffedStore : Store where
  users := [
    ⟨1, "mod", "Mod", "", false, false, none, ""⟩,
    ⟨2, "new", "New", "", false, false, none, ""⟩]
  roles := [
    ⟨10, "Mods", Permissions.manageRoles.bits, 5, false, "", "", false, false⟩,
    ⟨11, "Crew", 0, 1, false, "", "", false, false⟩]
  memberRoles := [⟨1, 10⟩]

theorem staffedStore_rolesWellFormed : staffedStore.RolesWellFormed where
  ids_nodup := by decide
  position_nonneg := by decide
  position_le := by decide

theorem assignRole_rank_safe :
    Authz.rank ((RoleCall.assignRole ⟨some (.uuid 2), .uuid 11⟩).after
        (some ⟨1, 0⟩) staffedStore) 1 = 5 ∧
      Authz.rank ((RoleCall.assignRole ⟨some (.uuid 2), .uuid 11⟩).after
        (some ⟨1, 0⟩) staffedStore) 2 < 5 := by
  have safe := roleCall_rank_safe staffedStore staffedStore_rolesWellFormed
    ⟨1, 0⟩ (.assignRole ⟨some (.uuid 2), .uuid 11⟩) trivial
  have rank : Authz.rank staffedStore 1 = 5 := by decide
  rw [← rank]
  exact ⟨safe.1, (safe.2 2 (by decide)).2 (by decide)⟩

end Accord
