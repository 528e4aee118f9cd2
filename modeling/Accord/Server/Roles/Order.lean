import Accord.Server.Roles.Escalation

/-! Role positions as an order.  A reorder numbers the listed roles from the
end of the list, and leaves the others where they were. -/

namespace Accord

namespace Store

def ordinaryRoles (store : Store) : List RoleRow :=
  store.roles.filter fun role => !role.isDefault

/-- Rank tells any two roles apart: ordinary roles have positions of their own
above the default role, and that is the only one at zero. -/
structure PositionsStrict (store : Store) : Prop where
  distinct : (store.ordinaryRoles.map (·.position)).Nodup
  above : ∀ role ∈ store.ordinaryRoles, 1 ≤ role.position
  default : ∃ role, store.roles.filter (·.isDefault) = [role] ∧
    role.position = 0

private theorem mem_ordinaryRoles {store : Store} {role : RoleRow} :
    role ∈ store.ordinaryRoles ↔
      role ∈ store.roles ∧ role.isDefault = false := by
  simp [ordinaryRoles]

theorem PositionsStrict.nonneg {store : Store}
    (strict : store.PositionsStrict) :
    ∀ role ∈ store.roles, 0 ≤ role.position := by
  intro role stored
  cases byDefault : role.isDefault with
  | false =>
      have := strict.above role (mem_ordinaryRoles.mpr ⟨stored, byDefault⟩)
      omega
  | true =>
      obtain ⟨only, listed, zero⟩ := strict.default
      have member : role ∈ store.roles.filter (·.isDefault) :=
        List.mem_filter.mpr ⟨stored, byDefault⟩
      rw [listed, List.mem_singleton] at member
      rw [member, zero]

/-! Where a reorder puts a role. -/

private theorem placed_append (count : Int) (first second : List (Uuid × ℕ))
    (role : RoleRow) :
    placed count (first ++ second) role =
      placed count second
        { role with position := placed count first role } := by
  induction first generalizing role with
  | nil => rfl
  | cons entry rest induction =>
      simp only [List.cons_append, placed]
      rw [induction]
      split <;> rfl

private theorem placed_unlisted {entries : List (Uuid × ℕ)} {role : RoleRow}
    (unlisted : ∀ entry ∈ entries, entry.1 ≠ role.id) (count : Int) :
    placed count entries role = role.position := by
  rcases placed_eq_or count entries role with
    kept | ⟨_, entry, member, same, _⟩
  · exact kept
  · exact absurd same (unlisted entry member)

private theorem placed_default {role : RoleRow}
    (byDefault : role.isDefault = true)
    (count : Int) (entries : List (Uuid × ℕ)) :
    placed count entries role = role.position := by
  rcases placed_eq_or count entries role with kept | ⟨ordinary, _⟩
  · exact kept
  · rw [byDefault] at ordinary
    cases ordinary

private theorem fst_ne_of_mem_zipIdx {ids : List Uuid} {id : Uuid} {start : ℕ}
    (unlisted : id ∉ ids) : ∀ entry ∈ ids.zipIdx start, entry.1 ≠ id := by
  intro entry member same
  apply unlisted
  rw [← same]
  exact List.fst_mem_of_mem_zipIdx member

/-- A listed role ends one above the number of ids listed after it. -/
private theorem placed_listed {ids before after : List Uuid} {role : RoleRow}
    (ordinary : role.isDefault = false)
    (split : ids = before ++ role.id :: after) (last : role.id ∉ after) :
    placed ids.length ids.zipIdx role = after.length + 1 := by
  subst split
  rw [List.zipIdx_append, List.zipIdx_cons, placed_append, placed]
  simp only [beq_self_eq_true, ordinary, Bool.not_false, Bool.and_self,
    if_true]
  refine (placed_unlisted ?_ _).trans ?_
  · exact fst_ne_of_mem_zipIdx last
  · simp only [List.length_append, List.length_cons]
    omega

private theorem placed_out {ids : List Uuid} {role : RoleRow}
    (out : role.id ∉ ids) :
    placed ids.length ids.zipIdx role = role.position :=
  placed_unlisted (fst_ne_of_mem_zipIdx out) _

private theorem exists_last {ids : List Uuid} {id : Uuid} (listed : id ∈ ids) :
    ∃ before after, ids = before ++ id :: after ∧ id ∉ after := by
  induction ids with
  | nil => simp at listed
  | cons head rest induction =>
      by_cases later : id ∈ rest
      · obtain ⟨before, after, split, last⟩ := induction later
        exact ⟨head :: before, after, by rw [split]; rfl, last⟩
      · have same : id = head := by
          rcases List.mem_cons.mp listed with same | member
          · exact same
          · exact absurd member later
        exact ⟨[], rest, by rw [same]; rfl, later⟩

/-- No role that is left out stands where a listed one is put. -/
def KeepsApart (store : Store) (ids : List Uuid) : Prop :=
  ∀ before id after, ids = before ++ id :: after → id ∉ after →
    ∀ role ∈ store.ordinaryRoles, role.id ∉ ids →
      role.position ≠ after.length + 1

/-! What each statement makes of the order. -/

variable {store : Store}

private theorem ordinaryRoles_reorderRoles (ids : List Uuid) :
    (store.reorderRoles ids).ordinaryRoles =
      store.ordinaryRoles.map fun role =>
        { role with position := placed ids.length ids.zipIdx role } := by
  unfold ordinaryRoles
  rw [reorderRoles_roles, List.filter_map]
  rfl

private theorem ordinaryRoles_nodup (unique : store.roleIds.Nodup) :
    store.ordinaryRoles.Nodup :=
  (unique.of_map _).filter _

private theorem ordinary_eq_of_id (unique : store.roleIds.Nodup)
    {first second : RoleRow} (firstStored : first ∈ store.ordinaryRoles)
    (secondStored : second ∈ store.ordinaryRoles)
    (same : first.id = second.id) : first = second :=
  List.inj_on_of_nodup_map unique (mem_ordinaryRoles.mp firstStored).1
    (mem_ordinaryRoles.mp secondStored).1 same

private theorem ordinary_eq_of_position (strict : store.PositionsStrict)
    {first second : RoleRow} (firstStored : first ∈ store.ordinaryRoles)
    (secondStored : second ∈ store.ordinaryRoles)
    (same : first.position = second.position) : first = second :=
  List.inj_on_of_nodup_map strict.distinct firstStored secondStored same

private theorem id_eq_of_rest_length
    {ids before after before' after' : List Uuid}
    {id id' : Uuid} (split : ids = before ++ id :: after)
    (split' : ids = before' ++ id' :: after')
    (same : after.length = after'.length) : id = id' := by
  have equal : before ++ id :: after = before' ++ id' :: after' :=
    split.symm.trans split'
  have tails := List.append_inj_right' equal (by simp [same])
  exact (List.cons.inj tails).1

private theorem placed_injective (unique : store.roleIds.Nodup)
    (strict : store.PositionsStrict) {ids : List Uuid}
    (apart : store.KeepsApart ids) {first second : RoleRow}
    (firstStored : first ∈ store.ordinaryRoles)
    (secondStored : second ∈ store.ordinaryRoles)
    (same : placed ids.length ids.zipIdx first =
      placed ids.length ids.zipIdx second) : first = second := by
  have firstOrdinary := (mem_ordinaryRoles.mp firstStored).2
  have secondOrdinary := (mem_ordinaryRoles.mp secondStored).2
  by_cases firstListed : first.id ∈ ids
  · obtain ⟨before, after, split, last⟩ := exists_last firstListed
    rw [placed_listed firstOrdinary split last] at same
    by_cases secondListed : second.id ∈ ids
    · obtain ⟨before', after', split', last'⟩ := exists_last secondListed
      rw [placed_listed secondOrdinary split' last'] at same
      exact ordinary_eq_of_id unique firstStored secondStored
        (id_eq_of_rest_length split split' (by omega))
    · rw [placed_out secondListed] at same
      exact absurd same.symm
        (apart before first.id after split last second secondStored
          secondListed)
  · rw [placed_out firstListed] at same
    by_cases secondListed : second.id ∈ ids
    · obtain ⟨before', after', split', last'⟩ := exists_last secondListed
      rw [placed_listed secondOrdinary split' last'] at same
      exact absurd same
        (apart before' second.id after' split' last' first firstStored
          firstListed)
    · rw [placed_out secondListed] at same
      exact ordinary_eq_of_position strict firstStored secondStored same

namespace PositionsStrict

variable (strict : store.PositionsStrict)

include strict in
private theorem of_roles_eq {after : Store} (same : after.roles = store.roles) :
    after.PositionsStrict := by
  obtain ⟨distinct, above, default⟩ := strict
  unfold ordinaryRoles at distinct above
  rw [← same] at distinct above default
  exact ⟨distinct, above, default⟩

include strict in
theorem createRole (id : Uuid) (write : RoleWrite) :
    (store.createRole id write).PositionsStrict := by
  have highest : ∀ role ∈ store.roles,
      role.position ≤ maxPosition store.roles := by
    intro role stored
    exact Peak.le_peak (List.mem_map_of_mem stored)
  have nonneg : 0 ≤ maxPosition store.roles := by
    apply Peak.least_le_peak
    intro position member
    obtain ⟨role, stored, rfl⟩ := List.mem_map.mp member
    exact strict.nonneg role stored
  refine ⟨?_, ?_, ?_⟩
  · simp only [Store.createRole, ordinaryRoles, List.filter_append,
      List.map_append]
    refine List.Nodup.append strict.distinct (by simp) ?_
    intro position old new
    obtain ⟨role, stored, rfl⟩ := List.mem_map.mp old
    have := highest role (mem_ordinaryRoles.mp stored).1
    have : role.position = maxPosition store.roles + 1 := by
      simpa using new
    omega
  · intro role stored
    simp only [Store.createRole, ordinaryRoles, List.filter_append,
      List.mem_append] at stored
    rcases stored with old | new
    · exact strict.above role old
    · have made : role.position = maxPosition store.roles + 1 := by
        simp only [Bool.not_false, List.filter_cons_of_pos, List.filter_nil,
          List.mem_singleton] at new
        rw [new]
      omega
  · obtain ⟨only, listed, zero⟩ := strict.default
    exact ⟨only, by simp [Store.createRole, List.filter_append, listed], zero⟩

include strict in
theorem deleteRole (id : Uuid) : (store.deleteRole id).PositionsStrict := by
  have ordinaries : (store.deleteRole id).ordinaryRoles.Sublist
      store.ordinaryRoles :=
    (List.filter_sublist : (store.deleteRole id).roles.Sublist
      store.roles).filter _
  have defaults : (store.deleteRole id).roles.filter (·.isDefault) =
      store.roles.filter (·.isDefault) := by
    simp only [Store.deleteRole, List.filter_filter]
    apply List.filter_congr
    intro role _
    cases role.isDefault <;> simp
  refine ⟨strict.distinct.sublist (ordinaries.map _), ?_, ?_⟩
  · intro role stored
    exact strict.above role (ordinaries.subset stored)
  · rw [defaults]
    exact strict.default

include strict in
theorem updateRole (id : Uuid) (write : RoleWrite) :
    (store.updateRole id write).PositionsStrict := by
  let write' : RoleRow → RoleRow := fun role =>
    if role.id == id then overwrite role write else role
  have kind : ∀ role, (write' role).isDefault = role.isDefault := by
    intro role
    simp only [write']
    split <;> rfl
  have position : ∀ role, (write' role).position = role.position := by
    intro role
    simp only [write']
    split <;> rfl
  have ordinaries : (store.updateRole id write).ordinaryRoles =
      store.ordinaryRoles.map write' := by
    simp only [ordinaryRoles, Store.updateRole, List.filter_map]
    congr 1
    apply List.filter_congr
    intro role _
    simp only [Function.comp_apply]
    rw [← kind role]
  have positions : (store.updateRole id write).ordinaryRoles.map
      (·.position) = store.ordinaryRoles.map (·.position) := by
    rw [ordinaries, List.map_map]
    exact List.map_congr_left fun role _ => position role
  have defaults : (store.updateRole id write).roles.filter (·.isDefault) =
      (store.roles.filter (·.isDefault)).map write' := by
    simp only [Store.updateRole, List.filter_map]
    congr 1
    apply List.filter_congr
    intro role _
    exact kind role
  refine ⟨?_, ?_, ?_⟩
  · rw [positions]
    exact strict.distinct
  · intro role stored
    rw [ordinaries, List.mem_map] at stored
    obtain ⟨old, oldStored, rfl⟩ := stored
    rw [position]
    exact strict.above old oldStored
  · obtain ⟨only, listed, zero⟩ := strict.default
    refine ⟨write' only, ?_, ?_⟩
    · rw [defaults, listed]
      rfl
    · rw [position, zero]

include strict in
theorem reorderRoles (unique : store.roleIds.Nodup) {ids : List Uuid}
    (apart : store.KeepsApart ids) :
    (store.reorderRoles ids).PositionsStrict := by
  refine ⟨?_, ?_, ?_⟩
  · rw [ordinaryRoles_reorderRoles, List.map_map]
    refine (ordinaryRoles_nodup unique).map_on ?_
    intro first firstStored second secondStored same
    exact placed_injective unique strict apart firstStored secondStored same
  · intro role stored
    rw [ordinaryRoles_reorderRoles, List.mem_map] at stored
    obtain ⟨old, oldStored, rfl⟩ := stored
    by_cases listed : old.id ∈ ids
    · obtain ⟨before, after, split, last⟩ := exists_last listed
      simp only [placed_listed (mem_ordinaryRoles.mp oldStored).2 split last]
      omega
    · simp only [placed_out listed]
      exact strict.above old oldStored
  · obtain ⟨only, listed, zero⟩ := strict.default
    have byDefault : only.isDefault = true := by
      have member : only ∈ store.roles.filter (·.isDefault) := by
        rw [listed]
        exact List.mem_singleton_self only
      exact (List.mem_filter.mp member).2
    refine ⟨only, ?_, zero⟩
    rw [reorderRoles_roles, List.filter_map]
    have same : store.roles.filter
        ((·.isDefault) ∘ fun role : RoleRow =>
          { role with position := placed ids.length ids.zipIdx role }) =
        [only] := listed
    rw [same, List.map_singleton, placed_default byDefault]

end PositionsStrict

/-- A reorder of stored ordinary roles that leaves one standing where a listed
one is put gives the two one position. -/
private theorem not_positionsStrict_of_collision {ids : List Uuid}
    (stored : ∀ id ∈ ids, ∃ role ∈ store.ordinaryRoles, role.id = id)
    (collide : ¬store.KeepsApart ids) :
    ¬(store.reorderRoles ids).PositionsStrict := by
  intro strict
  apply collide
  intro before id after split last other otherStored out same
  obtain ⟨role, roleStored, rfl⟩ := stored id (by rw [split]; simp)
  have move : ∀ {moved}, moved ∈ store.ordinaryRoles →
      { moved with position := placed ids.length ids.zipIdx moved } ∈
        (store.reorderRoles ids).ordinaryRoles := by
    intro moved movedStored
    rw [ordinaryRoles_reorderRoles]
    exact List.mem_map_of_mem movedStored
  have equal := ordinary_eq_of_position strict (move roleStored)
    (move otherStored) (by
      simp only [placed_out out,
        placed_listed (mem_ordinaryRoles.mp roleStored).2 split last, same])
  have sameId : role.id = other.id := (RoleRow.mk.inj equal).1
  apply out
  rw [← sameId, split]
  simp

end Store

namespace RoleRequest

open Store RoleSvc

/-- A reorder that the service lets through puts no listed role where one that
it leaves out stands. -/
def KeepsApart (store : Store) (request : RoleRequest) : Prop :=
  ∀ claims req ids, request.token = some claims →
    request.call = .reorderRoles req →
      IdText.parseAll req.roleIds = some ids →
        ReorderAdmitted store claims.sub ids → store.KeepsApart ids

private theorem stored_of_admitted {store : Store} {caller : Uuid}
    {ids : List Uuid}
    (admitted : ReorderAdmitted store caller ids) :
    ∀ id ∈ ids, ∃ role ∈ store.ordinaryRoles, role.id = id := by
  intro id listed
  obtain ⟨index, inside, found⟩ := List.getElem_of_mem listed
  have entry : (id, index) ∈ ids.zipIdx := by
    rw [List.mk_mem_zipIdx_iff_getElem?, List.getElem?_eq_getElem inside, found]
  obtain ⟨role, got, ordinary, _⟩ := admitted.validated _ entry
  unfold getRole at got
  rw [Option.map_eq_some_iff] at got
  obtain ⟨row, rowFound, rfl⟩ := got
  exact ⟨row, mem_ordinaryRoles.mpr
    ⟨List.mem_of_find?_eq_some rowFound, ordinary⟩,
    by simpa using List.find?_some rowFound⟩

private theorem positionsStrict_of_written {store after : Store} {caller : Uuid}
    {call : RoleCall} (written : RoleWritten store caller call after)
    (strict : store.PositionsStrict)
    (reordered : ∀ req, call = .reorderRoles req → after.PositionsStrict) :
    after.PositionsStrict := by
  cases written with
  | unchanged => exact strict
  | created write => exact strict.createRole _ write
  | updated id write => exact strict.updateRole id write
  | deleted id => exact strict.deleteRole id
  | reordered ids => exact reordered _ rfl
  | assigned userId roleId =>
      exact strict.of_roles_eq (store.roles_assignRole userId roleId)
  | unassigned userId roleId => exact strict.of_roles_eq rfl

/-- What the runs keep: ids are a key of the role table. -/
def Ranked (store : Store) : Prop :=
  store.roleIds.Nodup ∧ store.PositionsStrict

private theorem step_ranked (store : Store) (request : RoleRequest)
    (ranked : Ranked store) (fresh : request.call.Fresh store)
    (apart : request.KeepsApart store) : Ranked (request.step store) := by
  obtain ⟨unique, strict⟩ := ranked
  unfold step
  cases sent : request.token with
  | none =>
      rw [RoleCall.after_unauthenticated]
      exact ⟨unique, strict⟩
  | some claims =>
      have written := RoleCall.after_written claims store request.call
      refine ⟨written.roleIds_nodup fresh unique, ?_⟩
      refine positionsStrict_of_written written strict ?_
      intro req called
      simp only [called, RoleCall.after]
      rcases reorderRoles_post claims store req with
        ⟨ids, parsed, admitted, after⟩ | ⟨_, after⟩
      · rw [after]
        exact strict.reorderRoles unique
          (apart claims req ids sent called parsed admitted)
      · rw [after]
        exact strict

private theorem step_not_positionsStrict {store : Store} {request : RoleRequest}
    (collide : ¬request.KeepsApart store) :
    ¬(request.step store).PositionsStrict := by
  simp only [KeepsApart, not_forall] at collide
  obtain ⟨claims, req, ids, sent, called, parsed, admitted, collide⟩ := collide
  have after : request.step store = store.reorderRoles ids := by
    rcases reorderRoles_post claims store req with
      ⟨other, again, _, after⟩ | ⟨refused, _⟩
    · obtain rfl : ids = other := Option.some.inj (parsed.symm.trans again)
      simp only [step, sent, called, RoleCall.after, after]
    · exact absurd admitted (refused ids parsed)
  rw [after]
  exact not_positionsStrict_of_collision (stored_of_admitted admitted) collide

end RoleRequest

open RoleRequest in
theorem roleRun_positionsStrict_iff (store : Store)
    (unique : store.roleIds.Nodup) (strict : store.PositionsStrict)
    (requests : List RoleRequest)
    (fresh : EventRun.Each step (fun store request =>
      request.call.Fresh store) store requests) :
    EventRun.Always step Store.PositionsStrict store requests ↔
      EventRun.Each step (fun store request => request.KeepsApart store)
        store requests := by
  exact EventRun.always_iff_each_among
    (fun _ (ranked : Ranked _) => ranked.2) step_ranked
    (fun _ _ _ _ collide => step_not_positionsStrict collide)
    ⟨unique, strict⟩ fresh

def threeRoles : Store where
  users := [⟨1, "root", "Root", "", true, false, none, ""⟩]
  roles := [
    ⟨10, "@everyone", 0, 0, true, "", "", false, false⟩,
    ⟨11, "A", 0, 1, false, "", "", false, false⟩,
    ⟨12, "B", 0, 2, false, "", "", false, false⟩,
    ⟨13, "C", 0, 3, false, "", "", false, false⟩]

private theorem threeRoles_strict : threeRoles.PositionsStrict :=
  ⟨by decide, by decide, _, rfl, rfl⟩

def reorderBy (ids : List IdText)
    (decoded : 2 * ids.length ≤ 4 * 1024 * 1024) : RoleRequest :=
  ⟨some ⟨1, 0⟩, .reorderRoles ⟨ids, decoded⟩⟩

/-- Listing the top role alone puts it where the lowest one stands. -/
theorem reorder_one_collides :
    threeRoles.PositionsStrict ∧ threeRoles.roleIds.Nodup ∧
      ¬EventRun.Always RoleRequest.step Store.PositionsStrict threeRoles
        [reorderBy [.uuid 13] (by decide)] := by
  refine ⟨threeRoles_strict, by decide, ?_⟩
  rintro ⟨_, after⟩
  exact absurd after.distinct (by decide)

open RoleRequest in
theorem reorder_all_strict :
    EventRun.Always step Store.PositionsStrict threeRoles
      [reorderBy [.uuid 12, .uuid 11, .uuid 13] (by decide)] := by
  have fresh : EventRun.Each step (fun store request =>
      request.call.Fresh store) threeRoles
      [reorderBy [.uuid 12, .uuid 11, .uuid 13] (by decide)] :=
    ⟨trivial, trivial⟩
  refine (roleRun_positionsStrict_iff threeRoles (by decide)
    threeRoles_strict _ fresh).mpr ⟨?_, trivial⟩
  intro claims req ids sent called parsed _
  cases called
  cases parsed
  intro before id after _ _ role stored out
  have listed : ∀ role ∈ threeRoles.ordinaryRoles,
      role.id ∈ [(12 : Uuid), 11, 13] := by decide
  exact absurd (listed role stored) out

end Accord
