import Accord.Server.Authz
import Accord.Server.Messaging.Registry
import Mathlib.Data.List.Dedup

/-! Who hears of a moderation action.  The query for the administrators' devices
reads the assignments on its own; it does not ask what each user may do. -/

namespace Accord

namespace RoleRow

/-- `(permissions & mask) <> 0`. -/
def grantsAny (role : RoleRow) (mask : BitVec 64) : Bool :=
  role.permissions &&& mask != 0#64

end RoleRow

namespace Store

/-- The user occurs in the join of the assignments with the roles that have a
bit of the mask. -/
def assignedAny (store : Store) (mask : BitVec 64) (userId : Uuid) : Bool :=
  store.memberRoles.any fun assignment =>
    assignment.userId == userId &&
      store.roles.any fun role =>
        role.id == assignment.roleId && role.grantsAny mask

def adminDeviceIds (store : Store) (permMask : BitVec 64) : List Uuid :=
  ((store.devices.filter fun device =>
      device.revokedAt.isNone &&
        (store.isOwner device.userId ||
          store.assignedAny permMask device.userId)).map (·.id)).dedup

private theorem assignedAny_eq (store : Store) (mask : BitVec 64)
    (userId : Uuid) :
    store.assignedAny mask userId =
      (store.rolesOf userId).any (·.grantsAny mask) := by
  rw [Bool.eq_iff_iff]
  simp only [assignedAny, rolesOf, List.any_eq_true, List.mem_filter,
    Bool.and_eq_true, beq_iff_eq]
  constructor
  · rintro ⟨assignment, present, rfl, role, stored, same, granted⟩
    refine ⟨role, ⟨stored, ?_⟩, granted⟩
    rw [hasRole_iff, same]
    exact present
  · rintro ⟨role, ⟨stored, held⟩, granted⟩
    exact ⟨⟨userId, role.id⟩, (store.hasRole_iff userId role.id).mp held, rfl,
      role, stored, rfl, granted⟩

private theorem mem_adminDeviceIds {store : Store} {mask : BitVec 64}
    {deviceId : Uuid} :
    deviceId ∈ store.adminDeviceIds mask ↔
      ∃ device ∈ store.devices, device.id = deviceId ∧
        device.revokedAt = none ∧ (store.isOwner device.userId = true ∨
          store.assignedAny mask device.userId = true) := by
  simp only [adminDeviceIds, List.mem_dedup, List.mem_map, List.mem_filter,
    Bool.and_eq_true, Bool.or_eq_true, Option.isNone_iff_eq_none]
  constructor
  · rintro ⟨device, ⟨stored, live, reached⟩, same⟩
    exact ⟨device, stored, same, live, reached⟩
  · rintro ⟨device, stored, same, live, reached⟩
    exact ⟨device, ⟨stored, live, reached⟩, same⟩

end Store

/-! Which bits a user holds, role by role. -/

section Bits

variable (mask : BitVec 64)

private theorem foldl_permissions_and_ne_zero (roles : List RoleRow)
    (bits : BitVec 64) :
    roles.foldl (fun bits role => bits ||| role.permissions) bits &&& mask ≠
        0#64 ↔
      bits &&& mask ≠ 0#64 ∨ roles.any (·.grantsAny mask) = true := by
  induction roles generalizing bits with
  | nil => simp
  | cons role rest induction =>
      rw [List.foldl_cons, induction, BitVec.and_or_distrib_right, ne_eq,
        BitVec.or_eq_zero_iff, not_and_or, List.any_cons, Bool.or_eq_true,
        RoleRow.grantsAny, bne_iff_ne, or_assoc]

end Bits

namespace Store

variable {store : Store} {mask : BitVec 64} {userId : Uuid}

private theorem memberPermissions_and_ne_zero :
    store.memberPermissions userId &&& mask ≠ 0#64 ↔
      (∃ role ∈ store.roles,
        role.isDefault = true ∧ role.grantsAny mask = true) ∨
        store.assignedAny mask userId = true := by
  rw [memberPermissions, foldl_permissions_and_ne_zero, assignedAny_eq]
  simp only [rolesOf, List.any_eq_true, List.mem_filter, Bool.or_eq_true]
  constructor
  · rintro (impossible | ⟨role, ⟨stored, byDefault | held⟩, granted⟩)
    · simp at impossible
    · exact Or.inl ⟨role, stored, byDefault, granted⟩
    · exact Or.inr ⟨role, ⟨stored, held⟩, granted⟩
  · rintro (⟨role, stored, byDefault, granted⟩ |
      ⟨role, ⟨stored, held⟩, granted⟩)
    · exact Or.inr ⟨role, ⟨stored, Or.inl byDefault⟩, granted⟩
    · exact Or.inr ⟨role, ⟨stored, Or.inr held⟩, granted⟩

/-! What the query is for, and where it falls short of it. -/

def Administers (store : Store) (mask : BitVec 64) (userId : Uuid) : Prop :=
  store.isOwner userId = true ∨
    (Authz.effective store userId).bits &&& mask ≠ 0#64

def AlertsReachAdmins (store : Store) (mask : BitVec 64) : Prop :=
  ∀ deviceId, deviceId ∈ store.adminDeviceIds mask ↔
    ∃ device ∈ store.devices, device.id = deviceId ∧
      device.revokedAt = none ∧ store.Administers mask device.userId

/-- No guest holds a role with a bit of the mask, and where such a bit comes
with a default role everybody else also holds a role with one. -/
def MaskHeldByRoles (store : Store) (mask : BitVec 64) : Prop :=
  ∀ device ∈ store.devices, device.revokedAt = none →
    store.isOwner device.userId = false →
      if store.isUserGuest device.userId then
        ∀ role ∈ store.rolesOf device.userId, role.grantsAny mask = false
      else
        (∃ role ∈ store.roles,
          role.isDefault = true ∧ role.grantsAny mask = true) →
          ∃ role ∈ store.rolesOf device.userId, role.grantsAny mask = true

private theorem administers_of_guest (ordinary : store.isOwner userId = false)
    (guest : store.isUserGuest userId = true) :
    ¬store.Administers mask userId := by
  simp [Administers, Authz.effective, ordinary, guest, Permissions.fromBits]

private theorem administers_of_member (ordinary : store.isOwner userId = false)
    (member : store.isUserGuest userId = false) :
    store.Administers mask userId ↔
      (∃ role ∈ store.roles,
        role.isDefault = true ∧ role.grantsAny mask = true) ∨
        store.assignedAny mask userId = true := by
  rw [← memberPermissions_and_ne_zero]
  simp [Administers, Authz.effective, ordinary, member, Permissions.fromBits]

private theorem assignedAny_true_iff :
    store.assignedAny mask userId = true ↔
      ∃ role ∈ store.rolesOf userId, role.grantsAny mask = true := by
  rw [assignedAny_eq, List.any_eq_true]

/-- Ids are a key of the device table, so an id is listed exactly when its own
row is selected. -/
private theorem alertsReachAdmins_iff_rows
    (keyed : (store.devices.map (·.id)).Nodup) :
    store.AlertsReachAdmins mask ↔
      ∀ device ∈ store.devices, device.revokedAt = none →
        (store.isOwner device.userId = true ∨
            store.assignedAny mask device.userId = true ↔
          store.Administers mask device.userId) := by
  have sameRow : ∀ first ∈ store.devices, ∀ second ∈ store.devices,
      first.id = second.id → first = second := by
    intro first firstStored second secondStored same
    exact List.inj_on_of_nodup_map keyed firstStored secondStored same
  simp only [AlertsReachAdmins, mem_adminDeviceIds]
  constructor
  · intro exact device stored live
    constructor
    · intro reached
      obtain ⟨other, otherStored, same, -, administers⟩ :=
        (exact device.id).mp ⟨device, stored, rfl, live, reached⟩
      rwa [sameRow other otherStored device stored same] at administers
    · intro administers
      obtain ⟨other, otherStored, same, -, reached⟩ :=
        (exact device.id).mpr ⟨device, stored, rfl, live, administers⟩
      rwa [sameRow other otherStored device stored same] at reached
  · intro rows deviceId
    constructor
    · rintro ⟨device, stored, same, live, reached⟩
      exact ⟨device, stored, same, live, (rows device stored live).mp reached⟩
    · rintro ⟨device, stored, same, live, administers⟩
      exact ⟨device, stored, same, live,
        (rows device stored live).mpr administers⟩

theorem alertsReachAdmins_iff (store : Store) (mask : BitVec 64)
    (keyed : (store.devices.map (·.id)).Nodup) :
    store.AlertsReachAdmins mask ↔ store.MaskHeldByRoles mask := by
  rw [alertsReachAdmins_iff_rows keyed, MaskHeldByRoles]
  refine forall_congr' fun device => forall_congr' fun _ =>
    forall_congr' fun _ => ?_
  cases owner : store.isOwner device.userId with
  | true => simp [Administers, owner]
  | false =>
      simp only [Bool.false_eq_true, false_or, true_imp_iff]
      cases guest : store.isUserGuest device.userId with
      | true =>
          simp only [administers_of_guest owner guest, if_true, iff_false,
            assignedAny_true_iff, not_exists, not_and, Bool.not_eq_true]
      | false =>
          simp only [administers_of_member owner guest, Bool.false_eq_true,
            if_false, ← assignedAny_true_iff, iff_or_self]

end Store

/-! The alert itself. -/

inductive Severity where
  | unspecified
  | info
  | warn
  | hostile
  deriving DecidableEq

structure ModAlert where
  actorId : Uuid
  action : String
  target : String
  reason : String
  severity : Severity
  timestampSecs : Int
  timestampNanos : Int
  deriving DecidableEq

def Registry.sendModAlert {Sender : Type} (registry : Registry Sender)
    (devices : List Uuid) (alert : ModAlert) : List (Sender × ModAlert) :=
  devices.filterMap fun device =>
    (registry.senderOf device).map fun sender => (sender, alert)

namespace GroupSvc

def alertMask : BitVec 64 :=
  Permissions.administrator.bits ||| Permissions.manageServer.bits

def alertAdmins {Sender : Type} (store : Store) (registry : Registry Sender)
    (alert : ModAlert) : List (Sender × ModAlert) :=
  registry.sendModAlert (store.adminDeviceIds alertMask) alert

theorem mem_alertAdmins {Sender : Type} {store : Store}
    {registry : Registry Sender} {alert offered : ModAlert} {sender : Sender}
    (reach : store.AlertsReachAdmins alertMask) :
    (sender, offered) ∈ alertAdmins store registry alert ↔
      offered = alert ∧ ∃ device ∈ store.devices,
        device.revokedAt = none ∧ store.Administers alertMask device.userId ∧
          registry.senderOf device.id = some sender := by
  simp only [alertAdmins, Registry.sendModAlert, List.mem_filterMap,
    Option.map_eq_some_iff, Prod.mk.injEq]
  constructor
  · rintro ⟨deviceId, listed, channel, connected, rfl, rfl⟩
    obtain ⟨device, stored, rfl, live, administers⟩ :=
      (reach deviceId).mp listed
    exact ⟨rfl, device, stored, live, administers, connected⟩
  · rintro ⟨rfl, device, stored, live, administers, connected⟩
    exact ⟨device.id, (reach device.id).mpr ⟨device, stored, rfl, live,
      administers⟩, sender, connected, rfl, rfl⟩

end GroupSvc

/-- Everybody may manage this server, by its default role. -/
def everyoneManages : Store where
  users := [
    ⟨1, "root", "Root", "", true, false, none, ""⟩,
    ⟨2, "mod", "Mod", "", false, false, none, ""⟩]
  devices := [⟨21, 1, "desk", none⟩, ⟨22, 2, "phone", none⟩]
  roles := [⟨10, "@everyone", Permissions.manageServer.bits, 0, true, "", "",
    false, false⟩]

theorem everyoneManages_unalerted :
    (everyoneManages.devices.map (·.id)).Nodup ∧
      ¬everyoneManages.AlertsReachAdmins GroupSvc.alertMask := by
  refine ⟨by decide, ?_⟩
  intro reach
  have administers :
      everyoneManages.Administers GroupSvc.alertMask 2 :=
    Or.inr (by decide)
  have listed := (reach 22).mpr
    ⟨⟨22, 2, "phone", none⟩, by decide, rfl, rfl, administers⟩
  exact absurd listed (by decide)

/-- The same server with the permission given to a role of its own. -/
def modManages : Store :=
  { everyoneManages with
    roles := [⟨11, "Mods", Permissions.manageServer.bits, 1, false, "", "",
      false, false⟩]
    memberRoles := [⟨2, 11⟩] }

theorem modManages_alerted :
    modManages.adminDeviceIds GroupSvc.alertMask = [21, 22] ∧
      modManages.AlertsReachAdmins GroupSvc.alertMask := by
  refine ⟨by decide, ?_⟩
  refine (Store.alertsReachAdmins_iff modManages GroupSvc.alertMask
    (by decide)).mpr ?_
  unfold Store.MaskHeldByRoles
  decide

end Accord
