import Accord.Server.Store.Roles

/-! Who may do what, and to whom.  Permission bits answer the first question,
ranks the second. -/

namespace Accord

namespace Authz

def effective (store : Store) (userId : Uuid) : Permissions :=
  if store.isOwner userId then
    Permissions.all
  else if store.isUserGuest userId then
    Permissions.fromBits 0
  else
    Permissions.fromBits (store.memberPermissions userId)

def rank (store : Store) (userId : Uuid) : Int :=
  if store.isOwner userId then i32Max else store.highestRolePosition userId

def canActOn (store : Store) (actor target : Uuid) : Bool :=
  if actor == target then
    true
  else if store.isOwner target then
    false
  else
    rank store target < rank store actor

def require (userId : Uuid) (perm : Permissions) :
    Effect Store Status Unit :=
  Effect.check (fun store => (effective store userId).allows perm)
    ServerError.permissionDenied

def requireOutranks (actor target : Uuid) : Effect Store Status Unit :=
  Effect.check (fun store => canActOn store actor target)
    ServerError.permissionDenied

def requireRoleBelow (actor : Uuid) (rolePosition : Int) :
    Effect Store Status Unit :=
  Effect.check (fun store => rolePosition < rank store actor)
    ServerError.permissionDenied

theorem readOnly_require (userId : Uuid) (perm : Permissions) :
    (require userId perm).ReadOnly :=
  Effect.readOnly_check _ _

theorem readOnly_requireOutranks (actor target : Uuid) :
    (requireOutranks actor target).ReadOnly :=
  Effect.readOnly_check _ _

theorem readOnly_requireRoleBelow (actor : Uuid) (rolePosition : Int) :
    (requireRoleBelow actor rolePosition).ReadOnly :=
  Effect.readOnly_check _ _

variable {store : Store} {result : Unit}

theorem require_ok {userId : Uuid} {perm : Permissions}
    (passed : (require userId perm store).1 = .ok result) :
    (effective store userId).allows perm = true :=
  Effect.check_ok passed

theorem require_of_allows {userId : Uuid} {perm : Permissions}
    (allowed : (effective store userId).allows perm = true) :
    require userId perm store = (.ok (), store) :=
  Effect.check_of_true
    (fun store => (effective store userId).allows perm) allowed _

theorem requireOutranks_ok {actor target : Uuid}
    (passed : (requireOutranks actor target store).1 = .ok result) :
    canActOn store actor target = true :=
  Effect.check_ok passed

theorem requireRoleBelow_ok {actor : Uuid} {rolePosition : Int}
    (passed : (requireRoleBelow actor rolePosition store).1 = .ok result) :
    rolePosition < rank store actor := by
  simpa using Effect.check_ok passed

/-- Acting on someone else takes a strictly higher rank than theirs. -/
theorem rank_lt_of_canActOn {actor target : Uuid} (different : actor ≠ target)
    (allowed : canActOn store actor target = true) :
    rank store target < rank store actor := by
  unfold canActOn at allowed
  rw [if_neg (by simpa using different)] at allowed
  cases owner : store.isOwner target with
  | true => simp [owner] at allowed
  | false => simpa [owner] using allowed

end Authz

end Accord
