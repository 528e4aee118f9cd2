import Accord.Server.Groups.Moderation

/-! The two ways to remove somebody else from a group, side by side.  Both ask
for the same permission; only `KickMember` compares ranks. -/

namespace Accord

namespace GroupSvc

/-- `RemoveMembers` with a single member id. -/
def removeOne (decision : GuardrailDecision) (claims : Claims)
    (groupId : Option IdText) (target : Uuid) : Effect Store Status Unit :=
  removeMembers (fun _ => decision) (some claims) ⟨groupId, [.uuid target]⟩

def kickOne (decision : GuardrailDecision) (claims : Claims)
    (groupId : Option IdText) (target : Uuid) : Effect Store Status Unit :=
  kickMember decision (some claims) ⟨groupId, some (.uuid target)⟩

def mayKick (store : Store) (caller : Uuid) : Bool :=
  (Authz.effective store caller).allows Permissions.kickMembers

/-- The two calls agree on this request: on whether it succeeds, on the store
they leave, on what a removal takes, and on the owner. -/
structure PathsAgree (store : Store) (decision : GuardrailDecision)
    (claims : Claims) (groupId : Option IdText) (target : Uuid) : Prop where
  outcome : (removeOne decision claims groupId target store).1 = .ok () ↔
    (kickOne decision claims groupId target store).1 = .ok ()
  state : (removeOne decision claims groupId target store).2 =
    (kickOne decision claims groupId target store).2
  entitled : (removeOne decision claims groupId target store).1 = .ok () ∨
      (kickOne decision claims groupId target store).1 = .ok () →
    mayKick store claims.sub = true ∧
      Authz.rank store target < Authz.rank store claims.sub
  owner : store.isOwner target = true → ∀ group,
    (removeOne decision claims groupId target store).2.isMember group target =
        store.isMember group target ∧
      (kickOne decision claims groupId target store).2.isMember group target =
        store.isMember group target

/-- The request names a group, and the caller holds the permission but does
not outrank the target. -/
def Unranked (store : Store) (caller : Uuid) (groupId : Option IdText)
    (target : Uuid) : Prop :=
  (groupId.bind IdText.parse).isSome = true ∧ mayKick store caller = true ∧
    Authz.canActOn store caller target = false

variable {store : Store} {decision : GuardrailDecision} {claims : Claims}
  {groupId : Option IdText} {group target : Uuid}

def removed (store : Store) (decision : GuardrailDecision)
    (caller group target : Uuid) : Store :=
  (guard decision caller .kickMember target.text store).2.removeMember group
    target

private theorem guard_of_allowed (allows : decision.result = .ok ())
    (actor : Uuid)
    (action : ActionClass) (text : String) :
    guard decision actor action text store =
      (.ok (), (guard decision actor action text store).2) := by
  apply Prod.ext
  · exact allows
  · rfl

section Permits

variable (allows : decision.result = .ok ()) (other : target ≠ claims.sub)

include allows other

private theorem permitRemoval_eq :
    permitRemoval decision claims.sub target store =
      if mayKick store claims.sub then
        (.ok (), (guard decision claims.sub .kickMember target.text store).2)
      else
        (.error ServerError.permissionDenied.toStatus, store) := by
  simp only [permitRemoval, if_neg other, Authz.require]
  rw [Effect.check_bind, guard_of_allowed allows]
  rfl

private theorem permitKick_eq :
    permitKick decision claims.sub target store =
      if mayKick store claims.sub && Authz.canActOn store claims.sub target then
        (.ok (), (guard decision claims.sub .kickMember target.text store).2)
      else
        (.error ServerError.permissionDenied.toStatus, store) := by
  simp only [permitKick, if_neg other, Authz.require, Authz.requireOutranks]
  rw [Effect.check_bind, Effect.check_bind, guard_of_allowed allows]
  change (if mayKick store claims.sub = true then _ else _) = _
  cases mayKick store claims.sub with
  | true => rw [Bool.true_and, if_pos rfl]
  | false => rfl

variable (named : groupId.bind IdText.parse = some group)

include named

private theorem removeOne_eq :
    removeOne decision claims groupId target store =
      if mayKick store claims.sub then
        (.ok (), removed store decision claims.sub group target)
      else
        (.error ServerError.permissionDenied.toStatus, store) := by
  have parsed : (Effect.ofOption (IdText.uuid target).parse
      (ServerError.invalidArgument "member id is not a valid UUID").toStatus :
        Effect Store Status Uuid) store = (.ok target, store) := rfl
  have permit : permitRemoval decision claims.sub target store = _ :=
    permitRemoval_eq allows other
  simp only [removeOne, removeMembers]
  rw [Effect.bind_of_ok (authenticate_some claims store),
    Effect.bind_of_ok (requireGroupId_of_parsed named), List.zipIdx_singleton,
    Effect.forEach_singleton]
  simp only [removeListed]
  rw [Effect.bind_of_ok parsed]
  cases permitted : mayKick store claims.sub with
  | true =>
      rw [permitted, if_pos rfl] at permit
      rw [Effect.bind_of_ok permit]
      rfl
  | false =>
      rw [permitted] at permit
      exact Effect.bind_of_error permit _

private theorem kickOne_eq :
    kickOne decision claims groupId target store =
      if mayKick store claims.sub && Authz.canActOn store claims.sub target then
        (.ok (), removed store decision claims.sub group target)
      else
        (.error ServerError.permissionDenied.toStatus, store) := by
  have parsed : requireUserId (some (.uuid target)) store =
      (.ok target, store) := rfl
  have permit : permitKick decision claims.sub target store = _ :=
    permitKick_eq allows other
  simp only [kickOne, kickMember]
  rw [Effect.bind_of_ok (authenticate_some claims store),
    Effect.bind_of_ok (requireGroupId_of_parsed named),
    Effect.bind_of_ok parsed]
  cases permitted :
      mayKick store claims.sub && Authz.canActOn store claims.sub target with
  | true =>
      rw [permitted, if_pos rfl] at permit
      rw [Effect.bind_of_ok permit]
      rfl
  | false =>
      rw [permitted] at permit
      exact Effect.bind_of_error permit _

end Permits

private theorem pathsAgree_of_refused {error : Status}
    (removing : removeOne decision claims groupId target store =
      (.error error, store))
    (kicking : kickOne decision claims groupId target store =
      (.error error, store)) :
    PathsAgree store decision claims groupId target where
  outcome := by rw [removing, kicking]
  state := by rw [removing, kicking]
  entitled := by
    rw [removing, kicking]
    simp
  owner := by
    rw [removing, kicking]
    simp

private theorem pathsAgree_of_unnamed
    (unnamed : groupId.bind IdText.parse = none) :
    PathsAgree store decision claims groupId target := by
  obtain ⟨error, refused⟩ := requireGroupId_of_none store unnamed
  have removing : removeOne decision claims groupId target store =
      (.error error, store) := by
    simp only [removeOne, removeMembers]
    rw [Effect.bind_of_ok (authenticate_some claims store)]
    exact Effect.bind_of_error refused _
  have kicking : kickOne decision claims groupId target store =
      (.error error, store) := by
    simp only [kickOne, kickMember]
    rw [Effect.bind_of_ok (authenticate_some claims store)]
    exact Effect.bind_of_error refused _
  exact pathsAgree_of_refused removing kicking

private theorem isOwner_false_of_canActOn {actor : Uuid}
    (other : target ≠ actor)
    (ranked : Authz.canActOn store actor target = true) :
    store.isOwner target = false := by
  simp only [Authz.canActOn] at ranked
  rw [if_neg (by simpa using other.symm)] at ranked
  cases owner : store.isOwner target with
  | false => rfl
  | true => simp [owner] at ranked

/-- The two paths agree exactly where the permission comes with the rank. -/
theorem pathsAgree_iff_not_unranked (store : Store)
    (decision : GuardrailDecision) (allows : decision.result = .ok ())
    (claims : Claims) (groupId : Option IdText) (target : Uuid)
    (other : target ≠ claims.sub) :
    PathsAgree store decision claims groupId target ↔
      ¬ Unranked store claims.sub groupId target := by
  cases named : groupId.bind IdText.parse with
  | none =>
      constructor
      · intro _ unranked
        rw [Unranked, named] at unranked
        exact absurd unranked.1 (by simp)
      · intro _
        exact pathsAgree_of_unnamed named
  | some group =>
      have removing : removeOne decision claims groupId target store = _ :=
        removeOne_eq allows other named
      have kicking : kickOne decision claims groupId target store = _ :=
        kickOne_eq allows other named
      constructor
      · rintro agree ⟨_, permitted, unranked⟩
        have kicked := agree.outcome.mp (by rw [removing, permitted]; rfl)
        rw [kicking, unranked, Bool.and_false] at kicked
        cases kicked
      · intro ranked
        cases permitted : mayKick store claims.sub with
        | false =>
            rw [permitted] at removing kicking
            exact pathsAgree_of_refused removing kicking
        | true =>
            have acts :
                Authz.canActOn store claims.sub target = true := by
              rw [← Bool.not_eq_false]
              intro unranked
              exact ranked ⟨by rw [named]; rfl, permitted, unranked⟩
            rw [permitted] at removing kicking
            rw [acts] at kicking
            constructor
            · rw [removing, kicking]
              rfl
            · rw [removing, kicking]
              rfl
            · intro _
              exact ⟨permitted, Authz.rank_lt_of_canActOn other.symm acts⟩
            · rw [isOwner_false_of_canActOn other acts]
              simp

/-- The owner, a moderator who may kick, and a plain member, all in one
channel. -/
def moderatedStore : Store where
  users := [
    ⟨1, "root", "Root", "", true, false, none, ""⟩,
    ⟨2, "mod", "Mod", "", false, false, none, ""⟩,
    ⟨3, "new", "New", "", false, false, none, ""⟩]
  groups := [⟨7, "general", "", .pub, .text, "", 0⟩]
  groupMembers := [⟨7, 1, "owner"⟩, ⟨7, 2, "member"⟩, ⟨7, 3, "member"⟩]
  roles := [
    ⟨10, "Mods", Permissions.kickMembers.bits, 5, false, "", "", false, false⟩]
  memberRoles := [⟨2, 10⟩]

theorem moderator_kicks_member :
    PathsAgree moderatedStore .allow ⟨2, 0⟩ (some (.uuid 7)) 3 := by
  have ranked : ¬ Unranked moderatedStore 2 (some (.uuid 7)) 3 := by
    rintro ⟨_, _, unranked⟩
    exact absurd unranked (by decide)
  exact (pathsAgree_iff_not_unranked moderatedStore .allow rfl ⟨2, 0⟩
    (some (.uuid 7)) 3 (by decide)).mpr ranked

/-- The moderator cannot kick the owner, and removes the owner all the
same. -/
theorem moderator_removes_owner :
    ¬ PathsAgree moderatedStore .allow ⟨2, 0⟩ (some (.uuid 7)) 1 := by
  intro agree
  have stays := (agree.owner (by decide) 7).1
  exact absurd stays (by decide)

end GroupSvc

end Accord
