import Accord.Server.Authz
import Accord.Server.Store.Groups

/-! Removing members, with the guardrails in between.  The decision of the
guardrails is an argument: it depends on the clock and on earlier actions. -/

namespace Accord

inductive ActionClass where
  | createChannel
  | deleteChannel
  | kickMember
  | banMember
  | createRole
  | updateRole
  | deleteRole
  | assignRole
  | updateServer
  deriving DecidableEq

def ActionClass.asStr : ActionClass → String
  | .createChannel => "create_channel"
  | .deleteChannel => "delete_channel"
  | .kickMember => "kick_member"
  | .banMember => "ban_member"
  | .createRole => "create_role"
  | .updateRole => "update_role"
  | .deleteRole => "delete_role"
  | .assignRole => "assign_role"
  | .updateServer => "update_server"

inductive GuardrailDecision where
  | allow
  | allowFlagged (reason : String)
  | throttle (retryAfterSecs : ℕ) (reason : String)
  | deny (reason : String)
  deriving DecidableEq

namespace GuardrailDecision

def allowed : GuardrailDecision → Bool
  | .allow => true
  | .allowFlagged _ => true
  | .throttle _ _ => false
  | .deny _ => false

def audit : GuardrailDecision → Option (String × String)
  | .allow => none
  | .allowFlagged reason => some ("flagged", reason)
  | .throttle _ reason => some ("throttle", reason)
  | .deny reason => some ("deny", reason)

def result : GuardrailDecision → Except Status Unit
  | .allow => .ok ()
  | .allowFlagged _ => .ok ()
  | .throttle _ reason => .error ⟨.resourceExhausted, reason⟩
  | .deny reason => .error ⟨.failedPrecondition, reason⟩

end GuardrailDecision

namespace Store

def recordAudit (store : Store) (actorId : Uuid)
    (action target outcome reason : String) : Store :=
  { store with
    auditLog := store.auditLog ++ [⟨actorId, action, target, outcome, reason⟩] }

end Store

namespace GroupSvc

def requireGroupId (groupId : Option IdText) : Effect Store Status Uuid := do
  let text ← Effect.ofOption groupId
    (ServerError.invalidArgument "group_id is required")
  Effect.ofOption text.parse
    (ServerError.invalidArgument "group_id is not a valid UUID")

def requireUserId (userId : Option IdText) : Effect Store Status Uuid := do
  let text ← Effect.ofOption userId
    (ServerError.invalidArgument "user_id is required")
  Effect.ofOption text.parse
    (ServerError.invalidArgument "user_id is not a valid UUID")

def guard (decision : GuardrailDecision) (actor : Uuid)
    (action : ActionClass) (target : String) : Effect Store Status Unit := do
  Effect.update fun store =>
    match decision.audit with
    | some (outcome, reason) =>
        store.recordAudit actor action.asStr target outcome reason
    | none => store
  Effect.ofExcept decision.result

def removeMember (groupId userId : Uuid) : Effect Store Status Unit :=
  Effect.update (·.removeMember groupId userId)

structure RemoveMembersRequest where
  groupId : Option IdText
  memberIds : List IdText

/-- Leaving is free; removing somebody else takes the permission and passes
the guardrails.  Ranks are not compared here. -/
def permitRemoval (decision : GuardrailDecision) (caller userId : Uuid) :
    Effect Store Status Unit :=
  if userId = caller then
    pure ()
  else do
    Authz.require caller Permissions.kickMembers
    guard decision caller .kickMember userId.text

def removeListed (decision : GuardrailDecision) (caller groupId : Uuid)
    (member : IdText) : Effect Store Status Unit := do
  let userId ← Effect.ofOption member.parse
    (ServerError.invalidArgument "member id is not a valid UUID")
  permitRemoval decision caller userId
  removeMember groupId userId

/-- `decisions` answers for each listed member in turn. -/
def removeMembers (decisions : ℕ → GuardrailDecision)
    (token : Option Claims) (req : RemoveMembersRequest) :
    Effect Store Status Unit := do
  let claims ← authenticate token
  let groupId ← requireGroupId req.groupId
  Effect.forEach
    (fun entry =>
      removeListed (decisions entry.2) claims.sub groupId entry.1)
    req.memberIds.zipIdx

structure KickMemberRequest where
  groupId : Option IdText
  userId : Option IdText

def permitKick (decision : GuardrailDecision) (caller target : Uuid) :
    Effect Store Status Unit :=
  if target = caller then
    pure ()
  else do
    Authz.require caller Permissions.kickMembers
    Authz.requireOutranks caller target
    guard decision caller .kickMember target.text

def kickMember (decision : GuardrailDecision) (token : Option Claims)
    (req : KickMemberRequest) : Effect Store Status Unit := do
  let claims ← authenticate token
  let groupId ← requireGroupId req.groupId
  let target ← requireUserId req.userId
  permitKick decision claims.sub target
  removeMember groupId target

structure BanMemberRequest where
  userId : Option IdText
  reason : String

def permitBan (decision : GuardrailDecision) (caller target : Uuid) :
    Effect Store Status Unit := do
  Authz.require caller Permissions.banMembers
  Effect.check (fun store => !store.isOwner target)
    ⟨.failedPrecondition, "cannot ban the server owner"⟩
  Authz.requireOutranks caller target
  guard decision caller .banMember target.text

def banMember (decision : GuardrailDecision) (token : Option Claims)
    (req : BanMemberRequest) : Effect Store Status Unit := do
  let claims ← authenticate token
  let target ← requireUserId req.userId
  permitBan decision claims.sub target
  let groups ← Effect.read (·.groupIdsForUser target)
  Effect.forEach (removeMember · target) groups
  Effect.update (·.banUser target claims.sub (trim req.reason))

def unbanMember (token : Option Claims) (userId : Option IdText) :
    Effect Store Status Unit := do
  let claims ← authenticate token
  let target ← requireUserId userId
  Authz.require claims.sub Permissions.banMembers
  Effect.update (·.unbanUser target)

section Ids

variable {text : Option IdText} {store : Store} {id : Uuid}

theorem readOnly_requireGroupId (groupId : Option IdText) :
    (requireGroupId groupId).ReadOnly :=
  (Effect.readOnly_ofOption _ _).bind fun _ => Effect.readOnly_ofOption _ _

theorem readOnly_requireUserId (userId : Option IdText) :
    (requireUserId userId).ReadOnly :=
  (Effect.readOnly_ofOption _ _).bind fun _ => Effect.readOnly_ofOption _ _

theorem requireGroupId_ok
    (parsed : (requireGroupId text store).1 = .ok id) :
    text.bind IdText.parse = some id := by
  cases text with
  | none => cases parsed
  | some value => exact Effect.ofOption_ok parsed

theorem requireGroupId_of_parsed
    (parsed : text.bind IdText.parse = some id) :
    requireGroupId text store = (.ok id, store) := by
  cases text with
  | none => cases parsed
  | some value =>
      cases value with
      | malformed => cases parsed
      | uuid id =>
          cases parsed
          rfl

theorem requireGroupId_of_none (store : Store)
    (absent : text.bind IdText.parse = none) :
    ∃ error, requireGroupId text store = (.error error, store) := by
  cases text with
  | none => exact ⟨_, rfl⟩
  | some value =>
      cases value with
      | malformed => exact ⟨_, rfl⟩
      | uuid id => cases absent

theorem requireUserId_ok
    (parsed : (requireUserId text store).1 = .ok id) :
    text.bind IdText.parse = some id := by
  cases text with
  | none => cases parsed
  | some value => exact Effect.ofOption_ok parsed

end Ids

/-! What an audit entry, a removal and a ban keep, the calls keep. -/

section Keeps

variable {invariant : Store → Prop}
  (audits : ∀ (store : Store) actor action target outcome reason,
    invariant store →
    invariant (store.recordAudit actor action target outcome reason))
  (removes : ∀ (store : Store) groupId userId,
    invariant store → invariant (store.removeMember groupId userId))

include audits

theorem keeps_guard (decision : GuardrailDecision) (actor : Uuid)
    (action : ActionClass) (target : String) :
    (guard decision actor action target).Keeps invariant := by
  refine Effect.Keeps.bind (Effect.keeps_update ?_)
    fun _ => (Effect.readOnly_ofExcept _).keeps
  intro store holds
  split
  · exact audits store _ _ _ _ _ holds
  · exact holds

theorem keeps_permitRemoval (decision : GuardrailDecision)
    (caller userId : Uuid) :
    (permitRemoval decision caller userId).Keeps invariant := by
  simp only [permitRemoval]
  split
  · exact (Effect.readOnly_pure _).keeps
  · refine (Authz.readOnly_require _ _).keeps.bind fun _ => ?_
    exact keeps_guard audits _ _ _ _

theorem keeps_permitKick (decision : GuardrailDecision)
    (caller target : Uuid) :
    (permitKick decision caller target).Keeps invariant := by
  simp only [permitKick]
  split
  · exact (Effect.readOnly_pure _).keeps
  · refine (Authz.readOnly_require _ _).keeps.bind fun _ => ?_
    refine (Authz.readOnly_requireOutranks _ _).keeps.bind fun _ => ?_
    exact keeps_guard audits _ _ _ _

theorem keeps_permitBan (decision : GuardrailDecision)
    (caller target : Uuid) :
    (permitBan decision caller target).Keeps invariant := by
  refine (Authz.readOnly_require _ _).keeps.bind fun _ => ?_
  refine (Effect.readOnly_check _ _).keeps.bind fun _ => ?_
  refine (Authz.readOnly_requireOutranks _ _).keeps.bind fun _ => ?_
  exact keeps_guard audits _ _ _ _

include removes

theorem keeps_removeMembers (decisions : ℕ → GuardrailDecision)
    (token : Option Claims) (req : RemoveMembersRequest) :
    (removeMembers decisions token req).Keeps invariant := by
  refine (readOnly_authenticate _).keeps.bind fun claims => ?_
  refine (readOnly_requireGroupId _).keeps.bind fun groupId => ?_
  apply Effect.keeps_forEach
  intro entry
  refine (Effect.readOnly_ofOption _ _).keeps.bind fun userId => ?_
  refine (keeps_permitRemoval audits _ _ _).bind fun _ => ?_
  exact Effect.keeps_update fun store => removes store groupId userId

theorem keeps_kickMember (decision : GuardrailDecision)
    (token : Option Claims) (req : KickMemberRequest) :
    (kickMember decision token req).Keeps invariant := by
  refine (readOnly_authenticate _).keeps.bind fun claims => ?_
  refine (readOnly_requireGroupId _).keeps.bind fun groupId => ?_
  refine (readOnly_requireUserId _).keeps.bind fun target => ?_
  refine (keeps_permitKick audits _ _ _).bind fun _ => ?_
  exact Effect.keeps_update fun store => removes store groupId target

theorem keeps_banMember
    (bans : ∀ (store : Store) userId bannedBy reason, invariant store →
      invariant (store.banUser userId bannedBy reason))
    (decision : GuardrailDecision) (token : Option Claims)
    (req : BanMemberRequest) :
    (banMember decision token req).Keeps invariant := by
  refine (readOnly_authenticate _).keeps.bind fun claims => ?_
  refine (readOnly_requireUserId _).keeps.bind fun target => ?_
  refine (keeps_permitBan audits _ _ _).bind fun _ => ?_
  refine (Effect.readOnly_read _).keeps.bind fun groups => ?_
  refine Effect.Keeps.bind (Effect.keeps_forEach ?_ groups) fun _ => ?_
  · intro groupId
    exact Effect.keeps_update fun store => removes store groupId target
  · exact Effect.keeps_update fun store =>
      bans store target claims.sub (trim req.reason)

end Keeps

theorem keeps_unbanMember {invariant : Store → Prop}
    (unbans : ∀ (store : Store) userId, invariant store →
      invariant (store.unbanUser userId))
    (token : Option Claims) (userId : Option IdText) :
    (unbanMember token userId).Keeps invariant := by
  refine (readOnly_authenticate _).keeps.bind fun claims => ?_
  refine (readOnly_requireUserId _).keeps.bind fun target => ?_
  refine (Authz.readOnly_require _ _).keeps.bind fun _ => ?_
  exact Effect.keeps_update fun store => unbans store target

end GroupSvc

end Accord
