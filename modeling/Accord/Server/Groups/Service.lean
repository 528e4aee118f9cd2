import Accord.Server.MlsRelay

/-! Creating groups and adding members.  Fresh ids and the decision of the
guardrails are arguments. -/

namespace Accord

namespace GroupSvc

open Server

structure CreatePublicGroupRequest where
  name : String
  description : String
  channelKind : String
  categoryId : String

def parseChannelKind (text : String) : ChannelKind :=
  if trim text = "voice" then .voice else .text

def createPublicGroup (decision : GuardrailDecision) (fresh : Uuid)
    (token : Option Claims) (req : CreatePublicGroupRequest) :
    Effect Server Status Uuid := do
  let claims ← authenticate token
  Effect.check (fun _ => trim req.name ≠ "")
    (ServerError.invalidArgument "group name is required")
  onStore (Authz.require claims.sub Permissions.manageChannels)
  onStore (guard decision claims.sub .createChannel (trim req.name))
  let groupId ← onStore (orStatus (Store.createPublicGroup fresh
    (trim req.name) (trim req.description)
    (parseChannelKind req.channelKind) (trim req.categoryId)))
  onStore (orStatus (Store.addMember groupId claims.sub "owner"))
  subscribe claims.deviceId groupId
  return groupId

structure CreatePrivateGroupRequest where
  groupId : Option IdText
  name : String
  memberIds : List IdText
  welcomes : List WelcomeTarget

def privateGroupName (name : String) : String :=
  if trim name = "" then "Direct message" else trim name

def enrol (groupId : Uuid) (member : IdText) : Effect Store Status Unit := do
  let userId ← Effect.ofOption member.parse
    (ServerError.invalidArgument "member id is not a valid UUID")
  orStatus (Store.addMember groupId userId "member")

/-- The rows of a new private group: its own, its creator's and those of the
listed members. -/
def adoptGroup (creator groupId : Uuid) (name : String)
    (memberIds : List IdText) : Effect Store Status Unit := do
  orStatus (Store.createPrivateGroupWithId groupId (privateGroupName name))
  orStatus (Store.addMember groupId creator "owner")
  Effect.forEach (enrol groupId) memberIds

def createPrivateGroup (bus : Bus) (token : Option Claims)
    (req : CreatePrivateGroupRequest) : Effect Server Status Uuid := do
  let claims ← authenticate token
  let groupId ← onStore (requireGroupId req.groupId)
  onStore (adoptGroup claims.sub groupId req.name req.memberIds)
  Effect.forEach (MlsRelaySvc.relayWelcome bus groupId) req.welcomes
  subscribe claims.deviceId groupId
  return groupId

structure AddMembersRequest where
  groupId : Option IdText
  memberIds : List IdText

def addMemberById (groupId : Uuid) (member : IdText) :
    Effect Store Status Unit := do
  let userId ← Effect.ofOption member.parse
    (ServerError.invalidArgument "member id is not a valid UUID")
  Effect.check (fun store => !store.isUserGuest userId)
    ServerError.permissionDenied
  Effect.check (fun store => !store.isBanned userId)
    ⟨.failedPrecondition, "user is banned from this server"⟩
  orStatus (Store.addMember groupId userId "member")

def addMembers (token : Option Claims) (req : AddMembersRequest) :
    Effect Store Status Unit := do
  let claims ← authenticate token
  Effect.check (fun store => !store.isUserGuest claims.sub)
    ServerError.permissionDenied
  let groupId ← requireGroupId req.groupId
  let group ← orStatus (Store.getGroup groupId)
  Effect.check (fun _ => group.kind = .pub)
    ⟨.unimplemented,
      "adding members to private groups requires an MLS Commit"⟩
  Effect.forEach (addMemberById groupId) req.memberIds

/-! What the statements of a creation keep, the creation keeps. -/

section Creation

variable {invariant : Store → Prop}

theorem keeps_adoptGroup (creator groupId : Uuid) (name : String)
    (memberIds : List IdText)
    (creates : (Store.createPrivateGroupWithId groupId
      (privateGroupName name)).Keeps invariant)
    (adds : ∀ userId role,
      (Store.addMember groupId userId role).Keeps invariant) :
    (adoptGroup creator groupId name memberIds).Keeps invariant := by
  apply (creates.mapError _).bind
  intro _
  apply ((adds _ _).mapError _).bind
  intro _
  apply Effect.keeps_forEach
  intro member
  refine (Effect.readOnly_ofOption _ _).keeps.bind fun userId => ?_
  exact (adds userId "member").mapError _

theorem keeps_createPrivateGroup (bus : Bus) (token : Option Claims)
    (req : CreatePrivateGroupRequest)
    (adopts : ∀ claims groupId, token = some claims →
      (adoptGroup claims.sub groupId req.name req.memberIds).Keeps invariant)
    (queues : ∀ device kind group payload,
      (Store.enqueueInbox device kind group payload).Keeps invariant) :
    (createPrivateGroup bus token req).Keeps (OnStore invariant) := by
  intro server holds
  have kept : (createPrivateGroup bus token req).Post server
      fun _ after => OnStore invariant after := by
    apply post_authenticate (fun _ => holds)
    intro claims accepted
    have rest : ∀ groupId, Effect.Keeps (OnStore invariant) (do
        onStore (adoptGroup claims.sub groupId req.name req.memberIds)
        Effect.forEach (MlsRelaySvc.relayWelcome bus groupId) req.welcomes
        subscribe claims.deviceId groupId
        return groupId) := by
      intro groupId
      apply (keeps_onStore (adopts claims groupId accepted)).bind
      intro _
      apply (Effect.keeps_forEach (MlsRelaySvc.keeps_relayWelcome queues bus
        groupId) req.welcomes).bind
      intro _
      apply (keeps_subscribe claims.deviceId groupId).bind
      intro _
      exact (Effect.readOnly_pure _).keeps
    have parses : (onStore (requireGroupId req.groupId)).Keeps
        (OnStore invariant) :=
      keeps_onStore (readOnly_requireGroupId _).keeps
    exact parses.bind rest server holds
  exact kept

end Creation

end GroupSvc

end Accord
