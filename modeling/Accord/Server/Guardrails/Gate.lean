import Accord.Server.Groups.Channels
import Accord.Server.Groups.Reads
import Accord.Server.Guardrails.Bucket
import Accord.Server.Roles.Service

/-! The moderated calls with the guardrails in place: a call is admitted, takes
a token, and is performed.  Role calls are not moderated. -/

namespace Accord

structure Deed where
  time : ℕ
  actor : Uuid
  action : ActionClass
  deriving DecidableEq

/-- `taken` and `done` record a run: what took a token and what was done.  The
code keeps no such lists. -/
structure Moderated where
  server : Server
  guardrails : Guardrails := {}
  taken : List Deed := []
  done : List Deed := []

namespace Guardrails

/-- The check takes a token from the bucket of the actor. -/
def takes (guardrails : Guardrails) (actor : Uuid) (action : ActionClass)
    (ctx : ActionContext) (now : ℕ) : Bool :=
  !(ctx.isOwner && !guardrails.blockOwner) &&
    ((guardrails.bucketOf actor action now).tryTake now).1.isNone

end Guardrails

namespace Moderated

variable {Value : Type}

def onServer (inner : Effect Server Status Value) :
    Effect Moderated Status Value :=
  Effect.zoom (·.server)
    (fun server moderated => { moderated with server }) inner

def record (deed : Deed) : Effect Moderated Status Unit :=
  Effect.update fun moderated =>
    { moderated with done := moderated.done ++ [deed] }

def consult (assess : String → List String → Option String) (now : ℕ)
    (actor : Uuid) (action : ActionClass) (ctx : ActionContext) :
    Effect Moderated Status GuardrailDecision :=
  fun moderated =>
    let checked :=
      moderated.guardrails.checkAt assess actor action ctx now
    (.ok checked.1, { moderated with
      guardrails := checked.2
      taken :=
        if moderated.guardrails.takes actor action ctx now then
          moderated.taken ++ [⟨now, actor, action⟩]
        else
          moderated.taken })

/-- `GroupSvc::guard`, up to the alert it sends. -/
def guard (assess : String → List String → Option String) (now : ℕ)
    (actor : Uuid) (action : ActionClass) (target : String)
    (name : Option String) (recentNames : List String) :
    Effect Moderated Status Unit := do
  let isOwner ← Effect.read (·.server.store.isOwner actor)
  let decision ← consult assess now actor action
    { name, recentNames, isOwner }
  onServer (Server.onStore (GroupSvc.guard decision actor action target))

end Moderated

/-- A moderated call: the checks that admit it, what the guardrails are asked,
and what it does then.  An exempt one does not ask. -/
structure Gate (Ticket Result : Type) where
  enter : Effect Server Status Ticket
  exempt : Ticket → Bool := fun _ => false
  action : ActionClass
  actor : Ticket → Uuid
  target : Ticket → String
  name : Ticket → Option String := fun _ => none
  recentNames : Ticket → Server → List String := fun _ _ => []
  perform : Ticket → Effect Server Status Result

namespace Gate

variable {Ticket Result : Type}

def run (gate : Gate Ticket Result) (decision : GuardrailDecision) :
    Effect Server Status Result := do
  let ticket ← gate.enter
  if gate.exempt ticket then
    gate.perform ticket
  else do
    Server.onStore (GroupSvc.guard decision (gate.actor ticket) gate.action
      (gate.target ticket))
    gate.perform ticket

/-- The call with the guardrails asked at the time `now`. -/
def runAt (assess : String → List String → Option String) (now : ℕ)
    (gate : Gate Ticket Result) : Effect Moderated Status Result := do
  let ticket ← Moderated.onServer gate.enter
  if gate.exempt ticket then
    Moderated.onServer (gate.perform ticket)
  else do
    let recentNames ← Effect.read fun moderated : Moderated =>
      gate.recentNames ticket moderated.server
    Moderated.guard assess now (gate.actor ticket) gate.action
      (gate.target ticket) (gate.name ticket) recentNames
    let result ← Moderated.onServer (gate.perform ticket)
    Moderated.record ⟨now, gate.actor ticket, gate.action⟩
    return result

end Gate

namespace GroupSvc

open Server

def publicNames (claims : Claims) (server : Server) : List String :=
  ((server.store.listGroupsForUser claims.sub).filter
    (·.group.kind = .pub)).map (·.group.name)

def createPublicGroupGate (fresh : Uuid) (token : Option Claims)
    (req : CreatePublicGroupRequest) : Gate Claims Uuid where
  enter := do
    let claims ← authenticate token
    Effect.check (fun _ => trim req.name ≠ "")
      (ServerError.invalidArgument "group name is required" : Status)
    onStore (Authz.require claims.sub Permissions.manageChannels)
    return claims
  action := .createChannel
  actor := (·.sub)
  target := fun _ => trim req.name
  name := fun _ => some (trim req.name)
  recentNames := publicNames
  perform := fun claims => do
    let groupId ← onStore (orStatus (Store.createPublicGroup fresh
      (trim req.name) (trim req.description)
      (parseChannelKind req.channelKind) (trim req.categoryId)))
    onStore (orStatus (Store.addMember groupId claims.sub "owner"))
    subscribe claims.deviceId groupId
    return groupId

def deleteGroupGate (token : Option Claims) (groupId : Option IdText) :
    Gate (Claims × Uuid × GroupRow) Unit where
  enter := onStore do
    let claims ← authenticate token
    let groupId ← requireGroupId groupId
    let group ← orStatus (Store.getGroup groupId)
    Effect.check (fun _ => group.kind = .pub)
      ⟨.failedPrecondition,
        "private groups are not deleted through this RPC"⟩
    Authz.require claims.sub Permissions.manageChannels
    return (claims, groupId, group)
  action := .deleteChannel
  actor := (·.1.sub)
  target := (·.2.2.name)
  perform := fun ticket =>
    onStore (Effect.update (·.deleteGroup ticket.2.1))

/-- The row of the category is in no table of this model. -/
def createCategoryGate (token : Option Claims) (name : String) :
    Gate Claims Unit where
  enter := onStore do
    let claims ← authenticate token
    Authz.require claims.sub Permissions.manageChannels
    Effect.check (fun _ => trim name ≠ "")
      (ServerError.invalidArgument "category name is required" : Status)
    return claims
  action := .createChannel
  actor := (·.sub)
  target := fun _ => trim name
  name := fun _ => some (trim name)
  perform := fun _ => pure ()

def deleteCategoryGate (token : Option Claims) (id : IdText) :
    Gate (Claims × Uuid) Unit where
  enter := onStore do
    let claims ← authenticate token
    Authz.require claims.sub Permissions.manageChannels
    let id ← Effect.ofOption id.parse invalidId
    return (claims, id)
  action := .deleteChannel
  actor := (·.1.sub)
  target := (·.2.text)
  perform := fun ticket =>
    onStore (Effect.update (·.deleteCategory ticket.2))

def updateTavernGate (token : Option Claims) : Gate Claims Unit where
  enter := onStore do
    let claims ← authenticate token
    Authz.require claims.sub Permissions.manageServer
    return claims
  action := .updateServer
  actor := (·.sub)
  target := fun _ => "tavern"
  perform := fun _ => pure ()

def kickMemberGate (token : Option Claims) (req : KickMemberRequest) :
    Gate (Claims × Uuid × Uuid) Unit where
  enter := onStore do
    let claims ← authenticate token
    let groupId ← requireGroupId req.groupId
    let target ← requireUserId req.userId
    if target = claims.sub then
      return (claims, groupId, target)
    else do
      Authz.require claims.sub Permissions.kickMembers
      Authz.requireOutranks claims.sub target
      return (claims, groupId, target)
  exempt := fun ticket => ticket.2.2 == ticket.1.sub
  action := .kickMember
  actor := (·.1.sub)
  target := (·.2.2.text)
  perform := fun ticket => onStore (removeMember ticket.2.1 ticket.2.2)

def removeListedGate (caller groupId : Uuid) (member : IdText) :
    Gate Uuid Unit where
  enter := onStore do
    let userId ← Effect.ofOption member.parse
      (ServerError.invalidArgument "member id is not a valid UUID" : Status)
    if userId = caller then
      return userId
    else do
      Authz.require caller Permissions.kickMembers
      return userId
  exempt := fun userId => userId == caller
  action := .kickMember
  actor := fun _ => caller
  target := Uuid.text
  perform := fun userId => onStore (removeMember groupId userId)

def banMemberGate (token : Option Claims) (req : BanMemberRequest) :
    Gate (Claims × Uuid) Unit where
  enter := onStore do
    let claims ← authenticate token
    let target ← requireUserId req.userId
    Authz.require claims.sub Permissions.banMembers
    Effect.check (fun store => !store.isOwner target)
      ⟨.failedPrecondition, "cannot ban the server owner"⟩
    Authz.requireOutranks claims.sub target
    return (claims, target)
  action := .banMember
  actor := (·.1.sub)
  target := (·.2.text)
  perform := fun ticket => onStore do
    let groups ← Effect.read (·.groupIdsForUser ticket.2)
    Effect.forEach (removeMember · ticket.2) groups
    Effect.update (·.banUser ticket.2 ticket.1.sub (trim req.reason))

/-! With the decision given, the gates are the handlers. -/

section Handlers

variable (decision : GuardrailDecision) (token : Option Claims)

theorem createPublicGroupGate_run (fresh : Uuid)
    (req : CreatePublicGroupRequest) :
    (createPublicGroupGate fresh token req).run decision =
      createPublicGroup decision fresh token req := by
  simp only [Gate.run, createPublicGroupGate, createPublicGroup, bind_assoc,
    pure_bind, Bool.false_eq_true, if_false]

theorem deleteGroupGate_run (groupId : Option IdText) :
    (deleteGroupGate token groupId).run decision =
      onStore (deleteGroup decision token groupId) := by
  simp only [Gate.run, deleteGroupGate, deleteGroup, onStore_bind,
    onStore_pure, bind_assoc, pure_bind, Bool.false_eq_true, if_false]

theorem deleteCategoryGate_run (id : IdText) :
    (deleteCategoryGate token id).run decision =
      onStore (deleteCategory decision token id) := by
  simp only [Gate.run, deleteCategoryGate, deleteCategory, onStore_bind,
    onStore_pure, bind_assoc, pure_bind, Bool.false_eq_true, if_false]

theorem createCategoryGate_run (name : String) :
    (createCategoryGate token name).run decision =
      onStore (createCategory decision token name) := by
  simp only [Gate.run, createCategoryGate, createCategory, onStore_bind,
    onStore_pure, bind_assoc, pure_bind, Bool.false_eq_true, if_false,
    bind_pure_unit]

theorem updateTavernGate_run :
    (updateTavernGate token).run decision =
      onStore (updateTavern decision token) := by
  simp only [Gate.run, updateTavernGate, updateTavern, onStore_bind,
    onStore_pure, bind_assoc, pure_bind, Bool.false_eq_true, if_false,
    bind_pure_unit]

theorem banMemberGate_run (req : BanMemberRequest) :
    (banMemberGate token req).run decision =
      onStore (banMember decision token req) := by
  simp only [Gate.run, banMemberGate, banMember, permitBan, onStore_bind,
    onStore_pure, bind_assoc, pure_bind, Bool.false_eq_true, if_false]

theorem kickMemberGate_run (req : KickMemberRequest) :
    (kickMemberGate token req).run decision =
      onStore (kickMember decision token req) := by
  simp only [Gate.run, kickMemberGate, kickMember, permitKick, onStore_bind,
    bind_assoc]
  congr 1
  funext claims
  congr 1
  funext groupId
  congr 1
  funext target
  by_cases self : target = claims.sub
  · simp only [self, if_true, onStore_pure, pure_bind, beq_self_eq_true]
  · simp only [self, if_false, onStore_bind, onStore_pure, bind_assoc,
      pure_bind, beq_iff_eq]

theorem removeListedGate_run (caller groupId : Uuid) (member : IdText) :
    (removeListedGate caller groupId member).run decision =
      onStore (removeListed decision caller groupId member) := by
  simp only [Gate.run, removeListedGate, removeListed, permitRemoval,
    onStore_bind, bind_assoc]
  congr 1
  funext userId
  by_cases self : userId = caller
  · simp only [self, if_true, onStore_pure, pure_bind, beq_self_eq_true]
  · simp only [self, if_false, onStore_bind, onStore_pure, bind_assoc,
      pure_bind, beq_iff_eq]

end Handlers

end GroupSvc

end Accord
