import Accord.Server.Guardrails.Coverage

/-! Runs of calls of one actor, and where the guardrails are not asked. -/

namespace Accord

open Moderated

namespace Moderated

variable (assess : String → List String → Option String)

def requireGroupId (groupId : Option IdText) :
    Effect Moderated Status Uuid :=
  onServer (Server.onStore (GroupSvc.requireGroupId groupId))

/-- `stamps` is the time at which each listed member is reached. -/
def removeMembersAt (stamps : ℕ → ℕ) (token : Option Claims)
    (req : GroupSvc.RemoveMembersRequest) : Effect Moderated Status Unit := do
  let claims ← authenticate token
  let groupId ← requireGroupId req.groupId
  Effect.forEach
    (fun entry =>
      (GroupSvc.removeListedGate claims.sub groupId entry.1).runAt assess
        (stamps entry.2))
    req.memberIds.zipIdx

def runRole (now : ℕ) (claims : Claims) (call : RoleCall) :
    Effect Moderated Status Unit := do
  onServer (Server.onStore (call.run (some claims)))
  match call.action with
  | some action => record ⟨now, claims.sub, action⟩
  | none => pure ()

end Moderated

/-- The calls of one actor; `elsewhere` is any other work of the server. -/
inductive ModeratedCall where
  | createPublicGroup (fresh : Uuid) (req : GroupSvc.CreatePublicGroupRequest)
  | deleteGroup (groupId : Option IdText)
  | createCategory (name : String)
  | deleteCategory (id : IdText)
  | updateTavern
  | removeMembers (req : GroupSvc.RemoveMembersRequest)
  | kickMember (req : GroupSvc.KickMemberRequest)
  | banMember (req : GroupSvc.BanMemberRequest)
  | role (call : RoleCall)
  | elsewhere (change : Server → Server)

/-- A call of a device of the actor, with the times at which it looks at the
clock. -/
structure ModeratedEvent where
  deviceId : Uuid
  stamps : ℕ → ℕ
  call : ModeratedCall

namespace ModeratedEvent

variable (assess : String → List String → Option String) (actor : Uuid)

def gated {Ticket Result : Type} (event : ModeratedEvent)
    (gate : Gate Ticket Result) (moderated : Moderated) : Moderated :=
  (gate.runAt assess (event.stamps 0) moderated).2

def step (moderated : Moderated) (event : ModeratedEvent) : Moderated :=
  let claims : Claims := ⟨actor, event.deviceId⟩
  let token := some claims
  match event.call with
  | .createPublicGroup fresh req =>
      event.gated assess (GroupSvc.createPublicGroupGate fresh token req)
        moderated
  | .deleteGroup groupId =>
      event.gated assess (GroupSvc.deleteGroupGate token groupId) moderated
  | .createCategory name =>
      event.gated assess (GroupSvc.createCategoryGate token name) moderated
  | .deleteCategory id =>
      event.gated assess (GroupSvc.deleteCategoryGate token id) moderated
  | .updateTavern =>
      event.gated assess (GroupSvc.updateTavernGate token) moderated
  | .removeMembers req =>
      (removeMembersAt assess event.stamps token req moderated).2
  | .kickMember req =>
      event.gated assess (GroupSvc.kickMemberGate token req) moderated
  | .banMember req =>
      event.gated assess (GroupSvc.banMemberGate token req) moderated
  | .role call => (runRole (event.stamps 0) claims call moderated).2
  | .elsewhere change =>
      { moderated with server := change moderated.server }

/-- The actor does not own the server and the clock does not run back. -/
structure Admissible (moderated : Moderated) (event : ModeratedEvent) :
    Prop where
  ordinary : moderated.server.store.isOwner actor = false
  inOrder : moderated.guardrails.NotAhead actor (event.stamps 0)
  monotone : Monotone event.stamps

/-- Not a role mutation that goes through. -/
def SparesRoles (moderated : Moderated) (event : ModeratedEvent) : Prop :=
  ∀ call action, event.call = .role call → call.action = some action →
    ¬call.Admitted moderated.server.store actor

end ModeratedEvent

/-- The gate only looks before it asks, and asks for the actor. -/
structure Gate.Serves {Ticket Result : Type} (actor : Uuid)
    (gate : Gate Ticket Result) : Prop where
  readOnly : gate.enter.ReadOnly
  own : gate.enter.Yields fun ticket => gate.actor ticket = actor
  classed : gate.action.isRole = false

namespace GroupSvc

open Effect

variable {actor : Uuid} (deviceId : Uuid)

private theorem yields_onStore {Value : Type}
    {inner : Effect Store Status Value}
    {property : Value → Prop} (yields : inner.Yields property) :
    (Server.onStore inner).Yields property :=
  fun server => yields server.store

private theorem createPublicGroupGate_serves (fresh : Uuid)
    (req : CreatePublicGroupRequest) :
    (createPublicGroupGate fresh (some ⟨actor, deviceId⟩) req).Serves
      actor where
  readOnly := by
    refine (readOnly_ofOption _ _).bind fun claims => ?_
    refine (readOnly_check _ _).bind fun _ => ?_
    refine (Server.readOnly_onStore (Authz.readOnly_require _ _)).bind
      fun _ => ?_
    exact readOnly_pure claims
  own := by
    simp only [createPublicGroupGate, authenticate_bind]
    refine Yields.bind fun _ => Yields.bind fun _ => ?_
    exact yields_pure rfl
  classed := rfl

private theorem deleteGroupGate_serves (groupId : Option IdText) :
    (deleteGroupGate (some ⟨actor, deviceId⟩) groupId).Serves actor where
  readOnly := by
    refine Server.readOnly_onStore ?_
    refine (readOnly_ofOption _ _).bind fun claims => ?_
    refine (readOnly_requireGroupId groupId).bind fun id => ?_
    refine ReadOnly.bind ((readOnly_require _ _).mapError _) fun group => ?_
    refine (readOnly_check _ _).bind fun _ => ?_
    refine (Authz.readOnly_require _ _).bind fun _ => ?_
    exact readOnly_pure _
  own := by
    simp only [deleteGroupGate, authenticate_bind]
    refine yields_onStore (Yields.bind fun _ => Yields.bind fun _ => ?_)
    refine Yields.bind fun _ => Yields.bind fun _ => ?_
    exact yields_pure rfl
  classed := rfl

private theorem createCategoryGate_serves (name : String) :
    (createCategoryGate (some ⟨actor, deviceId⟩) name).Serves actor where
  readOnly := by
    refine Server.readOnly_onStore ?_
    refine (readOnly_ofOption _ _).bind fun claims => ?_
    refine (Authz.readOnly_require _ _).bind fun _ => ?_
    exact (readOnly_check _ _).bind fun _ => readOnly_pure _
  own := by
    simp only [createCategoryGate, authenticate_bind]
    refine yields_onStore (Yields.bind fun _ => Yields.bind fun _ => ?_)
    exact yields_pure rfl
  classed := rfl

private theorem deleteCategoryGate_serves (id : IdText) :
    (deleteCategoryGate (some ⟨actor, deviceId⟩) id).Serves actor where
  readOnly := by
    refine Server.readOnly_onStore ?_
    refine (readOnly_ofOption _ _).bind fun claims => ?_
    refine (Authz.readOnly_require _ _).bind fun _ => ?_
    exact (readOnly_ofOption _ _).bind fun _ => readOnly_pure _
  own := by
    simp only [deleteCategoryGate, authenticate_bind]
    refine yields_onStore (Yields.bind fun _ => Yields.bind fun _ => ?_)
    exact yields_pure rfl
  classed := rfl

private theorem updateTavernGate_serves :
    (updateTavernGate (some ⟨actor, deviceId⟩)).Serves actor where
  readOnly := by
    refine Server.readOnly_onStore ?_
    refine (readOnly_ofOption _ _).bind fun claims => ?_
    exact (Authz.readOnly_require _ _).bind fun _ => readOnly_pure _
  own := by
    simp only [updateTavernGate, authenticate_bind]
    exact yields_onStore (Yields.bind fun _ => yields_pure rfl)
  classed := rfl

private theorem kickMemberGate_serves (req : KickMemberRequest) :
    (kickMemberGate (some ⟨actor, deviceId⟩) req).Serves actor where
  readOnly := by
    refine Server.readOnly_onStore ?_
    refine (readOnly_ofOption _ _).bind fun claims => ?_
    refine (readOnly_requireGroupId req.groupId).bind fun groupId => ?_
    refine (readOnly_requireUserId req.userId).bind fun target => ?_
    split
    · exact readOnly_pure _
    · refine (Authz.readOnly_require _ _).bind fun _ => ?_
      exact (readOnly_check _ _).bind fun _ => readOnly_pure _
  own := by
    simp only [kickMemberGate, authenticate_bind]
    refine yields_onStore (Yields.bind fun _ => Yields.bind fun target => ?_)
    split
    · exact yields_pure rfl
    · refine Yields.bind fun _ => Yields.bind fun _ => ?_
      exact yields_pure rfl
  classed := rfl

private theorem banMemberGate_serves (req : BanMemberRequest) :
    (banMemberGate (some ⟨actor, deviceId⟩) req).Serves actor where
  readOnly := by
    refine Server.readOnly_onStore ?_
    refine (readOnly_ofOption _ _).bind fun claims => ?_
    refine (readOnly_requireUserId req.userId).bind fun target => ?_
    refine (Authz.readOnly_require _ _).bind fun _ => ?_
    refine (readOnly_check _ _).bind fun _ => ?_
    exact (readOnly_check _ _).bind fun _ => readOnly_pure _
  own := by
    simp only [banMemberGate, authenticate_bind]
    refine yields_onStore (Yields.bind fun _ => Yields.bind fun _ => ?_)
    refine Yields.bind fun _ => Yields.bind fun _ => ?_
    exact yields_pure rfl
  classed := rfl

private theorem removeListedGate_serves (groupId : Uuid) (member : IdText) :
    (removeListedGate actor groupId member).Serves actor where
  readOnly := by
    refine Server.readOnly_onStore ?_
    refine (readOnly_ofOption _ _).bind fun userId => ?_
    split
    · exact readOnly_pure _
    · exact (Authz.readOnly_require _ _).bind fun _ => readOnly_pure _
  own := fun _ _ _ => rfl
  classed := rfl

end GroupSvc

/-! A removal of several members asks once for each of them. -/

namespace Moderated

variable (assess : String → List String → Option String)
  {actor : Uuid} {moderated : Moderated}

private theorem prepared_removeListed {groupId : Uuid} {member : IdText}
    {now : ℕ}
    (ordinary : moderated.server.store.isOwner actor = false)
    (prepared : Prepared actor now moderated) :
    ((GroupSvc.removeListedGate actor groupId member).runAt assess now).Post
      moderated fun _ after => Prepared actor now after ∧
        after.server.store.isOwner actor = false := by
  constructor
  · have serves : (GroupSvc.removeListedGate actor groupId member).Serves
        actor := GroupSvc.removeListedGate_serves groupId member
    exact Gate.prepared_runAt assess serves.readOnly serves.own rfl ordinary
      prepared
  · obtain ⟨decision, mirrors⟩ := Gate.runAt_mirrors assess
      (GroupSvc.removeListedGate actor groupId member) now moderated
    rw [Gate.Mirrors, GroupSvc.removeListedGate_run] at mirrors
    have enrolled : moderated.server.store.Enrolled
        (GroupSvc.removeListed decision actor groupId member
          moderated.server.store).2 :=
      (GroupSvc.removeListed_follows (fun _ => decision) _ actor
        groupId).kept (member, 0) _ (.refl _)
    have after := congrArg (fun pair => pair.2.store) mirrors
    rw [← show _ = _ from after]
    change (GroupSvc.removeListed decision actor groupId member
      moderated.server.store).2.isOwner actor = false
    rw [enrolled]
    exact ordinary

/-- By induction on the members still to come. -/
private theorem tallied_removeListed {stamps : ℕ → ℕ}
    (monotone : Monotone stamps)
    (groupId : Uuid) (members : List IdText) (index : ℕ)
    (ordinary : moderated.server.store.isOwner actor = false)
    (prepared : Prepared actor (stamps index) moderated) :
    (Effect.forEach
      (fun entry : IdText × ℕ =>
        (GroupSvc.removeListedGate actor groupId entry.1).runAt assess
          (stamps entry.2))
      (members.zipIdx index)).Post moderated fun _ after =>
        Tallied actor after := by
  induction members generalizing index moderated with
  | nil => exact prepared.tallied
  | cons member rest induction =>
      rw [List.zipIdx_cons]
      refine Effect.post_bind
        (prepared_removeListed assess ordinary prepared)
        (fun _ _ kept => kept.1.tallied) ?_
      rintro _ after ⟨kept, still⟩
      refine induction (index + 1) still ⟨kept.tallied, ?_⟩
      exact kept.inOrder.mono (monotone (Nat.le_succ index))

private theorem tallied_removeMembers {stamps : ℕ → ℕ}
    (monotone : Monotone stamps)
    (deviceId : Uuid) (req : GroupSvc.RemoveMembersRequest)
    (ordinary : moderated.server.store.isOwner actor = false)
    (prepared : Prepared actor (stamps 0) moderated) :
    Tallied actor (removeMembersAt assess stamps (some ⟨actor, deviceId⟩) req
      moderated).2 := by
  have looking : (Moderated.requireGroupId req.groupId).ReadOnly := by
    intro start
    have same := Server.readOnly_onStore
      (GroupSvc.readOnly_requireGroupId req.groupId) start.server
    change { start with server := _ } = start
    rw [same]
  have walked : Effect.Post
      (removeMembersAt assess stamps (some ⟨actor, deviceId⟩) req) moderated
      fun _ after => Tallied actor after := by
    unfold removeMembersAt
    rw [authenticate_bind]
    refine looking.post_bind (fun _ _ => prepared.tallied) ?_
    intro groupId _
    exact tallied_removeListed assess monotone groupId _ 0 ordinary prepared
  exact walked

end Moderated

namespace ModeratedEvent

open Effect

variable (assess : String → List String → Option String) {actor : Uuid}
  {moderated : Moderated} {event : ModeratedEvent}

private theorem tallied_gated {Ticket Result : Type} {gate : Gate Ticket Result}
    (serves : gate.Serves actor) (admissible : event.Admissible actor moderated)
    (tallied : Tallied actor moderated) :
    Tallied actor (event.gated assess gate moderated) :=
  (Gate.prepared_runAt assess serves.readOnly serves.own serves.classed
    admissible.ordinary ⟨tallied, admissible.inOrder⟩).tallied

section RunRole

variable {call : RoleCall} {claims : Claims} (now : ℕ)

/-- The handler runs on the store, and a mutation that went through is
recorded. -/
private theorem runRole_eq (call : RoleCall) (claims : Claims)
    (moderated : Moderated) :
    ∃ after, moderated.SameTally after ∧
      runRole now claims call moderated =
        match (call.run (some claims) moderated.server.store).1 with
        | .error status => (.error status, after)
        | .ok _ =>
            match call.action with
            | some action => record ⟨now, claims.sub, action⟩ after
            | none => (.ok (), after) := by
  unfold runRole
  rcases entered : Moderated.onServer
    (Server.onStore (call.run (some claims))) moderated with ⟨result, after⟩
  have same : moderated.SameTally after := by
    rw [← show _ = after from congrArg Prod.snd entered]
    exact onServer_sameTally _ moderated
  have ran : (call.run (some claims) moderated.server.store).1 = result :=
    congrArg Prod.fst entered
  refine ⟨after, same, ?_⟩
  rw [ran]
  cases result with
  | error status => exact bind_of_error entered _
  | ok _ =>
      rw [bind_of_ok entered]
      cases call.action with
      | none => rfl
      | some action => rfl

private theorem runRole_sameTally
    (spared : ∀ action, call.action = some action →
      ¬(call.run (some claims)).Succeeds moderated.server.store) :
    moderated.SameTally (runRole now claims call moderated).2 := by
  obtain ⟨after, same, ran⟩ := runRole_eq now call claims moderated
  rw [ran]
  cases outcome : (call.run (some claims) moderated.server.store).1 with
  | error status => exact same
  | ok _ =>
      cases known : call.action with
      | none => exact same
      | some action => exact absurd ⟨(), outcome⟩ (spared action known)

private theorem runRole_done {action : ActionClass}
    (known : call.action = some action)
    (passed : (call.run (some claims)).Succeeds moderated.server.store) :
    (runRole now claims call moderated).2.taken = moderated.taken ∧
      (runRole now claims call moderated).2.done =
        moderated.done ++ [⟨now, claims.sub, action⟩] := by
  obtain ⟨after, same, ran⟩ := runRole_eq now call claims moderated
  rw [ran, succeeds_unit_iff.mp passed, known, same]
  exact ⟨rfl, rfl⟩

end RunRole

private theorem step_role (deviceId : Uuid) (stamps : ℕ → ℕ) (call : RoleCall) :
    step assess actor moderated ⟨deviceId, stamps, .role call⟩ =
      (runRole (stamps 0) ⟨actor, deviceId⟩ call moderated).2 := by
  simp only [step]

private theorem step_tallied (tallied : Tallied actor moderated)
    (admissible : event.Admissible actor moderated)
    (spares : event.SparesRoles actor moderated) :
    Tallied actor (step assess actor moderated event) := by
  obtain ⟨deviceId, stamps, call⟩ := event
  cases call with
  | createPublicGroup fresh req =>
      exact tallied_gated assess
        (GroupSvc.createPublicGroupGate_serves deviceId fresh req) admissible
        tallied
  | deleteGroup groupId =>
      exact tallied_gated assess
        (GroupSvc.deleteGroupGate_serves deviceId groupId) admissible tallied
  | createCategory name =>
      exact tallied_gated assess
        (GroupSvc.createCategoryGate_serves deviceId name) admissible tallied
  | deleteCategory id =>
      exact tallied_gated assess
        (GroupSvc.deleteCategoryGate_serves deviceId id) admissible tallied
  | updateTavern =>
      exact tallied_gated assess (GroupSvc.updateTavernGate_serves deviceId)
        admissible tallied
  | removeMembers req =>
      exact tallied_removeMembers assess admissible.monotone deviceId req
        admissible.ordinary ⟨tallied, admissible.inOrder⟩
  | kickMember req =>
      exact tallied_gated assess
        (GroupSvc.kickMemberGate_serves deviceId req) admissible tallied
  | banMember req =>
      exact tallied_gated assess
        (GroupSvc.banMemberGate_serves deviceId req) admissible tallied
  | role call =>
      have spared : ∀ action, call.action = some action →
          ¬(call.run (some ⟨actor, deviceId⟩)).Succeeds
            moderated.server.store := by
        intro action known passed
        have admitted : call.Admitted moderated.server.store actor :=
          (RoleCall.run_succeeds_iff ⟨actor, deviceId⟩ known).mp passed
        exact spares call action rfl known admitted
      rw [step_role]
      exact tallied.of_same (runRole_sameTally (stamps 0) spared)
  | elsewhere change => exact tallied.of_same rfl

private theorem step_not_limited (tallied : Tallied actor moderated)
    (mutates : ¬event.SparesRoles actor moderated) :
    ¬Limited actor (step assess actor moderated event) := by
  obtain ⟨deviceId, stamps, eventCall⟩ := event
  simp only [SparesRoles, not_forall, not_not] at mutates
  obtain ⟨call, action, rfl, known, admitted⟩ := mutates
  have classed : action.isRole = true := by
    cases call <;> cases known <;> rfl
  have passed : (call.run (some ⟨actor, deviceId⟩)).Succeeds
      moderated.server.store :=
    (RoleCall.run_succeeds_iff ⟨actor, deviceId⟩ known).mpr admitted
  obtain ⟨taken, done⟩ := runRole_done (stamps 0) known passed
  rw [step_role]
  intro limited
  have covered := limited.covered action
  rw [taken, done, tallied.roleless action classed, timesOf_append,
    if_pos ⟨rfl, rfl⟩] at covered
  simpa using covered.length_le

theorem always_limited_iff (server : Server) (blockOwner : Bool)
    (events : List ModeratedEvent)
    (admissible : EventRun.Each (step assess actor) (Admissible actor)
      { server, guardrails := { blockOwner } } events) :
    EventRun.Always (step assess actor) (Limited actor)
        { server, guardrails := { blockOwner } } events ↔
      EventRun.Each (step assess actor) (SparesRoles actor)
        { server, guardrails := { blockOwner } } events := by
  have initially : Tallied actor { server, guardrails := { blockOwner } } :=
    ⟨fun _ => rfl, fun _ => List.Sublist.refl _, fun _ _ => rfl⟩
  have kept : ∀ state event, Tallied actor state →
      Admissible actor state event → SparesRoles actor state event →
      Tallied actor (step assess actor state event) :=
    fun _ _ tallied among spares => step_tallied assess tallied among spares
  have broken : ∀ state event, Tallied actor state →
      Admissible actor state event → ¬SparesRoles actor state event →
      ¬Limited actor (step assess actor state event) :=
    fun _ _ tallied _ mutates => step_not_limited assess tallied mutates
  exact EventRun.always_iff_each_among (fun _ => Tallied.limited) kept broken
    initially admissible

end ModeratedEvent

def moderators : Server where
  store := {
    users := [
      ⟨1, "root", "Root", "", true, false, none, ""⟩,
      ⟨2, "mod", "Mod", "", false, false, none, ""⟩]
    roles := [⟨10, "@everyone",
      Permissions.manageRoles.bits ||| Permissions.kickMembers.bits, 0, true,
      "", "", false, false⟩] }

def atOnce (call : ModeratedCall) : ModeratedEvent :=
  ⟨20, fun _ => 0, call⟩

private theorem atOnce_admissible {moderated : Moderated}
    (ordinary : moderated.server.store.isOwner 2 = false)
    (unused : moderated.guardrails = {}) (call : ModeratedCall) :
    (atOnce call).Admissible 2 moderated where
  ordinary := ordinary
  inOrder := by
    rw [unused]
    intro action bucket known
    cases known
  monotone := monotone_const

def makeRole (fresh : Uuid) : ModeratedEvent :=
  atOnce (.role (.createRole fresh
    { name := "Knight", permissions := "" }))

def sixRoles : List ModeratedEvent := [30, 31, 32, 33, 34, 35].map makeRole

/-- Six roles in one instant, when a full bucket holds five. -/
theorem six_roles_unlimited :
    EventRun.Each (ModeratedEvent.step (fun _ _ => none) 2)
        (ModeratedEvent.Admissible 2) { server := moderators } sixRoles ∧
      ¬EventRun.Always (ModeratedEvent.step (fun _ _ => none) 2)
        (Moderated.Limited 2) { server := moderators } sixRoles := by
  constructor
  · refine ⟨?_, ?_, ?_, ?_, ?_, ?_, trivial⟩ <;>
      exact atOnce_admissible (by decide +kernel) rfl _
  · intro always
    have within := always.last.within .createRole 0 0
    have times : timesOf (EventRun.run
        (ModeratedEvent.step (fun _ _ => none) 2) { server := moderators }
        sixRoles).done 2 .createRole = [0, 0, 0, 0, 0, 0] := by
      decide +kernel
    rw [times] at within
    norm_num [RateLimit.during, ActionClass.budget] at within

/-- A removal is held to the bucket. -/
theorem removal_limited :
    EventRun.Always (ModeratedEvent.step (fun _ _ => none) 2)
      (Moderated.Limited 2) { server := moderators }
      [atOnce (.removeMembers ⟨some (.uuid 40), [.uuid 1]⟩)] := by
  refine (ModeratedEvent.always_limited_iff (fun _ _ => none) moderators false
    [atOnce (.removeMembers ⟨some (.uuid 40), [.uuid 1]⟩)]
    ⟨atOnce_admissible (by decide) rfl _, trivial⟩).mpr ⟨?_, trivial⟩
  intro call action called
  cases called

end Accord
