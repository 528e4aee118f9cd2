import Accord.Server.Groups.Enrolment
import Accord.Server.Messaging.Service

/-! What a refused group call leaves behind.  No call runs in a transaction, so
an error keeps what was written before it. -/

namespace Accord

namespace Store

/-- The groups, the memberships and the inboxes are the same. -/
structure SameGroups (before after : Store) : Prop where
  groups : after.groups = before.groups
  members : after.groupMembers = before.groupMembers
  inbox : after.inbox = before.inbox

theorem SameGroups.refl (store : Store) : store.SameGroups store :=
  ⟨rfl, rfl, rfl⟩

private theorem Enrolled.sameGroups {start store : Store}
    (enrolled : start.Enrolled store)
    (members : store.groupMembers = start.groupMembers) :
    start.SameGroups store := by
  refine ⟨?_, members, ?_⟩
  · rw [enrolled]
  · rw [enrolled]

end Store

inductive GroupRpc where
  | createPrivateGroup (bus : Bus) (req : GroupSvc.CreatePrivateGroupRequest)
  | addMembers (req : GroupSvc.AddMembersRequest)
  | removeMembers (decisions : ℕ → GuardrailDecision)
      (req : GroupSvc.RemoveMembersRequest)

namespace GroupRpc

open Server

def run (token : Option Claims) : GroupRpc → Effect Server Status Unit
  | .createPrivateGroup bus req => do
      let _ ← GroupSvc.createPrivateGroup bus token req
  | .addMembers req => onStore (GroupSvc.addMembers token req)
  | .removeMembers decisions req =>
      onStore (GroupSvc.removeMembers decisions token req)

def Atomic (rpc : GroupRpc) (token : Option Claims) (server : Server) :
    Prop :=
  ∀ status, (rpc.run token server).1 = .error status →
    server.store.SameGroups (rpc.run token server).2.store

end GroupRpc

namespace GroupSvc

open Server Effect

/-! Creating a private group writes its row first. -/

/-- The user may be enrolled in a group that exists. -/
def knows (store : Store) (userId : Uuid) : Bool :=
  store.referencesHold (store.hasUser userId)

def relays (bus : Bus) (store : Store) (groupId : Uuid)
    (target : WelcomeTarget) : Bool :=
  match target.deviceId.bind IdText.parse with
  | some device =>
      store.referencesHold (store.hasDevice device) &&
        (bus (.welcome device groupId target.welcome)).isOk
  | none => false

/-- Nothing on the way of the call fails once the group has its row. -/
structure Adoptable (bus : Bus) (store : Store) (creator groupId : Uuid)
    (req : CreatePrivateGroupRequest) : Prop where
  creator : knows store creator = true
  members : ∀ member ∈ req.memberIds,
    ∃ userId, member.parse = some userId ∧ knows store userId = true
  welcomes : ∀ target ∈ req.welcomes, relays bus store groupId target = true

def adopted (store : Store) (groupId : Uuid) (name : String) : Store :=
  { store with
    groups := store.groups ++ [{
      id := groupId, name, description := "", kind := .priv
      channelKind := .text, categoryId := "", position := 0 }] }

private theorem createPrivateGroupWithId_of_absent {store : Store}
    {groupId : Uuid}
    (absent : store.hasGroup groupId = false) (name : String) :
    orStatus (Store.createPrivateGroupWithId groupId name) store =
      (.ok (), adopted store groupId name) := by
  apply orStatus_of_ok
  simp only [Store.createPrivateGroupWithId, check_bind, absent]
  rfl

private theorem createPrivateGroupWithId_of_present {store : Store}
    {groupId : Uuid}
    (present : store.hasGroup groupId = true) (name : String) :
    orStatus (Store.createPrivateGroupWithId groupId name) store =
      (.error (ServerError.alreadyExists ("group " ++ groupId.text) : Status),
        store) := by
  apply orStatus_of_error
  simp only [Store.createPrivateGroupWithId, check_bind, present]
  rfl

private theorem enrollable_adopted (store : Store) (groupId userId : Uuid)
    (name : String) :
    (adopted store groupId name).enrollable groupId userId =
      knows store userId := by
  have present : (adopted store groupId name).hasGroup groupId = true := by
    simp [Store.hasGroup, adopted]
  rw [Store.enrollable, present, Bool.true_and]
  rfl

private theorem enqueueInbox_passes (device groupId : Uuid) (kind : InboxKind)
    (payload : Bytes) (server : Server) :
    (onStore (orStatus (Store.enqueueInbox device kind groupId payload))
        server).1 = .ok () ↔
      server.store.referencesHold (server.store.hasDevice device) = true := by
  have ran := check_bind
    (fun store : Store => store.referencesHold (store.hasDevice device))
    Store.violation (fun _ => update fun store : Store => { store with
      inbox := store.inbox ++ [⟨device, kind, groupId, payload⟩] })
    server.store
  change (Store.enqueueInbox device kind groupId payload server.store) = _
    at ran
  simp only [onStore, zoom, orStatus, mapError, ran]
  cases server.store.referencesHold (server.store.hasDevice device) with
  | false => simp [Except.mapError]
  | true => simp [Except.mapError, update]

private theorem publish_passes (bus : Bus) (event : BusEvent)
    (server : Server) :
    (publish bus event server).1 = .ok () ↔ (bus event).isOk = true := by
  simp only [publish, orStatus, mapError, Effect.ofExcept]
  cases bus event <;> simp [Except.mapError, Except.isOk, Except.toBool]

private theorem requireDevice_of_parsed {target : WelcomeTarget} {device : Uuid}
    (parsed : target.deviceId.bind IdText.parse = some device)
    (server : Server) :
    MlsRelaySvc.requireDevice target server = (.ok device, server) := by
  rcases target with ⟨deviceId, welcome⟩
  rcases deviceId with _ | (id | _)
  · cases parsed
  · cases parsed
    rfl
  · cases parsed

private theorem requireDevice_of_none {target : WelcomeTarget}
    (unparsed : target.deviceId.bind IdText.parse = none)
    (server : Server) : ∃ status,
      MlsRelaySvc.requireDevice target server = (.error status, server) := by
  rcases target with ⟨deviceId, welcome⟩
  rcases deviceId with _ | (id | _)
  · exact ⟨_, rfl⟩
  · cases unparsed
  · exact ⟨_, rfl⟩

private theorem relayWelcome_follows (bus : Bus) (start : Store)
    (groupId : Uuid) :
    Follows (OnStore start.Mailed) (fun _ => ()) (relays bus start groupId)
      (fun view _ => view) (MlsRelaySvc.relayWelcome bus groupId) where
  kept target := MlsRelaySvc.keeps_relayWelcome
    Store.keeps_mailed_enqueueInbox bus groupId target
  passes target server mailed := by
    unfold relays MlsRelaySvc.relayWelcome
    cases parsed : target.deviceId.bind IdText.parse with
    | none =>
        obtain ⟨status, refused⟩ := requireDevice_of_none parsed server
        rw [bind_of_error refused]
        simp
    | some device =>
        have references : server.store.referencesHold
            (server.store.hasDevice device) =
              start.referencesHold (start.hasDevice device) := by
          rw [show server.store = _ from mailed]
          rfl
        have queued := enqueueInbox_passes device groupId .welcome
          target.welcome server
        rw [references] at queued
        rw [bind_of_ok (requireDevice_of_parsed parsed server),
          ← succeeds_unit_iff]
        simp only [succeeds_bind_unit, publish_passes, queued,
          Bool.and_eq_true]
        exact and_congr_right fun _ =>
          and_iff_left (succeeds_unit_iff.mpr rfl)
  moves _ _ _ := rfl

private theorem enrols_adopted (store : Store) (groupId : Uuid) (name : String)
    (member : IdText) :
    enrols (adopted store groupId name) groupId member = true ↔
      ∃ userId, member.parse = some userId ∧ knows store userId = true := by
  unfold enrols
  cases member.parse with
  | none => simp
  | some userId => simp [enrollable_adopted]

private theorem adoptGroup_passes {store : Store} {groupId : Uuid}
    (absent : store.hasGroup groupId = false) (creator : Uuid)
    (name : String) (memberIds : List IdText) :
    (adoptGroup creator groupId name memberIds store).1 = .ok () ↔
      knows store creator = true ∧ ∀ member ∈ memberIds,
        ∃ userId, member.parse = some userId ∧
          knows store userId = true := by
  have created := createPrivateGroupWithId_of_absent absent
    (privateGroupName name)
  have enrolled := ((Store.keeps_enrolled_addMember groupId creator
    "owner").mapError ServerError.toStatus) _
    (Store.Enrolled.refl (adopted store groupId (privateGroupName name)))
  obtain ⟨listed, -⟩ := (enrol_follows _ groupId).forEach memberIds enrolled
  simp only [enrols_adopted] at listed
  rw [← succeeds_unit_iff, adoptGroup, succeeds_bind_of_ok created,
    succeeds_bind_unit, succeeds_unit_iff, Store.addMember_passes,
    enrollable_adopted]
  exact and_congr_right fun _ => listed

/-- The references a Welcome needs are those it needed before. -/
def SameDevices (start store : Store) : Prop :=
  store.devices = start.devices ∧ store.foreignKeys = start.foreignKeys

private theorem keeps_sameDevices_adoptGroup {start : Store}
    (creator groupId : Uuid)
    (name : String) (memberIds : List IdText) :
    (adoptGroup creator groupId name memberIds).Keeps
      (SameDevices start) := by
  apply keeps_adoptGroup
  · refine (readOnly_check _ _).keeps.bind fun _ => ?_
    exact keeps_update fun _ same => same
  · intro userId role
    refine (readOnly_check _ _).keeps.bind fun _ => ?_
    apply keeps_update
    intro store same
    split
    · exact same
    · exact same

private theorem relays_sameDevices {start store : Store}
    (same : SameDevices start store) (bus : Bus) (groupId : Uuid)
    (target : WelcomeTarget) :
    relays bus store groupId target = relays bus start groupId target := by
  unfold relays Store.referencesHold Store.hasDevice
  rw [same.1, same.2]

/-- Once the group is known to be new, the call succeeds exactly when nothing
on its way fails. -/
private theorem createPrivateGroup_succeeds (bus : Bus) (claims : Claims)
    {req : CreatePrivateGroupRequest} {server : Server} {groupId : Uuid}
    (parsed : req.groupId.bind IdText.parse = some groupId)
    (absent : server.store.hasGroup groupId = false) :
    (createPrivateGroup bus (some claims) req).Succeeds server ↔
      Adoptable bus server.store claims.sub groupId req := by
  have same := keeps_sameDevices_adoptGroup claims.sub groupId req.name
    req.memberIds server.store
    (⟨rfl, rfl⟩ : SameDevices server.store server.store)
  obtain ⟨relayed, -⟩ := (relayWelcome_follows bus
    (onStore (adoptGroup claims.sub groupId req.name req.memberIds)
      server).2.store groupId).forEach req.welcomes (Store.Mailed.refl _)
  simp only [onStore_store, relays_sameDevices same] at relayed
  rw [createPrivateGroup, succeeds_bind_of_ok (authenticate_some claims _),
    succeeds_bind_of_ok (onStore_of_ok (requireGroupId_of_parsed parsed)),
    succeeds_bind_unit, succeeds_bind_unit, relayed, onStore_result,
    adoptGroup_passes absent]
  constructor
  · rintro ⟨⟨creator, members⟩, welcomes, _⟩
    exact ⟨creator, members, welcomes⟩
  · intro adoptable
    exact ⟨⟨adoptable.creator, adoptable.members⟩, adoptable.welcomes,
      _, rfl⟩

private theorem keeps_hasGroup_addMember {groupId : Uuid} (group userId : Uuid)
    (role : String) :
    (Store.addMember group userId role).Keeps
      (·.hasGroup groupId = true) := by
  refine (readOnly_check _ _).keeps.bind fun _ => ?_
  apply keeps_update
  intro store present
  split
  · exact present
  · exact present

private theorem keeps_hasGroup_enqueueInbox {groupId : Uuid} (device : Uuid)
    (kind : InboxKind) (group : Uuid) (payload : Bytes) :
    (Store.enqueueInbox device kind group payload).Keeps
      (·.hasGroup groupId = true) :=
  (readOnly_check _ _).keeps.bind fun _ => keeps_update fun _ present => present

private theorem adoptGroup_hasGroup (creator groupId : Uuid) (name : String)
    (memberIds : List IdText) (store : Store) :
    (adoptGroup creator groupId name memberIds store).2.hasGroup groupId =
      true := by
  cases present : store.hasGroup groupId with
  | true =>
      rw [adoptGroup, bind_of_error
        (createPrivateGroupWithId_of_present present _)]
      exact present
  | false =>
      have made : (adopted store groupId (privateGroupName name)).hasGroup
          groupId = true := by
        simp [Store.hasGroup, adopted]
      rw [adoptGroup, bind_of_ok
        (createPrivateGroupWithId_of_absent present _)]
      refine ((keeps_hasGroup_addMember _ _ _).mapError _).bind
        (fun _ => ?_) _ made
      apply keeps_forEach
      intro member
      refine (readOnly_ofOption _ _).keeps.bind fun userId => ?_
      exact (keeps_hasGroup_addMember _ _ _).mapError _

private theorem createPrivateGroup_hasGroup (bus : Bus) (claims : Claims)
    {req : CreatePrivateGroupRequest} {groupId : Uuid}
    (parsed : req.groupId.bind IdText.parse = some groupId)
    (server : Server) :
    (createPrivateGroup bus (some claims) req server).2.store.hasGroup
      groupId = true := by
  have made := adoptGroup_hasGroup claims.sub groupId req.name req.memberIds
    server.store
  have adopts : (onStore (adoptGroup claims.sub groupId req.name
      req.memberIds)).Post server
        fun _ after => OnStore (·.hasGroup groupId = true) after := made
  rw [createPrivateGroup, bind_of_ok (authenticate_some claims _),
    bind_of_ok (onStore_of_ok (requireGroupId_of_parsed parsed))]
  change Effect.Post _ server fun _ after =>
    OnStore (·.hasGroup groupId = true) after
  refine post_bind adopts (fun _ _ holds => holds) fun _ after holds => ?_
  refine ((keeps_forEach (MlsRelaySvc.keeps_relayWelcome
    keeps_hasGroup_enqueueInbox bus groupId) req.welcomes).bind
      fun _ => ?_) after holds
  refine (keeps_subscribe claims.deviceId groupId).bind fun _ => ?_
  exact (readOnly_pure _).keeps

end GroupSvc

namespace GroupRpc

open Server Effect GroupSvc

/-- A group id that is new stays so unless the call succeeds; in the loops,
what comes before the first refused entry has nothing to do. -/
def Sound (token : Option Claims) (store : Store) : GroupRpc → Prop
  | .createPrivateGroup bus req => ∀ claims groupId, token = some claims →
      req.groupId.bind IdText.parse = some groupId →
        store.hasGroup groupId = false →
          Adoptable bus store claims.sub groupId req
  | .addMembers req => ∀ claims groupId, token = some claims →
      store.isUserGuest claims.sub = false →
        req.groupId.bind IdText.parse = some groupId →
          store.kindOf groupId = some .pub →
            (∀ member ∈ req.memberIds, adds store groupId member = true) ∨
            ∀ userId ∈ named (req.memberIds.takeWhile (adds store groupId)),
              store.isMember groupId userId = true
  | .removeMembers decisions req => ∀ claims groupId, token = some claims →
      req.groupId.bind IdText.parse = some groupId →
        (∀ entry ∈ req.memberIds.zipIdx,
          removes decisions store claims.sub entry = true) ∨
        ∀ userId ∈ named ((req.memberIds.zipIdx.takeWhile
            (removes decisions store claims.sub)).map (·.1)),
          store.isMember groupId userId = false

variable {token : Option Claims} {server : Server}

private theorem atomic_of_store_eq {rpc : GroupRpc}
    (same : (rpc.run token server).2.store = server.store) :
    rpc.Atomic token server := by
  intro status _
  rw [same]
  exact Store.SameGroups.refl _

private theorem run_createPrivateGroup_store (bus : Bus)
    (req : CreatePrivateGroupRequest) :
    ((createPrivateGroup bus req).run token server).2 =
      (GroupSvc.createPrivateGroup bus token req server).2 := by
  rw [run]
  rcases ran : GroupSvc.createPrivateGroup bus token req server with
    ⟨result, after⟩
  cases result with
  | ok _ => rw [bind_of_ok ran]; rfl
  | error _ => rw [bind_of_error ran]

private theorem run_createPrivateGroup_error {bus : Bus}
    {req : CreatePrivateGroupRequest} {status : Status} :
    ((createPrivateGroup bus req).run token server).1 = .error status ↔
      (GroupSvc.createPrivateGroup bus token req server).1 =
        .error status := by
  rw [run]
  rcases ran : GroupSvc.createPrivateGroup bus token req server with
    ⟨result, after⟩
  cases result with
  | ok _ => simp [bind_of_ok ran, pure, Effect.pure]
  | error _ => simp [bind_of_error ran]

theorem createPrivateGroup_refused {bus : Bus}
    {req : CreatePrivateGroupRequest}
    (refused : ∀ claims groupId, token = some claims →
      req.groupId.bind IdText.parse = some groupId →
        server.store.hasGroup groupId = true) :
    ((createPrivateGroup bus req).run token server).2.store =
      server.store := by
  rw [run_createPrivateGroup_store]
  cases token with
  | none => rfl
  | some claims =>
      rw [GroupSvc.createPrivateGroup,
        bind_of_ok (authenticate_some claims server)]
      cases parsed : req.groupId.bind IdText.parse with
      | none =>
          obtain ⟨status, failed⟩ := requireGroupId_of_none server.store parsed
          rw [bind_of_error (onStore_of_error failed)]
      | some groupId =>
          have present := refused claims groupId rfl parsed
          have failed : adoptGroup claims.sub groupId req.name req.memberIds
              server.store = (.error (ServerError.alreadyExists
                ("group " ++ groupId.text) : Status), server.store) := by
            rw [adoptGroup, bind_of_error
              (createPrivateGroupWithId_of_present present _)]
          rw [bind_of_ok (onStore_of_ok (requireGroupId_of_parsed parsed)),
            bind_of_error (onStore_of_error failed)]

private theorem createPrivateGroup_atomic_iff (bus : Bus)
    (req : CreatePrivateGroupRequest) :
    (createPrivateGroup bus req).Atomic token server ↔
      (createPrivateGroup bus req).Sound token server.store := by
  constructor
  · intro atomic claims groupId sent parsed absent
    subst sent
    rw [← createPrivateGroup_succeeds bus claims parsed absent]
    rcases ran : (GroupSvc.createPrivateGroup bus (some claims) req server).1
      with status | id
    · have same := atomic status (run_createPrivateGroup_error.mpr ran)
      have present := createPrivateGroup_hasGroup bus claims parsed server
      rw [← run_createPrivateGroup_store, Store.hasGroup, same.groups]
        at present
      exact absurd (absent.symm.trans present) (by decide)
    · exact ⟨id, ran⟩
  · intro sound
    by_cases refused : ∀ claims groupId, token = some claims →
        req.groupId.bind IdText.parse = some groupId →
          server.store.hasGroup groupId = true
    · exact atomic_of_store_eq (createPrivateGroup_refused refused)
    · simp only [not_forall, Bool.not_eq_true] at refused
      obtain ⟨claims, groupId, rfl, parsed, absent⟩ := refused
      obtain ⟨id, ran⟩ := (createPrivateGroup_succeeds bus claims parsed
        absent).mpr (sound claims groupId rfl parsed absent)
      intro status failed
      rw [run_createPrivateGroup_error, ran] at failed
      cases failed

/-! The loops. -/

/-- A loop over memberships is atomic exactly when it goes through, or has
done nothing where it stops. -/
private theorem loop_atomic_iff {Entry : Type} {accepted : Entry → Bool}
    {act : List GroupMemberRow → Entry → List GroupMemberRow}
    {body : Entry → Effect Store Status Unit} {store : Store}
    (follows : Follows store.Enrolled (·.groupMembers) accepted act body)
    (entries : List Entry) :
    (∀ status, (forEach body entries store).1 = .error status →
        store.SameGroups (forEach body entries store).2) ↔
      (∀ entry ∈ entries, accepted entry = true) ∨
        (entries.takeWhile accepted).foldl act store.groupMembers =
          store.groupMembers := by
  have enrolled := (keeps_forEach follows.kept entries) store
    (Store.Enrolled.refl store)
  obtain ⟨passes, moves⟩ := follows.forEach entries
    (Store.Enrolled.refl store)
  rw [← passes, ← moves]
  constructor
  · intro atomic
    rcases ran : (forEach body entries store).1 with status | _
    · exact Or.inr (atomic status ran).members
    · exact Or.inl rfl
  · rintro (passed | same) status failed
    · rw [passed] at failed
      cases failed
    · exact enrolled.sameGroups same

private theorem members_eq_iff {members : List IdText} {groupId : Uuid}
    {store : Store} :
    members.foldl (onNamed (Store.enlist groupId "member"))
        store.groupMembers = store.groupMembers ↔
      ∀ userId ∈ named members, store.isMember groupId userId = true := by
  rw [foldl_onNamed]
  exact Store.foldl_enlist_eq_iff _ _ _ _

private theorem outsiders_eq_iff {entries : List (IdText × ℕ)} {groupId : Uuid}
    {store : Store} :
    entries.foldl
        (fun rows entry => onNamed (Store.strike groupId) rows entry.1)
        store.groupMembers = store.groupMembers ↔
      ∀ userId ∈ named (entries.map (·.1)),
        store.isMember groupId userId = false := by
  have struck := Store.foldl_strike_eq_iff groupId
    (named (entries.map (·.1))) store.groupMembers
  rw [← foldl_onNamed, List.foldl_map] at struck
  exact struck

/-- The call is let through to its loop. -/
structure AddAdmitted (token : Option Claims) (store : Store)
    (req : AddMembersRequest) (claims : Claims) (groupId : Uuid) : Prop where
  sent : token = some claims
  member : store.isUserGuest claims.sub = false
  parsed : req.groupId.bind IdText.parse = some groupId
  known : store.kindOf groupId = some .pub

private theorem addMembers_of_admitted {store : Store} {req : AddMembersRequest}
    {claims : Claims} {groupId : Uuid}
    (admitted : AddAdmitted token store req claims groupId) :
    GroupSvc.addMembers token req store =
      forEach (addMemberById groupId) req.memberIds store := by
  obtain ⟨rfl, member, parsed, known⟩ := admitted
  obtain ⟨group, found, kind⟩ := MessagingSvc.getGroup_of_kind known
  rw [GroupSvc.addMembers, bind_of_ok (authenticate_some claims store),
    check_bind, if_pos (by simp [member]),
    bind_of_ok (requireGroupId_of_parsed parsed),
    bind_of_ok (orStatus_of_ok found), check_bind, if_pos (by simp [kind])]

private theorem addMembers_of_not_admitted {store : Store}
    {req : AddMembersRequest}
    (refused : ∀ claims groupId,
      ¬AddAdmitted token store req claims groupId) :
    (GroupSvc.addMembers token req store).2 = store := by
  cases token with
  | none => rfl
  | some claims =>
      rw [GroupSvc.addMembers, bind_of_ok (authenticate_some claims store),
        check_bind]
      cases guest : store.isUserGuest claims.sub with
      | true => rfl
      | false =>
          rw [if_pos (by decide)]
          cases parsed : req.groupId.bind IdText.parse with
          | none =>
              obtain ⟨status, failed⟩ := requireGroupId_of_none store parsed
              rw [bind_of_error failed]
          | some groupId =>
              rw [bind_of_ok (requireGroupId_of_parsed parsed)]
              cases known : store.kindOf groupId with
              | none =>
                  obtain ⟨status, failed⟩ := MessagingSvc.getGroup_of_none known
                  rw [bind_of_error (orStatus_of_error failed)]
              | some kind =>
                  obtain ⟨group, found, same⟩ :=
                    MessagingSvc.getGroup_of_kind known
                  rw [bind_of_ok (orStatus_of_ok found), check_bind]
                  cases kind with
                  | pub =>
                      exact absurd ⟨rfl, guest, parsed, known⟩
                        (refused claims groupId)
                  | priv =>
                      rw [if_neg (by simp [same])]

private theorem addMembers_atomic_iff (req : AddMembersRequest) :
    (addMembers req).Atomic token server ↔
      (addMembers req).Sound token server.store := by
  change (∀ status, (GroupSvc.addMembers token req server.store).1 =
    .error status → server.store.SameGroups
      (GroupSvc.addMembers token req server.store).2) ↔ _
  by_cases admitted : ∃ claims groupId,
      AddAdmitted token server.store req claims groupId
  · obtain ⟨claims, groupId, admitted⟩ := admitted
    rw [addMembers_of_admitted admitted,
      loop_atomic_iff (addMemberById_follows server.store groupId),
      members_eq_iff]
    constructor
    · intro harmless other group sent _ again _
      cases admitted.sent.symm.trans sent
      obtain rfl : groupId = group :=
        Option.some.inj (admitted.parsed.symm.trans again)
      exact harmless
    · intro sound
      exact sound claims groupId admitted.sent admitted.member
        admitted.parsed admitted.known
  · simp only [not_exists] at admitted
    constructor
    · intro _ claims groupId sent member parsed known
      exact absurd ⟨sent, member, parsed, known⟩ (admitted claims groupId)
    · intro _ status _
      rw [addMembers_of_not_admitted admitted]
      exact Store.SameGroups.refl _

private theorem removeMembers_atomic_iff (decisions : ℕ → GuardrailDecision)
    (req : RemoveMembersRequest) :
    (removeMembers decisions req).Atomic token server ↔
      (removeMembers decisions req).Sound token server.store := by
  change (∀ status, (GroupSvc.removeMembers decisions token req
    server.store).1 = .error status → server.store.SameGroups
      (GroupSvc.removeMembers decisions token req server.store).2) ↔ _
  cases token with
  | none =>
      constructor
      · intro _ claims groupId sent
        cases sent
      · intro _ status _
        exact Store.SameGroups.refl _
  | some claims =>
      rw [GroupSvc.removeMembers,
        bind_of_ok (authenticate_some claims server.store)]
      cases parsed : req.groupId.bind IdText.parse with
      | none =>
          obtain ⟨status, failed⟩ := requireGroupId_of_none server.store parsed
          rw [bind_of_error failed]
          constructor
          · intro _ claims groupId sent again
            rw [parsed] at again
            cases again
          · intro _ status _
            exact Store.SameGroups.refl _
      | some groupId =>
          rw [bind_of_ok (requireGroupId_of_parsed parsed), loop_atomic_iff
            (removeListed_follows decisions server.store claims.sub groupId),
            outsiders_eq_iff]
          constructor
          · intro harmless other group sent again
            cases sent
            obtain rfl : groupId = group :=
              Option.some.inj (parsed.symm.trans again)
            exact harmless
          · intro sound
            exact sound claims groupId rfl parsed

theorem atomic_iff_sound (rpc : GroupRpc) (token : Option Claims)
    (server : Server) :
    rpc.Atomic token server ↔ rpc.Sound token server.store := by
  cases rpc with
  | createPrivateGroup bus req => exact createPrivateGroup_atomic_iff bus req
  | addMembers req => exact addMembers_atomic_iff req
  | removeMembers decisions req => exact removeMembers_atomic_iff decisions req

def pair : Server where
  store := {
    users := [
      ⟨1, "ann", "Ann", "", true, false, none, ""⟩,
      ⟨2, "bob", "Bob", "", false, false, none, ""⟩] }

def chat (memberIds : List IdText) : GroupRpc :=
  .createPrivateGroup (fun _ => .ok ()) {
    groupId := some (.uuid 7), name := "Chat", memberIds, welcomes := [] }

/-- A bad id at the end of the list leaves the group behind, and its id
taken. -/
theorem chat_half_created :
    ¬(chat [.uuid 2, .malformed]).Atomic (some ⟨1, 0⟩) pair ∧
      ∃ status, ((chat [.uuid 2]).run (some ⟨1, 0⟩)
          ((chat [.uuid 2, .malformed]).run (some ⟨1, 0⟩) pair).2).1 =
        .error status ∧ status.code = .alreadyExists := by
  refine ⟨?_, _, rfl, rfl⟩
  intro atomic
  have same := (atomic _ rfl).groups
  exact absurd same (by decide)

end GroupRpc

end Accord
