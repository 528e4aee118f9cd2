import Accord.Server.Calls
import Mathlib.Data.Set.Basic

/-! Guests stay out of the public channels, whatever anybody calls. -/

namespace Accord

def UserRow.account (user : UserRow) : Uuid × Bool × Bool :=
  (user.id, user.isGuest, user.isOwner)

namespace Store

/-- `guests` are accounts known to be guests.  Rows that share an id agree,
no guest is the owner, and a guest is a member of private groups only. -/
structure Isolated (guests : Set Uuid) (store : Store) : Prop where
  agree : ∀ first ∈ store.users, ∀ second ∈ store.users,
    first.id = second.id → first.isGuest = second.isGuest
  ordinary : ∀ user ∈ store.users, user.isGuest = true →
    user.isOwner = false
  confined : ∀ row ∈ store.groupMembers,
    store.isUserGuest row.userId = true →
    store.kindOf row.groupId = some .priv
  known : ∀ user ∈ guests, store.isUserGuest user = true

/-- Accounts are as they were, groups keep their kinds, and no membership is
added. -/
structure SameRooms (before after : Store) : Prop where
  accounts : after.users.map UserRow.account =
    before.users.map UserRow.account
  kinds : ∀ groupId kind, before.kindOf groupId = some kind →
    after.kindOf groupId = some kind
  members : ∀ row ∈ after.groupMembers, row ∈ before.groupMembers

namespace SameRooms

theorem refl (store : Store) : store.SameRooms store :=
  ⟨rfl, fun _ _ known => known, fun _ listed => listed⟩

theorem trans {first second third : Store}
    (same : first.SameRooms second) (next : second.SameRooms third) :
    first.SameRooms third where
  accounts := next.accounts.trans same.accounts
  kinds groupId kind known :=
    next.kinds groupId kind (same.kinds groupId kind known)
  members row listed := same.members row (next.members row listed)

theorem of_eq {before after : Store} (users : after.users = before.users)
    (groups : after.groups = before.groups)
    (members : after.groupMembers = before.groupMembers) :
    before.SameRooms after where
  accounts := by rw [users]
  kinds := by
    intro groupId kind known
    simp only [kindOf, groups]
    exact known
  members := by
    intro row listed
    rw [members] at listed
    exact listed

variable {before after : Store}

private theorem account_mem (same : before.SameRooms after) {user : UserRow}
    (listed : user ∈ after.users) :
    ∃ earlier ∈ before.users, earlier.account = user.account := by
  have found : user.account ∈ after.users.map UserRow.account :=
    List.mem_map_of_mem listed
  rw [same.accounts] at found
  exact List.mem_map.mp found

theorem isUserGuest (same : before.SameRooms after) (userId : Uuid) :
    after.isUserGuest userId = before.isUserGuest userId := by
  have reads : ∀ store : Store, store.isUserGuest userId =
      (store.users.map UserRow.account).any
        fun account => account.1 == userId && account.2.1 := by
    intro store
    simp only [Store.isUserGuest, List.any_map]
    rfl
  rw [reads, reads, same.accounts]

end SameRooms

theorem Isolated.same {before after : Store} {guests : Set Uuid}
    (isolated : before.Isolated guests) (same : before.SameRooms after) :
    after.Isolated guests where
  agree := by
    intro first listed second also sameId
    obtain ⟨earlier, member, eq⟩ := same.account_mem listed
    obtain ⟨other, present, sameAs⟩ := same.account_mem also
    simp only [UserRow.account, Prod.mk.injEq] at eq sameAs
    rw [← eq.2.1, ← sameAs.2.1]
    apply isolated.agree earlier member other present
    rw [eq.1, sameAs.1, sameId]
  ordinary := by
    intro user listed guest
    obtain ⟨earlier, member, eq⟩ := same.account_mem listed
    simp only [UserRow.account, Prod.mk.injEq] at eq
    rw [← eq.2.2]
    apply isolated.ordinary earlier member
    rw [eq.2.1]
    exact guest
  confined := by
    intro row listed guest
    rw [same.isUserGuest] at guest
    exact same.kinds _ _
      (isolated.confined row (same.members row listed) guest)
  known := by
    intro user guest
    rw [same.isUserGuest]
    exact isolated.known user guest

private theorem isUserGuest_iff {store : Store} {userId : Uuid} :
    store.isUserGuest userId = true ↔
      ∃ user ∈ store.users, user.id = userId ∧ user.isGuest = true := by
  simp [isUserGuest]

theorem isOwner_iff {store : Store} {userId : Uuid} :
    store.isOwner userId = true ↔
      ∃ user ∈ store.users, user.id = userId ∧ user.isOwner = true := by
  simp [isOwner]

variable {guests : Set Uuid} {store : Store}

private theorem Isolated.not_owner (isolated : store.Isolated guests)
    {userId : Uuid}
    (guest : store.isUserGuest userId = true) :
    store.isOwner userId = false := by
  cases owner : store.isOwner userId with
  | false => rfl
  | true =>
      obtain ⟨first, listed, named, isGuest⟩ := isUserGuest_iff.mp guest
      obtain ⟨second, also, alike, isOwner⟩ := isOwner_iff.mp owner
      have agrees := isolated.agree first listed second also
        (named.trans alike.symm)
      have plain := isolated.ordinary second also
        (agrees.symm.trans isGuest)
      rw [isOwner] at plain
      cases plain

theorem Isolated.effective (isolated : store.Isolated guests)
    {userId : Uuid} (guest : store.isUserGuest userId = true) :
    Authz.effective store userId = Permissions.empty := by
  have plain := isolated.not_owner guest
  simp only [Authz.effective, plain, guest, Bool.false_eq_true, if_false,
    if_true]
  rfl

private theorem Isolated.not_member (isolated : store.Isolated guests)
    {groupId userId : Uuid} (guest : store.isUserGuest userId = true)
    (isPublic : store.kindOf groupId = some .pub) :
    store.isMember groupId userId = false := by
  cases member : store.isMember groupId userId with
  | false => rfl
  | true =>
      obtain ⟨row, listed, rfl, rfl⟩ := isMember_iff.mp member
      have isPrivate := isolated.confined row listed guest
      rw [isPublic] at isPrivate
      cases isPrivate

theorem Isolated.addMember (isolated : store.Isolated guests)
    {groupId userId : Uuid} (role : String)
    (allowed : store.isUserGuest userId = true →
      store.kindOf groupId = some .priv) :
    ({ store with groupMembers :=
        store.groupMembers ++ [⟨groupId, userId, role⟩] } :
      Store).Isolated guests where
  agree := isolated.agree
  ordinary := isolated.ordinary
  confined := by
    intro row listed guest
    rcases List.mem_append.mp listed with before | added
    · exact isolated.confined row before guest
    · rw [List.mem_singleton.mp added] at guest ⊢
      exact allowed guest
  known := isolated.known

theorem Isolated.createUser (isolated : store.Isolated guests)
    {row : UserRow} (unused : ∀ user ∈ store.users, user.id ≠ row.id)
    (unlisted : ∀ member ∈ store.groupMembers, member.userId ≠ row.id)
    (ordinary : row.isGuest = true → row.isOwner = false) :
    ({ store with users := store.users ++ [row] } :
      Store).Isolated guests := by
  constructor
  · intro first listed second also sameId
    simp only [List.mem_append, List.mem_singleton] at listed also
    rcases listed with listed | rfl <;> rcases also with also | rfl
    · exact isolated.agree first listed second also sameId
    · exact absurd sameId (unused first listed)
    · exact absurd sameId.symm (unused second also)
    · rfl
  · intro user listed
    rcases List.mem_append.mp listed with before | added
    · exact isolated.ordinary user before
    · rw [List.mem_singleton.mp added]
      exact ordinary
  · intro member listed guest
    obtain ⟨user, present, named, isGuest⟩ := isUserGuest_iff.mp guest
    rcases List.mem_append.mp present with before | added
    · exact isolated.confined member listed
        (isUserGuest_iff.mpr ⟨user, before, named, isGuest⟩)
    · rw [List.mem_singleton.mp added] at named
      exact absurd named.symm (unlisted member listed)
  · intro user guest
    obtain ⟨known, listed, named, isGuest⟩ :=
      isUserGuest_iff.mp (isolated.known user guest)
    exact isUserGuest_iff.mpr
      ⟨known, List.mem_append_left _ listed, named, isGuest⟩

theorem Isolated.deleteGroup (isolated : store.Isolated guests)
    (groupId : Uuid) : (store.deleteGroup groupId).Isolated guests where
  agree := isolated.agree
  ordinary := isolated.ordinary
  confined := by
    intro row listed guest
    have kept := List.mem_filter.mp listed
    have known := isolated.confined row kept.1 guest
    have other : row.groupId ≠ groupId := by simpa using kept.2
    simp only [kindOf, Option.map_eq_some_iff] at known ⊢
    obtain ⟨group, found, same⟩ := known
    refine ⟨group, ?_, same⟩
    simp only [Store.deleteGroup, List.find?_filter]
    rw [← found]
    congr 1
    funext candidate
    by_cases named : candidate.id = row.groupId
    · simp [named, other]
    · simp [named]
  known := isolated.known

end Store

section Statements

open Effect

variable {guests : Set Uuid} {store : Store}

def Sheltered (guests : Set Uuid) (groupId : Uuid) (store : Store) : Prop :=
  store.Isolated guests ∧ store.kindOf groupId = some .priv

def Ordinary (guests : Set Uuid) (userId : Uuid) (store : Store) : Prop :=
  store.Isolated guests ∧ store.isUserGuest userId = false

theorem Ordinary.same {userId : Uuid} {after : Store}
    (ordinary : Ordinary guests userId store)
    (same : store.SameRooms after) : Ordinary guests userId after := by
  refine ⟨ordinary.1.same same, ?_⟩
  rw [same.isUserGuest]
  exact ordinary.2

private theorem addMember_isolated {groupId userId : Uuid} (role : String)
    (isolated : store.Isolated guests)
    (allowed : store.isUserGuest userId = true →
      store.kindOf groupId = some .priv) :
    (Store.addMember groupId userId role store).2.Isolated guests := by
  rw [Store.addMember_eq]
  split
  · split
    · exact isolated
    · exact isolated.addMember role allowed
  · exact isolated

private theorem addMember_ordinary {groupId userId : Uuid} (role : String)
    (ordinary : Ordinary guests userId store) :
    (Store.addMember groupId userId role store).2.Isolated guests := by
  apply addMember_isolated role ordinary.1
  intro guest
  rw [ordinary.2] at guest
  cases guest

private theorem keeps_sheltered_addMember (groupId userId : Uuid)
    (role : String) :
    (Store.addMember groupId userId role).Keeps
      (Sheltered guests groupId) := by
  intro store sheltered
  refine ⟨addMember_isolated role sheltered.1 fun _ => sheltered.2, ?_⟩
  rw [Store.addMember_eq]
  split
  · split
    · exact sheltered.2
    · exact sheltered.2
  · exact sheltered.2

theorem sameRooms_append_group (store : Store) (row : GroupRow) :
    store.SameRooms { store with groups := store.groups ++ [row] } where
  accounts := rfl
  kinds := fun _ _ known => Store.kindOf_append known row
  members := fun _ listed => listed

private theorem createPrivateGroup_sheltered (groupId : Uuid) (name : String)
    (isolated : store.Isolated guests) :
    (Store.createPrivateGroupWithId groupId name).Post store
      fun result after => after.Isolated guests ∧
        (result = .ok () → after.kindOf groupId = some .priv) := by
  refine (readOnly_check _ _).post_bind (fun _ _ => ⟨isolated, nofun⟩) ?_
  intro _ passed
  have new := check_ok passed
  apply post_update
  refine ⟨isolated.same (sameRooms_append_group store _), fun _ => ?_⟩
  have absent : store.groups.find? (·.id == groupId) = none := by
    simpa [Store.hasGroup] using new
  simp only [Store.kindOf]
  rw [List.find?_append, absent]
  simp

private theorem keeps_isolated_adoptGroup (creator groupId : Uuid)
    (name : String)
    (memberIds : List IdText) :
    (GroupSvc.adoptGroup creator groupId name memberIds).Keeps
      (Store.Isolated guests) := by
  intro store isolated
  have creation := createPrivateGroup_sheltered groupId
    (GroupSvc.privateGroupName name) isolated
  have created : (orStatus (Store.createPrivateGroupWithId groupId
      (GroupSvc.privateGroupName name))).Post store fun result after =>
        after.Isolated guests ∧
          (result = .ok () → after.kindOf groupId = some .priv) :=
    ⟨creation.1, fun passed => creation.2 (mapError_ok passed)⟩
  have kept : (GroupSvc.adoptGroup creator groupId name memberIds).Post store
      fun _ after => after.Isolated guests := by
    apply post_bind created (fun _ _ holds => holds.1)
    intro _ after holds
    have sheltered : Sheltered guests groupId after := ⟨holds.1, holds.2 rfl⟩
    refine ((keeps_sheltered_addMember groupId creator
      "owner").mapError _).post_bind sheltered (fun _ _ kept => kept.1) ?_
    intro _ joined sheltered
    have enrols : (forEach (GroupSvc.enrol groupId) memberIds).Keeps
        (Sheltered guests groupId) := by
      apply keeps_forEach
      intro member
      refine (readOnly_ofOption _ _).keeps.bind fun userId => ?_
      exact (keeps_sheltered_addMember groupId userId "member").mapError _
    exact (enrols joined sheltered).1
  exact kept

private theorem keeps_isolated_enqueueInbox (device : Uuid) (kind : InboxKind)
    (group : Uuid) (payload : Bytes) :
    (Store.enqueueInbox device kind group payload).Keeps
      (Store.Isolated guests) := by
  refine (readOnly_check _ _).keeps.bind fun _ => ?_
  exact keeps_update fun store isolated => isolated.same (.of_eq rfl rfl rfl)

private theorem keeps_isolated_requireParticipant (groupId userId : Uuid) :
    (MessagingSvc.requireParticipant groupId userId).Keeps
      (Store.Isolated guests) := by
  intro store isolated
  rcases MessagingSvc.requireParticipant_cases groupId userId store with
    ⟨error, refused⟩ | ⟨_, passed⟩ | ⟨_, _, ordinary, _, entered⟩
  · rw [refused]
    exact isolated
  · rw [passed]
    exact isolated
  · rw [entered]
    apply isolated.addMember
    intro guest
    rw [ordinary] at guest
    cases guest

private theorem keeps_isolated_addMembers (token : Option Claims)
    (req : GroupSvc.AddMembersRequest) :
    (GroupSvc.addMembers token req).Keeps (Store.Isolated guests) := by
  refine (readOnly_authenticate _).keeps.bind fun claims => ?_
  refine (readOnly_check _ _).keeps.bind fun _ => ?_
  refine (GroupSvc.readOnly_requireGroupId _).keeps.bind fun groupId => ?_
  refine ((readOnly_getGroup groupId).keeps.mapError _).bind fun group => ?_
  refine (readOnly_check _ _).keeps.bind fun _ => ?_
  apply keeps_forEach
  intro member
  refine (readOnly_ofOption _ _).keeps.bind fun userId => ?_
  intro store isolated
  have kept : Effect.Post (do
      check (fun store => !store.isUserGuest userId)
        ServerError.permissionDenied.toStatus
      check (fun store => !store.isBanned userId)
        ⟨.failedPrecondition, "user is banned from this server"⟩
      orStatus (Store.addMember groupId userId "member")) store
      fun _ after => after.Isolated guests := by
    refine (readOnly_check _ _).post_bind (fun _ _ => isolated) ?_
    intro _ passed
    have ordinary : store.isUserGuest userId = false := by
      simpa using check_ok passed
    refine (readOnly_check _ _).post_bind (fun _ _ => isolated) ?_
    intro _ _
    exact addMember_ordinary "member" ⟨isolated, ordinary⟩
  exact kept

private theorem ordinary_of_manages {userId : Uuid}
    (isolated : store.Isolated guests) {result : Unit}
    (passed : (Authz.require userId Permissions.manageChannels store).1 =
      .ok result) : Ordinary guests userId store := by
  refine ⟨isolated, ?_⟩
  cases guest : store.isUserGuest userId with
  | false => rfl
  | true =>
      have allowed := Authz.require_ok passed
      rw [isolated.effective guest] at allowed
      exact absurd allowed (by decide)

private theorem keeps_ordinary_guard {userId : Uuid}
    (decision : GuardrailDecision)
    (actor : Uuid) (action : ActionClass) (target : String) :
    (GroupSvc.guard decision actor action target).Keeps
      (Ordinary guests userId) := by
  apply GroupSvc.keeps_guard
  intro store _ _ _ _ _ ordinary
  exact ordinary.same (.of_eq rfl rfl rfl)

private theorem keeps_ordinary_createPublicGroup {userId : Uuid} (fresh : Uuid)
    (name description : String) (channelKind : ChannelKind)
    (categoryId : String) :
    (Store.createPublicGroup fresh name description channelKind
      categoryId).Keeps (Ordinary guests userId) := by
  refine (readOnly_check _ _).keeps.bind fun _ => ?_
  refine Keeps.bind (keeps_update ?_) fun _ => (readOnly_pure _).keeps
  intro store ordinary
  exact ordinary.same (sameRooms_append_group store _)

private theorem keeps_isolated_createPublicGroup (decision : GuardrailDecision)
    (fresh : Uuid) (token : Option Claims)
    (req : GroupSvc.CreatePublicGroupRequest) :
    (GroupSvc.createPublicGroup decision fresh token req).Keeps
      (Server.OnStore (Store.Isolated guests)) := by
  refine (readOnly_authenticate _).keeps.bind fun claims => ?_
  refine (readOnly_check _ _).keeps.bind fun _ => ?_
  intro server isolated
  have kept : Effect.Post (do
      Server.onStore (Authz.require claims.sub Permissions.manageChannels)
      Server.onStore (GroupSvc.guard decision claims.sub .createChannel
        (trim req.name))
      let groupId ← Server.onStore (orStatus (Store.createPublicGroup fresh
        (trim req.name) (trim req.description)
        (GroupSvc.parseChannelKind req.channelKind) (trim req.categoryId)))
      Server.onStore (orStatus (Store.addMember groupId claims.sub "owner"))
      Server.subscribe claims.deviceId groupId
      return groupId) server
      fun _ after => Server.OnStore (Store.Isolated guests) after := by
    refine (Server.readOnly_onStore
      (Authz.readOnly_require _ _)).post_bind (fun _ _ => isolated) ?_
    intro _ passed
    have ordinary := ordinary_of_manages isolated passed
    refine (Server.keeps_onStore
      (keeps_ordinary_guard _ _ _ _)).post_bind ordinary
      (fun _ _ ordinary => ordinary.1) ?_
    intro _ guarded ordinary
    refine (Server.keeps_onStore
      ((keeps_ordinary_createPublicGroup _ _ _ _ _).mapError _)).post_bind
      ordinary (fun _ _ ordinary => ordinary.1) ?_
    intro groupId created ordinary
    have added : (Server.onStore (orStatus (Store.addMember groupId
        claims.sub "owner"))).Post created fun _ after =>
          Server.OnStore (Store.Isolated guests) after :=
      addMember_ordinary "owner" ordinary
    exact post_bind added (fun _ _ kept => kept) (fun _ _ kept => kept)
  exact kept

private theorem joinDefaultChannel_isolated (user : UserRow) :
    (AuthSvc.joinDefaultChannel user).Keeps fun store =>
      store.Isolated guests ∧ user ∈ store.users := by
  simp only [AuthSvc.joinDefaultChannel]
  split
  · exact (readOnly_pure _).keeps
  · rename_i ordinary
    apply Keeps.attempt
    intro store holds
    obtain ⟨isolated, listed⟩ := holds
    have notGuest : store.isUserGuest user.id = false := by
      cases guest : store.isUserGuest user.id with
      | false => rfl
      | true =>
          obtain ⟨other, present, named, isGuest⟩ :=
            Store.isUserGuest_iff.mp guest
          rw [isolated.agree other present user listed named] at isGuest
          exact absurd isGuest ordinary
    refine ⟨addMember_ordinary "member" ⟨isolated, notGuest⟩, ?_⟩
    rw [Store.addMember_eq]
    split
    · split <;> exact listed
    · exact listed

private theorem keeps_storeRefreshToken {invariant : Store → Prop}
    (kept : ∀ (store : Store) tokens, invariant store →
      invariant { store with refreshTokens := tokens }) (row : RefreshRow) :
    (Store.storeRefreshToken row).Keeps invariant := by
  refine (readOnly_check _ _).keeps.bind fun _ => ?_
  refine (readOnly_check _ _).keeps.bind fun _ => ?_
  exact keeps_update fun store holds => kept store _ holds

private theorem issueSession_isolated (mint : AuthSvc.Mint)
    (deviceName : String)
    (isolated : store.Isolated guests) {user : UserRow}
    (listed : user ∈ store.users) :
    (AuthSvc.issueSession mint user deviceName).Post store
      fun _ after => after.Isolated guests := by
  have devices : ∀ fresh userId name,
      (Store.createDevice fresh userId name).Keeps fun store =>
        store.Isolated guests ∧ user ∈ store.users := by
    intro fresh userId name
    refine (readOnly_check _ _).keeps.bind fun _ => ?_
    refine Keeps.bind (keeps_update ?_) fun _ => (readOnly_pure _).keeps
    intro store holds
    exact ⟨holds.1.same (.of_eq rfl rfl rfl), holds.2⟩
  have tokens : ∀ row, (Store.storeRefreshToken row).Keeps fun store =>
      store.Isolated guests ∧ user ∈ store.users :=
    keeps_storeRefreshToken fun store _ holds =>
      ⟨holds.1.same (.of_eq rfl rfl rfl), holds.2⟩
  have kept := AuthSvc.keeps_issueSession devices tokens mint deviceName
    (joinDefaultChannel_isolated user)
  exact (kept store ⟨isolated, listed⟩).1

private theorem kept_isolated : SessionCall.Kept (Store.Isolated guests) where
  audits := fun _ _ _ _ _ _ isolated => isolated.same (.of_eq rfl rfl rfl)
  removes := by
    intro store groupId userId isolated
    apply isolated.same
    exact ⟨rfl, fun _ _ known => known,
      fun row listed => (List.mem_filter.mp listed).1⟩
  bans := by
    intro store userId bannedBy reason isolated
    apply isolated.same
    simp only [Store.banUser]
    split <;> exact .of_eq rfl rfl rfl
  unbans := fun _ _ isolated => isolated.same (.of_eq rfl rfl rfl)
  revokes := fun _ _ _ _ isolated => isolated.same (.of_eq rfl rfl rfl)
  deletes := fun _ _ isolated => isolated.same (.of_eq rfl rfl rfl)
  tokens := keeps_storeRefreshToken fun _ _ isolated =>
    isolated.same (.of_eq rfl rfl rfl)
  sessions := fun mint deviceName _ isolated _ listed =>
    issueSession_isolated mint deviceName isolated listed

private theorem RoleWritten.sameRooms {caller : Uuid} {call : RoleCall}
    {after : Store} (written : RoleWritten store caller call after) :
    store.SameRooms after := by
  cases written with
  | assigned userId roleId =>
      simp only [Store.assignRole]
      split <;> exact .of_eq rfl rfl rfl
  | _ => exact .of_eq rfl rfl rfl

private theorem role_isolated (isolated : store.Isolated guests)
    (token : Option Claims) (call : RoleCall) :
    (call.after token store).Isolated guests := by
  cases token with
  | none =>
      rw [call.after_unauthenticated]
      exact isolated
  | some claims =>
      exact isolated.same (call.after_written claims store).sameRooms

private theorem group_isolated {server : Server}
    (isolated : server.store.Isolated guests) (call : GroupCall) :
    (call.step server).store.Isolated guests := by
  have queues := @keeps_isolated_enqueueInbox guests
  have relays := MlsRelaySvc.keeps_relayWelcome queues
  cases call with
  | createPublicGroup decision fresh token req =>
      exact keeps_isolated_createPublicGroup decision fresh token req server
        isolated
  | createPrivateGroup bus token req =>
      exact GroupSvc.keeps_createPrivateGroup bus token req
        (fun _ _ _ => keeps_isolated_adoptGroup _ _ _ _) queues server
        isolated
  | addMembers token req =>
      exact keeps_isolated_addMembers token req server.store isolated
  | removeMembers decisions token req =>
      exact GroupSvc.keeps_removeMembers kept_isolated.audits
        kept_isolated.removes decisions token req server.store isolated
  | kickMember decision token req =>
      exact GroupSvc.keeps_kickMember kept_isolated.audits
        kept_isolated.removes decision token req server.store isolated
  | banMember decision token req =>
      exact GroupSvc.keeps_banMember kept_isolated.audits
        kept_isolated.removes kept_isolated.bans decision token req
        server.store isolated
  | sendCommit bus token req =>
      have kept : (MlsRelaySvc.sendCommit bus token req).Keeps
          (Server.OnStore (Store.Isolated guests)) := by
        refine (readOnly_authenticate _).keeps.bind fun claims => ?_
        refine (Server.keeps_onStore
          (GroupSvc.readOnly_requireGroupId _).keeps).bind fun groupId => ?_
        refine (Server.keeps_onStore
          (readOnly_check _ _).keeps).bind fun _ => ?_
        refine (Server.keeps_publish bus _).bind fun _ => ?_
        exact keeps_forEach (relays bus groupId) req.welcomes
      exact kept server isolated
  | sendWelcome bus token req =>
      have kept : (MlsRelaySvc.sendWelcome bus token req).Keeps
          (Server.OnStore (Store.Isolated guests)) := by
        refine (readOnly_authenticate _).keeps.bind fun claims => ?_
        refine (Server.keeps_onStore
          (GroupSvc.readOnly_requireGroupId _).keeps).bind fun groupId => ?_
        exact keeps_forEach (relays bus groupId) req.welcomes
      exact kept server isolated
  | openStream token =>
      have kept : (MessagingSvc.openStream token).Keeps
          (Server.OnStore (Store.Isolated guests)) := by
        refine (readOnly_authenticate _).keeps.bind fun claims => ?_
        refine (Server.keeps_onStore
          (readOnly_read _).keeps).bind fun groups => ?_
        refine Keeps.bind (keeps_update ?_) fun _ => ?_
        · intro server isolated
          exact isolated
        · exact Server.keeps_onStore (keeps_update fun store isolated =>
            isolated.same (.of_eq rfl rfl rfl))
      exact kept server isolated
  | closeStream device => exact isolated

private theorem keeps_isolated_insertPublicMessage (draw : RowDraw)
    (groupId senderId : Uuid) (content : String) (clientMessageId : Uuid) :
    (Store.insertPublicMessage draw groupId senderId content
      clientMessageId).Keeps (Store.Isolated guests) := by
  refine Keeps.bind ?_ fun stored => ?_
  · refine (readOnly_read _).keeps.bind fun found => ?_
    cases found with
    | some stored => exact (readOnly_pure _).keeps
    | none =>
        refine (readOnly_check _ _).keeps.bind fun _ => ?_
        refine (readOnly_check _ _).keeps.bind fun _ => ?_
        refine Keeps.bind (keeps_update ?_) fun _ => (readOnly_pure _).keeps
        intro store isolated
        exact isolated.same (.of_eq rfl rfl rfl)
  · refine (Store.readOnly_senderName _).keeps.bind fun name => ?_
    exact (readOnly_pure _).keeps

private theorem keeps_isolated_storePrivateMessage (draw : RowDraw)
    (groupId senderId senderDeviceId : Uuid) (ciphertext : Bytes)
    (epoch : UInt64) (clientMessageId : Uuid) :
    (Store.storePrivateMessage draw groupId senderId senderDeviceId
      ciphertext epoch clientMessageId).Keeps (Store.Isolated guests) := by
  refine (readOnly_read _).keeps.bind fun found => ?_
  cases found with
  | some stored => exact (readOnly_pure _).keeps
  | none =>
      refine (readOnly_check _ _).keeps.bind fun _ => ?_
      refine (readOnly_check _ _).keeps.bind fun _ => ?_
      refine Keeps.bind (keeps_update ?_) fun _ => (readOnly_pure _).keeps
      intro store isolated
      exact isolated.same (.of_eq rfl rfl rfl)

private theorem keeps_isolated_publicMessage (bus : Bus) (draw : RowDraw)
    (fresh userId : Uuid) (m : SendPublicMessage) :
    (MessagingSvc.handlePublicMessage bus draw fresh userId m).Keeps
      (Server.OnStore (Store.Isolated guests)) := by
  have accepts : (MessagingSvc.acceptPublicMessage draw fresh userId m).Keeps
      (Store.Isolated guests) := by
    refine (MessagingSvc.readOnly_requireGroupId _).keeps.bind
      fun groupId => ?_
    refine (readOnly_check _ _).keeps.bind fun _ => ?_
    refine (keeps_isolated_requireParticipant _ _).bind fun _ => ?_
    refine (keeps_isolated_insertPublicMessage _ _ _ _ _).bind fun _ => ?_
    exact (readOnly_pure _).keeps
  refine (Server.keeps_onStore (accepts.mapError _)).bind fun message => ?_
  exact Server.keeps_publish bus _

private theorem keeps_isolated_privateMessage (bus : Bus) (codec : InboxCodec)
    (singleInstance : Bool) (draw : RowDraw) (fresh : Uuid) (claims : Claims)
    (m : SendPrivateMessage) :
    (MessagingSvc.handlePrivateMessage bus codec singleInstance draw fresh
      claims m).Keeps (Server.OnStore (Store.Isolated guests)) := by
  refine (Server.keeps_onStore
    (MessagingSvc.readOnly_acceptPrivateMessage _ _ _).keeps).bind
      fun send => ?_
  refine (Server.keeps_onStore ((keeps_isolated_storePrivateMessage _ _ _ _ _
    _ _).mapError _)).bind fun row => ?_
  refine (Server.keeps_publish bus _).bind fun _ => ?_
  intro server isolated
  have mailed := MessagingSvc.keeps_mailed_mailOffline codec singleInstance
    send row server (.refl server.store)
  simp only [Server.OnStore] at mailed ⊢
  rw [mailed]
  exact isolated.same (.of_eq rfl rfl rfl)

private theorem keeps_isolated_voiceState (claims : Claims)
    (update : VoiceStateUpdate) :
    (MessagingSvc.handleVoiceState claims update).Keeps
      (Server.OnStore (Store.Isolated guests)) := by
  refine (Server.keeps_onStore
    ((MessagingSvc.readOnly_requireGroupId _).keeps.mapError _)).bind
      fun groupId => ?_
  refine (Server.keeps_onStore
    ((keeps_isolated_requireParticipant _ _).mapError _)).bind fun _ => ?_
  refine (Server.keeps_subscribe _ _).bind fun _ => ?_
  refine (Server.keeps_onStore (readOnly_read _).keeps).bind fun _ => ?_
  exact (readOnly_pure _).keeps

private theorem keeps_isolated_voiceSignal (userId : Uuid)
    (signal : VoiceSignal) :
    (MessagingSvc.acceptVoiceSignal userId signal).Keeps
      (Store.Isolated guests) := by
  refine (MessagingSvc.readOnly_requireGroupId _).keeps.bind
    fun groupId => ?_
  refine (keeps_isolated_requireParticipant _ _).bind fun _ => ?_
  exact (readOnly_ofOption _ _).keeps

private theorem keeps_isolated_publicHistory (token : Option Claims)
    (req : FetchHistoryRequest) :
    (MessagingSvc.fetchPublicHistory token req).Keeps
      (Store.Isolated guests) := by
  refine (readOnly_authenticate _).keeps.bind fun claims => ?_
  refine ((MessagingSvc.readOnly_requireGroupId _).keeps.mapError _).bind
    fun groupId => ?_
  refine ((keeps_isolated_requireParticipant _ _).mapError _).bind
    fun _ => ?_
  exact ((readOnly_read _).bind fun _ => readOnly_pure _).keeps

theorem readOnly_privateHistory (token : Option Claims)
    (req : FetchHistoryRequest) :
    (MessagingSvc.fetchPrivateHistory token req).ReadOnly := by
  refine (readOnly_authenticate _).bind fun claims => ?_
  refine ((MessagingSvc.readOnly_requireGroupId _).mapError _).bind
    fun groupId => ?_
  refine (readOnly_check _ _).bind fun _ => ?_
  exact (readOnly_read _).bind fun _ => readOnly_pure _

private theorem keeps_isolated_deleteGroup (decision : GuardrailDecision)
    (token : Option Claims) (groupId : Option IdText) :
    (GroupSvc.deleteGroup decision token groupId).Keeps
      (Store.Isolated guests) := by
  refine (readOnly_authenticate _).keeps.bind fun claims => ?_
  refine (GroupSvc.readOnly_requireGroupId _).keeps.bind fun groupId => ?_
  refine ((readOnly_getGroup groupId).keeps.mapError _).bind fun group => ?_
  refine (readOnly_check _ _).keeps.bind fun _ => ?_
  refine (Authz.readOnly_require _ _).keeps.bind fun _ => ?_
  refine (GroupSvc.keeps_guard kept_isolated.audits _ _ _ _).bind fun _ => ?_
  exact keeps_update fun store isolated => isolated.deleteGroup groupId

private theorem kindOf_map {change : GroupRow → GroupRow}
    (ids : ∀ group, (change group).id = group.id)
    (kinds : ∀ group, (change group).kind = group.kind)
    (groups : List GroupRow) (groupId : Uuid) :
    ((groups.map change).find? (·.id == groupId)).map (·.kind) =
      (groups.find? (·.id == groupId)).map (·.kind) := by
  rw [List.find?_map]
  have same : ((fun group : GroupRow => group.id == groupId) ∘ change) =
      fun group => group.id == groupId := by
    funext group
    simp only [Function.comp_apply, ids]
  rw [same, Option.map_map]
  congr 1
  funext group
  exact kinds group

theorem sameRooms_reorderChannels (store : Store) (categoryId : String)
    (ordered : List Uuid) :
    store.SameRooms (store.reorderChannels categoryId ordered) where
  accounts := rfl
  kinds := by
    intro groupId kind known
    have kept : ∀ (entries : List (Uuid × ℕ)) (groups : List GroupRow),
        ((entries.foldl (Store.placeChannel categoryId) groups).find?
            (·.id == groupId)).map (·.kind) =
          (groups.find? (·.id == groupId)).map (·.kind) := by
      intro entries
      induction entries with
      | nil => exact fun _ => rfl
      | cons entry rest induction =>
          intro groups
          rw [List.foldl_cons, induction]
          apply kindOf_map
          · intro group
            split <;> rfl
          · intro group
            split <;> rfl
    exact (kept ordered.zipIdx store.groups).trans known
  members := fun _ listed => listed

theorem sameRooms_deleteCategory (store : Store) (id : Uuid) :
    store.SameRooms (store.deleteCategory id) where
  accounts := rfl
  kinds := by
    intro groupId kind known
    refine (kindOf_map ?_ ?_ store.groups groupId).trans known
    · intro group
      split <;> rfl
    · intro group
      split <;> rfl
  members := fun _ listed => listed

theorem sameRooms_updateProfile (store : Store) (userId : Uuid)
    (displayName avatarUrl : String) :
    store.SameRooms (store.updateProfile userId displayName avatarUrl) where
  accounts := by
    simp only [Store.updateProfile, List.map_map]
    apply List.map_congr_left
    intro user _
    simp only [Function.comp_apply]
    split <;> rfl
  kinds := fun _ _ known => known
  members := fun _ listed => listed

end Statements

namespace ServerCall

open Server

variable (crypto : AuthCrypto) (config : AuthConfig)

/-- The id of a new account is one that no row mentions. -/
def Fresh (server : Server) : ServerCall → Prop
  | .session (.register mint _ _ _) =>
      (∀ user ∈ server.store.users, user.id ≠ mint.id) ∧
        ∀ row ∈ server.store.groupMembers, row.userId ≠ mint.id
  | _ => True

private theorem step_isolated {guests : Set Uuid} (server : Server)
    (call : ServerCall) (isolated : server.store.Isolated guests)
    (unmentioned : Fresh server call) :
    (step crypto config server call).store.Isolated guests := by
  cases call with
  | session call =>
      apply kept_isolated.step crypto config isolated call
      rintro mint isLocal limited req rfl row named ordinary
      refine (Effect.readOnly_check _ _).post_bind (fun _ _ => isolated) ?_
      intro _ _
      apply Effect.post_update_bind
      apply Effect.post_pure
      apply isolated.createUser _ _ ordinary
      · rw [named]
        exact unmentioned.1
      · rw [named]
        exact unmentioned.2
  | role token call => exact role_isolated isolated token call
  | group call => exact group_isolated isolated call
  | publicMessage bus draw fresh userId m =>
      exact keeps_isolated_publicMessage bus draw fresh userId m server
        isolated
  | privateMessage bus codec singleInstance draw fresh claims m =>
      exact keeps_isolated_privateMessage bus codec singleInstance draw fresh
        claims m server isolated
  | voiceSignal userId signal =>
      exact keeps_isolated_voiceSignal userId signal server.store isolated
  | voiceState claims update =>
      exact keeps_isolated_voiceState claims update server isolated
  | publicHistory token req =>
      exact keeps_isolated_publicHistory token req server.store isolated
  | privateHistory token req =>
      exact (readOnly_privateHistory token req).keeps server.store isolated
  | deleteGroup decision token groupId =>
      exact keeps_isolated_deleteGroup decision token groupId server.store
        isolated
  | reorderChannels token categoryId groupIds =>
      have kept : (GroupSvc.reorderChannels token categoryId groupIds).Keeps
          (Store.Isolated guests) := by
        refine (readOnly_authenticate _).keeps.bind fun claims => ?_
        refine (Authz.readOnly_require _ _).keeps.bind fun _ => ?_
        refine (Effect.readOnly_ofOption _ _).keeps.bind fun ids => ?_
        exact Effect.keeps_update fun store isolated =>
          isolated.same (sameRooms_reorderChannels store _ ids)
      exact kept server.store isolated
  | deleteCategory decision token id =>
      have kept : (GroupSvc.deleteCategory decision token id).Keeps
          (Store.Isolated guests) := by
        refine (readOnly_authenticate _).keeps.bind fun claims => ?_
        refine (Authz.readOnly_require _ _).keeps.bind fun _ => ?_
        refine (Effect.readOnly_ofOption _ _).keeps.bind fun id => ?_
        refine (GroupSvc.keeps_guard kept_isolated.audits _ _ _ _).bind
          fun _ => ?_
        exact Effect.keeps_update fun store isolated =>
          isolated.same (sameRooms_deleteCategory store id)
      exact kept server.store isolated
  | createCategory decision token name =>
      have kept : (GroupSvc.createCategory decision token name).Keeps
          (Store.Isolated guests) := by
        refine (readOnly_authenticate _).keeps.bind fun claims => ?_
        refine (Authz.readOnly_require _ _).keeps.bind fun _ => ?_
        refine (Effect.readOnly_check _ _).keeps.bind fun _ => ?_
        exact GroupSvc.keeps_guard kept_isolated.audits _ _ _ _
      exact kept server.store isolated
  | reorderCategories token categoryIds =>
      have kept : (GroupSvc.reorderCategories token categoryIds).Keeps
          (Store.Isolated guests) := by
        refine (readOnly_authenticate _).keeps.bind fun claims => ?_
        refine (Authz.readOnly_require _ _).keeps.bind fun _ => ?_
        exact (Effect.readOnly_ofOption _ _).keeps
      exact kept server.store isolated
  | updateTavern decision token =>
      have kept : (GroupSvc.updateTavern decision token).Keeps
          (Store.Isolated guests) := by
        refine (readOnly_authenticate _).keeps.bind fun claims => ?_
        refine (Authz.readOnly_require _ _).keeps.bind fun _ => ?_
        exact GroupSvc.keeps_guard kept_isolated.audits _ _ _ _
      exact kept server.store isolated
  | updateProfile token displayName avatarUrl =>
      have kept : (GroupSvc.updateProfile token displayName avatarUrl).Keeps
          (Store.Isolated guests) := by
        refine (readOnly_authenticate _).keeps.bind fun claims => ?_
        refine (Effect.readOnly_check _ _).keeps.bind fun _ => ?_
        refine Effect.Keeps.bind (Effect.keeps_update fun store isolated =>
          isolated.same (sameRooms_updateProfile store _ _ _)) fun _ => ?_
        refine (Effect.readOnly_require _ _).keeps.bind fun _ => ?_
        exact (Effect.readOnly_pure _).keeps
      exact kept server.store isolated
  | elsewhere change frame =>
      have same := frame server.store
      exact isolated.same (.of_eq same.users same.groups same.members)

end ServerCall

namespace Server

/-- What a guest is kept from: public channels, the ownership, every
permission, and sending to, reading and speaking in a public channel. -/
structure ShutsOut (server : Server) (guest : Uuid) : Prop where
  notMember : ∀ groupId, server.store.kindOf groupId = some .pub →
    server.store.isMember groupId guest = false
  notOwner : server.store.isOwner guest = false
  powerless : Authz.effective server.store guest = Permissions.empty
  sendDenied : ∀ bus draw fresh (m : SendPublicMessage) groupId,
    m.groupId.bind IdText.parse = some groupId →
    server.store.kindOf groupId = some .pub →
    ∃ status, MessagingSvc.handlePublicMessage bus draw fresh guest m
        server = (.error status, server) ∧
      (trim m.content ≠ "" →
        status = ServerError.permissionDenied.toStatus)
  historyDenied : ∀ deviceId (req : FetchHistoryRequest) groupId,
    req.groupId.bind IdText.parse = some groupId →
    server.store.kindOf groupId = some .pub →
    MessagingSvc.fetchPublicHistory (some ⟨guest, deviceId⟩) req
        server.store =
      (.error ServerError.permissionDenied.toStatus, server.store)
  voiceDenied : ∀ deviceId (update : VoiceStateUpdate) groupId,
    update.groupId.bind IdText.parse = some groupId →
    server.store.kindOf groupId = some .pub →
    MessagingSvc.handleVoiceState ⟨guest, deviceId⟩ update server =
      (.error ServerError.permissionDenied.toStatus, server)
  signalDenied : ∀ (signal : VoiceSignal) groupId,
    signal.groupId.bind IdText.parse = some groupId →
    server.store.kindOf groupId = some .pub →
    MessagingSvc.acceptVoiceSignal guest signal server.store =
      (.error .permissionDenied, server.store)

variable {server : Server} {guests : Set Uuid} {guest : Uuid}

private theorem requireParticipant_guest
    (isolated : server.store.Isolated guests)
    (known : server.store.isUserGuest guest = true) {groupId : Uuid}
    (isPublic : server.store.kindOf groupId = some .pub) :
    MessagingSvc.requireParticipant groupId guest server.store =
      (.error .permissionDenied, server.store) := by
  apply MessagingSvc.requireParticipant_denied
    (isolated.not_member known isPublic) isPublic
  intro _
  rw [known]
  rfl

private theorem acceptPublicMessage_guest (draw : RowDraw) (fresh : Uuid)
    {m : SendPublicMessage} {groupId : Uuid}
    (isolated : server.store.Isolated guests)
    (known : server.store.isUserGuest guest = true)
    (parsed : m.groupId.bind IdText.parse = some groupId)
    (isPublic : server.store.kindOf groupId = some .pub) :
    ∃ error, MessagingSvc.acceptPublicMessage draw fresh guest m
        server.store = (.error error, server.store) ∧
      (trim m.content ≠ "" → error = .permissionDenied) := by
  have denied := requireParticipant_guest isolated known isPublic
  simp only [MessagingSvc.acceptPublicMessage]
  rw [Effect.bind_of_ok (MessagingSvc.requireGroupId_of_parsed parsed),
    Effect.check_bind]
  cases written : trim m.content != "" with
  | true =>
      rw [if_pos rfl, Effect.bind_of_error denied]
      exact ⟨_, rfl, fun _ => rfl⟩
  | false =>
      refine ⟨_, rfl, fun filled => ?_⟩
      exact absurd (by simpa using written) filled

private theorem shutsOut_of_isolated (isolated : server.store.Isolated guests)
    (known : server.store.isUserGuest guest = true) :
    server.ShutsOut guest where
  notMember := fun groupId isPublic => isolated.not_member known isPublic
  notOwner := isolated.not_owner known
  powerless := isolated.effective known
  sendDenied := by
    intro bus draw fresh m groupId parsed isPublic
    obtain ⟨error, refused, denied⟩ :=
      acceptPublicMessage_guest draw fresh isolated known parsed isPublic
    exact ⟨_, Effect.bind_of_error
      (Server.onStore_of_error (orStatus_of_error refused)) _,
      fun filled => by rw [denied filled]⟩
  historyDenied := by
    intro deviceId req groupId parsed isPublic
    have named : orStatus (MessagingSvc.requireGroupId req.groupId)
        server.store = (.ok groupId, server.store) :=
      orStatus_of_ok (MessagingSvc.requireGroupId_of_parsed parsed)
    have denied := orStatus_of_error
      (requireParticipant_guest isolated known isPublic)
    simp only [MessagingSvc.fetchPublicHistory]
    rw [Effect.bind_of_ok (authenticate_some _ _), Effect.bind_of_ok named,
      Effect.bind_of_error denied]
  voiceDenied := by
    intro deviceId update groupId parsed isPublic
    have named : Server.onStore (orStatus
        (MessagingSvc.requireGroupId update.groupId)) server =
          (.ok groupId, server) :=
      Server.onStore_of_ok
        (orStatus_of_ok (MessagingSvc.requireGroupId_of_parsed parsed))
    have denied := Server.onStore_of_error (orStatus_of_error
      (requireParticipant_guest isolated known isPublic))
    simp only [MessagingSvc.handleVoiceState]
    rw [Effect.bind_of_ok named, Effect.bind_of_error denied]
  signalDenied := by
    intro signal groupId parsed isPublic
    simp only [MessagingSvc.acceptVoiceSignal]
    rw [Effect.bind_of_ok (MessagingSvc.requireGroupId_of_parsed parsed),
      Effect.bind_of_error
        (requireParticipant_guest isolated known isPublic)]

end Server

namespace ServerCall

/-- Whoever is a guest at some point of a run is shut out from then on,
whatever anybody calls. -/
theorem guest_shut_out (crypto : AuthCrypto) (config : AuthConfig)
    (server : Server) (isolated : server.store.Isolated ∅)
    (before later : List ServerCall)
    (fresh : EventRun.Each (step crypto config) Fresh server
      (before ++ later))
    (guest : Uuid)
    (known : (EventRun.run (step crypto config) server
      before).store.isUserGuest guest = true) :
    (EventRun.run (step crypto config) server (before ++ later)).ShutsOut
      guest := by
  obtain ⟨freshBefore, freshLater⟩ := EventRun.each_append.mp fresh
  have reached := (EventRun.always_of_step
    (fun server call => step_isolated crypto config server call)
    isolated freshBefore).last
  have registered : (EventRun.run (step crypto config) server
      before).store.Isolated {guest} := by
    refine ⟨reached.agree, reached.ordinary, reached.confined, ?_⟩
    rintro user rfl
    exact known
  have kept := (EventRun.always_of_step
    (fun server call => step_isolated crypto config server call)
    registered freshLater).last
  rw [← EventRun.run_append] at kept
  exact Server.shutsOut_of_isolated kept (kept.known guest rfl)

def hallStore : Store where
  users := [⟨1, "owner", "Owner", "", true, false, none, ""⟩]
  devices := [⟨10, 1, "desktop", none⟩]
  groups := [⟨7, "general", "", .pub, .text, "", 0⟩]
  groupMembers := [⟨7, 1, "owner"⟩]
  roles := [⟨20, "helper", 1, 1, false, "", "", false, false⟩]

/-- A server that takes guests for direct messages, and knows no secrets. -/
def hallCrypto : AuthCrypto where
  hashPassword password := .ok password
  verifyPasswordHash password hash := .ok (password == hash)
  verifyChallenge _ := .error .unauthenticated
  verifySignature _ _ _ := false

def visit : List ServerCall := [
  .session (.register ⟨0, 2, ""⟩ false none
    ⟨"visitor", "a password", "", "", []⟩)]

/-- The owner gives the guest a role and a direct message, and the guest
tries the channel. -/
def stay : List ServerCall := [
  .role (some ⟨1, 10⟩) (.assignRole ⟨some (.uuid 2), .uuid 20⟩),
  .group (.createPrivateGroup (fun _ => .ok ()) (some ⟨1, 10⟩)
    ⟨some (.uuid 8), "", [.uuid 2], []⟩),
  .publicMessage (fun _ => .ok ()) ⟨900, 1, 1500⟩ 70 2
    ⟨some (.uuid 7), "hello", none⟩]

theorem visitor_shut_out :
    (EventRun.run (step hallCrypto ⟨true, true⟩) { store := hallStore }
        (visit ++ stay)).ShutsOut 2 ∧
      (EventRun.run (step hallCrypto ⟨true, true⟩) { store := hallStore }
        (visit ++ stay)).store.isMember 8 2 = true := by
  refine ⟨guest_shut_out hallCrypto ⟨true, true⟩ { store := hallStore } ?_
    visit stay ?_ 2 (by decide), by decide⟩
  · refine ⟨by decide, by decide, by decide, ?_⟩
    rintro user ⟨⟩
  · refine ⟨⟨?_, ?_⟩, trivial, trivial, trivial, trivial⟩ <;> decide

end ServerCall

end Accord
