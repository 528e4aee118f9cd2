import Accord.Library.Log
import Accord.Server.Statements

/-! What no run takes back: messages, short of the deletion of their channel;
accounts and who owns the server; and who a private group is made of. -/

namespace Accord

namespace Store

def publicOf (store : Store) (groupId : Uuid) : List PublicMessageRow :=
  store.publicMessages.filter (·.groupId == groupId)

def privateOf (store : Store) (groupId : Uuid) : List PrivateMessageRow :=
  store.privateMessages.filter (·.groupId == groupId)

/-- The messages of a group are as they were, and newer ones follow. -/
structure Endures (groupId : Uuid) (before after : Store) : Prop where
  pub : Log.Extends (·.seq) (before.publicOf groupId) (after.publicOf groupId)
  priv : Log.Extends (·.seq) (before.privateOf groupId)
    (after.privateOf groupId)

namespace Endures

variable {groupId : Uuid}

theorem refl (store : Store) : store.Endures groupId store :=
  ⟨.refl _, .refl _⟩

theorem trans {first second third : Store}
    (endures : first.Endures groupId second)
    (again : second.Endures groupId third) : first.Endures groupId third :=
  ⟨endures.pub.trans again.pub, endures.priv.trans again.priv⟩

theorem of_eq {before after : Store}
    (pub : after.publicMessages = before.publicMessages)
    (priv : after.privateMessages = before.privateMessages) :
    before.Endures groupId after := by
  constructor
  · apply Log.Extends.of_eq
    simp only [publicOf, pub]
  · apply Log.Extends.of_eq
    simp only [privateOf, priv]

theorem deleteGroup (store : Store) {other : Uuid} (apart : other ≠ groupId) :
    store.Endures groupId (store.deleteGroup other) := by
  have kept : ∀ id : Uuid, (id != other && id == groupId) =
      (id == groupId) := by
    intro id
    by_cases named : id = groupId
    · simp [named, apart.symm]
    · simp [named]
  constructor
  · apply Log.Extends.of_eq
    simp only [publicOf, Store.deleteGroup, List.filter_filter]
    apply List.filter_congr
    intro row _
    rw [Bool.and_comm]
    exact kept row.groupId
  · apply Log.Extends.of_eq
    simp only [privateOf, Store.deleteGroup, List.filter_filter]
    apply List.filter_congr
    intro row _
    rw [Bool.and_comm]
    exact kept row.groupId

end Endures

private theorem lastSeqOf_le {rows : List PrivateMessageRow}
    {row : PrivateMessageRow} (listed : row ∈ rows) :
    row.seq ≤ lastSeqOf rows := by
  induction rows with
  | nil => cases listed
  | cons first rest induction =>
      change row.seq ≤ max first.seq (lastSeqOf rest)
      rcases List.mem_cons.mp listed with rfl | later
      · exact le_max_left _ _
      · exact (induction later).trans (le_max_right _ _)

theorem storesPublicMessage_above {store : Store} {row : PublicMessageRow}
    (stored : store.storesPublicMessage row = true) :
    ∀ old ∈ store.publicMessages, old.seq < row.seq := by
  simp only [storesPublicMessage, handsOutPublic, Bool.and_eq_true,
    List.all_eq_true, decide_eq_true_eq] at stored
  exact stored.2.1

theorem storesPrivateMessage_above {store : Store} {row : PrivateMessageRow}
    (stored : store.storesPrivateMessage row = true) :
    ∀ old ∈ store.privateMessages, old.seq < row.seq := by
  simp only [storesPrivateMessage, handsOut, Bool.and_eq_true,
    decide_eq_true_eq] at stored
  intro old listed
  exact (lastSeqOf_le listed).trans_lt stored.2.1

end Store

namespace RoleWritten

variable {store after : Store} {caller : Uuid} {call : RoleCall}
  (written : RoleWritten store caller call after)

include written

theorem only_roles :
    ∃ roles memberRoles, after = { store with roles, memberRoles } := by
  cases written with
  | assigned userId roleId =>
      simp only [Store.assignRole]
      split
      · exact ⟨_, _, rfl⟩
      · exact ⟨_, _, rfl⟩
  | _ => exact ⟨_, _, rfl⟩

end RoleWritten

theorem Store.banUser_only (store : Store) (userId bannedBy : Uuid)
    (reason : String) :
    ∃ bans, store.banUser userId bannedBy reason = { store with bans } := by
  simp only [Store.banUser]
  split <;> exact ⟨_, rfl⟩

namespace Statement

variable {start before after : Store} {request : Request} {groupId : Uuid}
  (statement : Statement start request before after)

include statement

private theorem endures (spared : request.deletes ≠ some groupId) :
    before.Endures groupId after := by
  cases statement with
  | deleteGroup user other signed named =>
      apply Store.Endures.deleteGroup
      rintro rfl
      exact spared named
  | storePublic row signed new stored =>
      have extended : Log.Extends PublicMessageRow.seq _ _ :=
        .append (Store.storesPublicMessage_above stored)
      exact ⟨extended.filter _, .refl _⟩
  | storePrivate row signed new stored =>
      have extended : Log.Extends PrivateMessageRow.seq _ _ :=
        .append (Store.storesPrivateMessage_above stored)
      exact ⟨.refl _, extended.filter _⟩
  | ban user target reason =>
      obtain ⟨bans, same⟩ := before.banUser_only target user reason
      rw [same]
      exact .of_eq rfl rfl
  | role user call after signed written =>
      obtain ⟨roles, memberRoles, rfl⟩ := written.only_roles
      exact .of_eq rfl rfl
  | elsewhere change same => exact .of_eq same.pub same.priv
  | _ => exact .of_eq rfl rfl

end Statement

namespace ServerCall

variable (crypto : AuthCrypto) (config : AuthConfig)

/-- The call deletes the channel: it names it, and its caller may. -/
def Erases (groupId : Uuid) (server : Server) (call : ServerCall) : Prop :=
  call.deletes = some groupId ∧
    server.store.kindOf groupId = some .pub ∧
    ∃ user, call.caller = some user ∧
      (Authz.effective server.store user).allows
        Permissions.manageChannels = true

private theorem deleteGroup_refused {decision : GuardrailDecision}
    {token : Option Claims} {text : Option IdText} {groupId : Uuid}
    {server : Server} (named : text.bind IdText.parse = some groupId)
    (refused : ¬ Erases groupId server (.deleteGroup decision token text)) :
    (step crypto config server (.deleteGroup decision token text)).store =
      server.store := by
  have unchanged : (GroupSvc.deleteGroup decision token text).Post
      server.store fun _ after => after = server.store := by
    apply post_authenticate (fun _ => rfl)
    intro claims signed
    refine (GroupSvc.readOnly_requireGroupId _).post_bind (fun _ _ => rfl) ?_
    intro id parsed
    have same : id = groupId :=
      Option.some.inj ((GroupSvc.requireGroupId_ok parsed).symm.trans named)
    refine ((readOnly_getGroup id).mapError _).post_bind (fun _ _ => rfl) ?_
    intro group found
    refine (Effect.readOnly_check _ _).post_bind (fun _ _ => rfl) ?_
    intro _ isPublic
    refine (Authz.readOnly_require _ _).post_bind (fun _ _ => rfl) ?_
    intro _ allowed
    have known := groupPublic_of_getGroup found
      (by simpa using Effect.check_ok isPublic)
    rw [same] at known
    exact absurd ⟨named, known, claims.sub, by rw [caller, signed]; rfl,
      Authz.require_ok allowed⟩ refused
  exact unchanged

private theorem step_endures {groupId : Uuid} (server : Server)
    (call : ServerCall)
    (spared : ¬ Erases groupId server call) :
    server.store.Endures groupId (step crypto config server call).store := by
  by_cases named : call.deletes = some groupId
  · cases call with
    | deleteGroup decision token text =>
        rw [deleteGroup_refused crypto config named spared]
        exact .refl _
    | _ => cases named
  · exact Led.relates Store.Endures.refl Store.Endures.trans
      (step_led crypto config server call)
      fun _ _ statement => statement.endures named

end ServerCall

/-! Who a private group is made of. -/

namespace Store

/-- Nobody was let into the group, and only its members wrote in it. -/
structure Closed (groupId : Uuid) (before after : Store) : Prop where
  kind : after.kindOf groupId = some .priv
  members : ∀ user, after.isMember groupId user = true →
    before.isMember groupId user = true
  pub : ∀ row ∈ after.publicOf groupId, row ∈ before.publicOf groupId ∨
    before.isMember groupId row.senderId = true
  priv : ∀ row ∈ after.privateOf groupId, row ∈ before.privateOf groupId ∨
    before.isMember groupId row.senderId = true
  endures : before.Endures groupId after

namespace Closed

variable {groupId : Uuid}

theorem refl {store : Store} (isPrivate : store.kindOf groupId = some .priv) :
    store.Closed groupId store :=
  ⟨isPrivate, fun _ member => member, fun _ listed => .inl listed,
    fun _ listed => .inl listed, .refl store⟩

theorem trans {first second third : Store}
    (closed : first.Closed groupId second)
    (again : second.Closed groupId third) : first.Closed groupId third where
  kind := again.kind
  members user member := closed.members user (again.members user member)
  pub row listed := by
    rcases again.pub row listed with earlier | member
    · exact closed.pub row earlier
    · exact .inr (closed.members row.senderId member)
  priv row listed := by
    rcases again.priv row listed with earlier | member
    · exact closed.priv row earlier
    · exact .inr (closed.members row.senderId member)
  endures := closed.endures.trans again.endures

private theorem of_rooms {before after : Store}
    (isPrivate : before.kindOf groupId = some .priv)
    (same : before.SameRooms after)
    (pub : after.publicMessages = before.publicMessages)
    (priv : after.privateMessages = before.privateMessages) :
    before.Closed groupId after where
  kind := same.kinds groupId .priv isPrivate
  members user member := by
    obtain ⟨row, listed, sameGroup, sameUser⟩ := isMember_iff.mp member
    exact isMember_iff.mpr ⟨row, same.members row listed, sameGroup, sameUser⟩
  pub row listed := by
    rw [publicOf, pub] at listed
    exact .inl listed
  priv row listed := by
    rw [privateOf, priv] at listed
    exact .inl listed
  endures := .of_eq pub priv

theorem of_eq {before after : Store}
    (isPrivate : before.kindOf groupId = some .priv)
    (groups : after.groups = before.groups)
    (members : after.groupMembers = before.groupMembers)
    (pub : after.publicMessages = before.publicMessages)
    (priv : after.privateMessages = before.privateMessages) :
    before.Closed groupId after where
  kind := by
    simp only [kindOf, groups]
    exact isPrivate
  members user member := by
    simp only [isMember, members] at member
    exact member
  pub row listed := by
    rw [publicOf, pub] at listed
    exact .inl listed
  priv row listed := by
    rw [privateOf, priv] at listed
    exact .inl listed
  endures := .of_eq pub priv

end Closed

private theorem kindOf_deleteGroup {store : Store} {groupId other : Uuid}
    (apart : other ≠ groupId) :
    (store.deleteGroup other).kindOf groupId = store.kindOf groupId := by
  simp only [kindOf, deleteGroup, List.find?_filter]
  congr 2
  funext group
  by_cases named : group.id = groupId
  · simp [named, apart.symm]
  · simp [named]

private theorem hasGroup_of_kindOf {store : Store} {groupId : Uuid}
    {kind : GroupKind}
    (known : store.kindOf groupId = some kind) :
    store.hasGroup groupId = true := by
  simp only [kindOf, Option.map_eq_some_iff] at known
  obtain ⟨group, found, _⟩ := known
  have named := List.find?_some (p := fun row : GroupRow =>
    row.id == groupId) found
  exact List.any_eq_true.mpr ⟨group, List.mem_of_find?_eq_some found, named⟩

end Store

namespace Entry

variable {start before : Store} {request : Request} {groupId userId : Uuid}

/-- A private group that the call found there takes nobody in, but for the one
that stands where accounts are put when they sign in. -/
private theorem not_private (entry : Entry start request before groupId userId)
    (found : start.hasGroup groupId = true)
    (isPrivate : before.kindOf groupId = some .priv) :
    groupId = AuthSvc.defaultPublicChannelId := by
  cases entry with
  | lobby user listed named ordinary signedOut hall => exact hall
  | founded signed new =>
      rw [found] at new
      cases new
  | added adder signed isPublic =>
      rw [isPrivate] at isPublic
      cases isPublic
  | joined signed isPublic =>
      rw [isPrivate] at isPublic
      cases isPublic

end Entry

namespace Statement

variable {start before after : Store} {request : Request} {groupId : Uuid}

theorem closed (statement : Statement start request before after)
    (found : start.hasGroup groupId = true)
    (apart : groupId ≠ AuthSvc.defaultPublicChannelId)
    (isPrivate : before.kindOf groupId = some .priv) :
    before.Closed groupId after := by
  cases statement with
  | enter other user role entry =>
      have elsewhere : other ≠ groupId := by
        rintro rfl
        exact apart (entry.not_private found isPrivate)
      refine ⟨isPrivate, ?_, fun _ listed => .inl listed,
        fun _ listed => .inl listed, .of_eq rfl rfl⟩
      intro member present
      rcases (Store.isMember_append before ⟨other, user, role⟩ groupId
        member).mp present with earlier | ⟨same, _⟩
      · exact earlier
      · exact absurd same elsewhere
  | remove user other target =>
      have fewer : before.SameRooms (before.removeMember other target) :=
        ⟨rfl, fun _ _ known => known,
          fun row listed => (List.mem_filter.mp listed).1⟩
      exact .of_rooms isPrivate fewer rfl rfl
  | createChannel user row =>
      exact .of_rooms isPrivate (sameRooms_append_group before row) rfl rfl
  | createPrivate row =>
      exact .of_rooms isPrivate (sameRooms_append_group before row) rfl rfl
  | deleteGroup user other signed named isPublic =>
      have elsewhere : other ≠ groupId := by
        rintro rfl
        rw [isPrivate] at isPublic
        cases isPublic
      refine ⟨?_, ?_, ?_, ?_, .deleteGroup before elsewhere⟩
      · rw [Store.kindOf_deleteGroup elsewhere]
        exact isPrivate
      · intro member present
        obtain ⟨row, listed, sameGroup, sameUser⟩ :=
          Store.isMember_iff.mp present
        exact Store.isMember_iff.mpr
          ⟨row, List.mem_of_mem_filter listed, sameGroup, sameUser⟩
      · intro row listed
        obtain ⟨kept, inGroup⟩ := List.mem_filter.mp listed
        exact .inl (List.mem_filter.mpr
          ⟨List.mem_of_mem_filter kept, inGroup⟩)
      · intro row listed
        obtain ⟨kept, inGroup⟩ := List.mem_filter.mp listed
        exact .inl (List.mem_filter.mpr
          ⟨List.mem_of_mem_filter kept, inGroup⟩)
  | placeChannels user categoryId ids =>
      exact .of_rooms isPrivate
        (sameRooms_reorderChannels before categoryId ids) rfl rfl
  | clearCategory user id =>
      exact .of_rooms isPrivate (sameRooms_deleteCategory before id) rfl rfl
  | rename user displayName avatarUrl =>
      exact .of_rooms isPrivate
        (sameRooms_updateProfile before user displayName avatarUrl) rfl rfl
  | storePublic row signed new stored member =>
      refine ⟨isPrivate, fun _ present => present, ?_,
        fun _ listed => .inl listed,
        (show Statement start ⟨request.caller, none, none⟩ before _ from
          .storePublic row signed new stored member).endures nofun⟩
      intro later listed
      obtain ⟨added, inGroup⟩ := List.mem_filter.mp listed
      rcases List.mem_append.mp added with earlier | newest
      · exact .inl (List.mem_filter.mpr ⟨earlier, inGroup⟩)
      · rw [List.mem_singleton.mp newest] at inGroup ⊢
        rw [← beq_iff_eq.mp inGroup]
        exact .inr member
  | storePrivate row signed new stored member =>
      refine ⟨isPrivate, fun _ present => present,
        fun _ listed => .inl listed, ?_,
        (show Statement start ⟨request.caller, none, none⟩ before _ from
          .storePrivate row signed new stored member).endures nofun⟩
      intro later listed
      obtain ⟨added, inGroup⟩ := List.mem_filter.mp listed
      rcases List.mem_append.mp added with earlier | newest
      · exact .inl (List.mem_filter.mpr ⟨earlier, inGroup⟩)
      · rw [List.mem_singleton.mp newest] at inGroup ⊢
        rw [← beq_iff_eq.mp inGroup]
        exact .inr member
  | ban user target reason =>
      obtain ⟨bans, same⟩ := before.banUser_only target user reason
      rw [same]
      exact .of_eq isPrivate rfl rfl rfl rfl
  | role user call after signed written =>
      obtain ⟨roles, memberRoles, rfl⟩ := written.only_roles
      exact .of_eq isPrivate rfl rfl rfl rfl
  | elsewhere change same =>
      exact .of_eq isPrivate same.groups same.members same.pub same.priv
  | _ => exact .of_eq isPrivate rfl rfl rfl rfl

end Statement

namespace ServerCall

variable (crypto : AuthCrypto) (config : AuthConfig)

private theorem step_closed {groupId : Uuid}
    (apart : groupId ≠ AuthSvc.defaultPublicChannelId) (server : Server)
    (call : ServerCall)
    (isPrivate : server.store.kindOf groupId = some .priv) :
    server.store.Closed groupId (step crypto config server call).store := by
  have found := Store.hasGroup_of_kindOf isPrivate
  exact (step_led crypto config server call).keeps _
    (fun _ _ statement closed =>
      closed.trans (statement.closed found apart closed.kind))
    (.refl isPrivate)

/-- In every run a private group stays one, takes nobody in, and holds only
what its members wrote, all of which stays. -/
theorem private_group_closed (server : Server) (calls : List ServerCall)
    {groupId : Uuid} (isPrivate : server.store.kindOf groupId = some .priv)
    (apart : groupId ≠ AuthSvc.defaultPublicChannelId) :
    server.store.Closed groupId
      (EventRun.run (step crypto config) server calls).store := by
  have always : EventRun.Always (step crypto config)
      (fun after => server.store.Closed groupId after.store) server calls :=
    EventRun.always_of_kept
    (fun after call closed =>
      closed.trans (step_closed crypto config apart after call closed.kind))
    (.refl isPrivate) calls
  exact always.last

/-- A direct message between the first two accounts; then the third one signs
in, and the second one leaves. -/
def directStore : Store where
  users := [⟨1, "first", "First", "one", true, false, none, ""⟩,
    ⟨2, "second", "Second", "two", false, false, none, ""⟩,
    ⟨3, "third", "Third", "three", false, false, none, ""⟩]
  devices := [⟨10, 1, "desktop", none⟩, ⟨20, 2, "desktop", none⟩]
  groups := [⟨8, "Direct message", "", .priv, .text, "", 0⟩]
  groupMembers := [⟨8, 1, "owner"⟩, ⟨8, 2, "member"⟩]

def visits : List ServerCall := [
  .session (.login ⟨0, 30, "refresh"⟩ ⟨"third", "three", "laptop"⟩),
  .group (.addMembers (some ⟨1, 10⟩) ⟨some (.uuid 8), [.uuid 3]⟩),
  .privateMessage (fun _ => .ok ()) InboxCodec.json true
    ⟨900, 1, 1500⟩ 70 ⟨2, 20⟩ ⟨some (.uuid 8), [7], 0, none⟩,
  .group (.kickMember .allow (some ⟨2, 20⟩) ⟨some (.uuid 8), some (.uuid 2)⟩)]

theorem direct_message_closed :
    directStore.Closed 8 (EventRun.run (step hallCrypto ⟨true, true⟩)
      { store := directStore } visits).store :=
  private_group_closed hallCrypto ⟨true, true⟩ { store := directStore } visits
    (by decide) (by decide)

/-- Once the default channel is gone, a private group may take its id, and
then everybody who signs in gets into it. -/
example :
    (EventRun.run (step hallCrypto ⟨true, true⟩) { store := directStore } [
      .group (.createPrivateGroup (fun _ => .ok ()) (some ⟨1, 10⟩)
        ⟨some (.uuid AuthSvc.defaultPublicChannelId), "", [.uuid 2], []⟩),
      .session (.login ⟨0, 30, "refresh"⟩ ⟨"third", "three", "laptop"⟩)
        ]).store.isMember AuthSvc.defaultPublicChannelId 3 = true := by
  decide

end ServerCall

/-! Accounts. -/

/-- All of an account but the name and the picture it shows. -/
def UserRow.unnamed (user : UserRow) : UserRow :=
  { user with displayName := "", avatarUrl := "" }

namespace Store

/-- Accounts are added at the end and never altered, but for the names and
pictures that some of them gave themselves; the owner stays the owner, and
unbanned. -/
structure KeepsAccounts (renamed : Uuid → Prop) (before after : Store) :
    Prop where
  accounts : before.users.map UserRow.unnamed <+:
    after.users.map UserRow.unnamed
  names : ∀ user ∈ before.users, user ∈ after.users ∨ renamed user.id
  owner : ∀ user, before.isOwner user = true → before.isBanned user = false →
    after.isBanned user = false

namespace KeepsAccounts

variable {renamed : Uuid → Prop}

theorem isOwner {before after : Store}
    (kept : before.KeepsAccounts renamed after) {user : Uuid}
    (owner : before.isOwner user = true) : after.isOwner user = true := by
  obtain ⟨row, listed, named, owns⟩ := isOwner_iff.mp owner
  have found : row.unnamed ∈ after.users.map UserRow.unnamed :=
    kept.accounts.subset (List.mem_map_of_mem listed)
  obtain ⟨later, present, same⟩ := List.mem_map.mp found
  simp only [UserRow.unnamed, UserRow.mk.injEq] at same
  exact isOwner_iff.mpr ⟨later, present, same.1.trans named,
    same.2.2.2.2.1.trans owns⟩

theorem refl (store : Store) : store.KeepsAccounts renamed store :=
  ⟨List.prefix_rfl, fun _ listed => .inl listed, fun _ _ unbanned => unbanned⟩

theorem trans {first second third : Store}
    (kept : first.KeepsAccounts renamed second)
    (again : second.KeepsAccounts renamed third) :
    first.KeepsAccounts renamed third where
  accounts := kept.accounts.trans again.accounts
  names user listed := by
    rcases kept.names user listed with same | changed
    · exact again.names user same
    · exact .inr changed
  owner user owner unbanned :=
    again.owner user (kept.isOwner owner) (kept.owner user owner unbanned)

theorem of_eq {before after : Store} (users : after.users = before.users)
    (bans : after.bans = before.bans) :
    before.KeepsAccounts renamed after where
  accounts := ⟨[], by rw [users, List.append_nil]⟩
  names user listed := by
    rw [users]
    exact .inl listed
  owner user owner unbanned := by
    simp only [isBanned, bans]
    exact unbanned

theorem imp {before after : Store}
    (kept : before.KeepsAccounts renamed after) {more : Uuid → Prop}
    (weaken : ∀ user, renamed user → more user) :
    before.KeepsAccounts more after where
  accounts := kept.accounts
  names user listed := (kept.names user listed).imp id (weaken user.id)
  owner := kept.owner

theorem banUser {store : Store} {target : Uuid}
    (notOwner : store.isOwner target = false) (bannedBy : Uuid)
    (reason : String) :
    store.KeepsAccounts renamed (store.banUser target bannedBy reason) := by
  obtain ⟨bans, same⟩ := store.banUser_only target bannedBy reason
  refine ⟨?_, ?_, ?_⟩
  · exact ⟨[], by rw [same, List.append_nil]⟩
  · intro user listed
    rw [same]
    exact .inl listed
  · intro user owner unbanned
    have apart : user ≠ target := by
      rintro rfl
      rw [owner] at notOwner
      cases notOwner
    simp only [isBanned, List.any_eq_false, beq_iff_eq] at unbanned ⊢
    intro ban listed
    simp only [Store.banUser] at listed
    split at listed
    · obtain ⟨earlier, present, rfl⟩ := List.mem_map.mp listed
      split <;> exact unbanned earlier present
    · rcases List.mem_append.mp listed with present | added
      · exact unbanned ban present
      · rw [List.mem_singleton.mp added]
        exact apart.symm

theorem unbanUser (store : Store) (target : Uuid) :
    store.KeepsAccounts renamed (store.unbanUser target) := by
  refine ⟨List.prefix_rfl, fun _ listed => .inl listed, ?_⟩
  intro user _ unbanned
  simp only [isBanned, List.any_eq_false] at unbanned ⊢
  intro ban listed
  exact unbanned ban (List.mem_of_mem_filter listed)

theorem updateProfile (store : Store) {userId : Uuid}
    (own : renamed userId) (displayName avatarUrl : String) :
    store.KeepsAccounts renamed
      (store.updateProfile userId displayName avatarUrl) where
  accounts := by
    have same : (store.updateProfile userId displayName avatarUrl).users.map
        UserRow.unnamed = store.users.map UserRow.unnamed := by
      simp only [Store.updateProfile, List.map_map]
      apply List.map_congr_left
      intro user _
      simp only [Function.comp_apply]
      split <;> rfl
    exact ⟨[], by rw [same, List.append_nil]⟩
  names user listed := by
    by_cases named : user.id = userId
    · rw [named]
      exact .inr own
    · left
      have kept : (fun user : UserRow =>
          if user.id == userId then { user with displayName, avatarUrl }
          else user) user = user := if_neg (by simpa using named)
      rw [← kept]
      exact List.mem_map_of_mem listed
  owner _ _ unbanned := unbanned

end KeepsAccounts

end Store

namespace Statement

variable {start before after : Store} {request : Request}

theorem keepsAccounts (statement : Statement start request before after) :
    before.KeepsAccounts (request.caller = some ·) after := by
  cases statement with
  | register row =>
      refine ⟨?_, fun _ listed => .inl (List.mem_append_left _ listed),
        fun _ _ unbanned => unbanned⟩
      rw [List.map_append]
      exact List.prefix_append _ _
  | ban user target reason signed allowed notOwner =>
      exact .banUser notOwner user reason
  | unban user target => exact .unbanUser before target
  | rename user displayName avatarUrl signed =>
      exact .updateProfile before signed displayName avatarUrl
  | role user call after signed written =>
      obtain ⟨roles, memberRoles, rfl⟩ := written.only_roles
      exact .of_eq rfl rfl
  | elsewhere change same => exact .of_eq same.users same.bans
  | _ => exact .of_eq rfl rfl

end Statement

namespace ServerCall

variable (crypto : AuthCrypto) (config : AuthConfig)

private theorem step_keepsAccounts (server : Server) (call : ServerCall) :
    server.store.KeepsAccounts (call.caller = some ·)
      (step crypto config server call).store :=
  Led.relates Store.KeepsAccounts.refl Store.KeepsAccounts.trans
    (step_led crypto config server call)
    fun _ _ statement => statement.keepsAccounts

/-- In every run accounts stay, with all that they sign in with; only their
own calls change the name and the picture they show; and the owner keeps every
permission and is never banned. -/
theorem accounts_endure (server : Server) (calls : List ServerCall) :
    (server.store.KeepsAccounts
      (fun user => ∃ call ∈ calls, call.caller = some user)
      (EventRun.run (step crypto config) server calls).store) ∧
    ∀ user, server.store.isOwner user = true →
      Authz.effective (EventRun.run (step crypto config) server calls).store
        user = Permissions.all := by
  have kept : server.store.KeepsAccounts
      (fun user => ∃ call ∈ calls, call.caller = some user)
      (EventRun.run (step crypto config) server calls).store :=
    EventRun.relates_of_each
      (fun before after : Server => before.store.KeepsAccounts _ after.store)
      (fun server => .refl server.store)
      (fun kept again => kept.trans again)
      (fun server call listed => (step_keepsAccounts crypto config server
        call).imp fun _ signed => ⟨call, listed, signed⟩)
      (EventRun.each_mem server calls)
  refine ⟨kept, fun user owner => ?_⟩
  simp only [Authz.effective, kept.isOwner owner, if_true]

end ServerCall

end Accord
